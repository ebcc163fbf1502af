import CloudLifecycle.Proofs.Network.Classification

/-!
# What a network specification asks for

A specification that can be classified has one entry that is not a vip network, and this entry
decides the interface of the VM: a manual network brings a network and an address, a dynamic one at
most a network (`NetworkRoles.nic_of_classify`).  It asks for a floating address if it has an entry
of a vip network (`NetworkRoles.vip_of_classify`).
-/

set_option autoImplicit false

namespace CloudLifecycle

namespace NetworkEntry

/-- The entry is the one of a primary network, whose interface has this network and this address. -/
inductive Connects (entry : NetworkEntry) : NicParams → Prop where
  | dynamic (kind : entry.kind = some "dynamic") :
      Connects entry ⟨entry.cloudProperties.netId, none⟩
  /-- An entry without a type is manual. -/
  | manual {netId ip : String} (kind : entry.kind.getD "manual" = "manual")
      (network : entry.cloudProperties.netId = some netId) (address : entry.ip = some ip) :
      Connects entry ⟨some netId, some ip⟩

/-- An address needs a network that it belongs to. -/
theorem Connects.netId_of_fixedIp {entry : NetworkEntry} {nic : NicParams}
    (h : entry.Connects nic) (fixed : nic.fixedIp.isSome) : nic.netId.isSome := by
  cases h with
  | dynamic _ => cases fixed
  | manual _ _ _ => rfl

end NetworkEntry

namespace NetworkSpec

/-- The one entry of a specification that is no vip network. -/
structure Primary (spec : NetworkSpec) (name : String) (entry : NetworkEntry) : Prop where
  named : spec.find? name = some entry
  connecting : entry.kind ≠ some "vip"
  only : ∀ other ∈ spec.entries, other.2.kind ≠ some "vip" → other = (name, entry)

/-- The specification asks for a floating address. -/
def AsksVip (spec : NetworkSpec) (ip : String) : Prop :=
  ∃ entry ∈ spec.entries, entry.2.kind = some "vip" ∧ entry.2.ip = some ip

end NetworkSpec

namespace NetworkRoles

open NetworkEntry

variable {spec : NetworkSpec} {roles : NetworkRoles}

/-- **The interface of a VM** is that of the one entry that is no vip network. -/
theorem nic_of_classify (h : classify spec = .ok roles) :
    ∃ name entry, spec.Primary name entry ∧ entry.Connects roles.nic := by
  obtain ⟨_, casting⟩ := classify_eq_ok_iff.1 h
  obtain ⟨name, entry, found, plays⟩ := casting.primary_eq_iff.1 rfl
  refine ⟨name, entry, ⟨found, fun vip => ?_, fun other member connecting => ?_⟩, ?_⟩
  · exact plays.isPrimary.not_isVip ((type_eq_iff (by decide)).2 vip)
  · obtain ⟨role, playsOther⟩ := casting.exists_plays member
    cases role with
    | vip v => exact absurd ((type_eq_iff (by decide)).1 playsOther.isVip) connecting
    | primary p =>
      have foundOther := Dict.find?_eq_some_iff.2 member
      have same := casting.primary_eq_iff.2 ⟨_, _, foundOther, playsOther⟩
      have name : other.1 = name := playsOther.name_eq.symm.trans (same ▸ plays.name_eq)
      rw [name, found] at foundOther
      exact Prod.ext name (Option.some.inj foundOther).symm
  · obtain ⟨primary, vip, groups⟩ := roles
    cases plays with
    | dynamic type => exact .dynamic ((type_eq_iff (by decide)).1 type)
    | manual type network address _ => exact .manual type network address

/-- The vip network of a specification has the address that the specification asks for. -/
theorem vip_of_classify (h : classify spec = .ok roles) (ip : String) :
    spec.AsksVip ip ↔ roles.vip.map VipNetwork.ip = some ip := by
  obtain ⟨_, casting⟩ := classify_eq_ok_iff.1 h
  rw [Option.map_eq_some_iff]
  simp only [casting.vip_eq_some_iff]
  constructor
  · rintro ⟨e, member, kind, address⟩
    obtain ⟨role, plays⟩ := casting.exists_plays member
    have vip := (type_eq_iff (by decide)).2 kind
    cases plays with
    | dynamic type => exact absurd vip (IsPrimary.not_isVip (.inl type))
    | manual type _ _ _ => exact absurd vip (IsPrimary.not_isVip (.inr type))
    | vip type given nonempty =>
      exact ⟨_, ⟨e.1, e.2, Dict.find?_eq_some_iff.2 member, .vip type given nonempty⟩,
        Option.some.inj (given.symm.trans address)⟩
  · rintro ⟨v, ⟨name, entry, found, plays⟩, rfl⟩
    cases plays with
    | vip type given _ =>
      exact ⟨(name, entry), Dict.find?_eq_some_iff.1 found, (type_eq_iff (by decide)).1 type, given⟩

end NetworkRoles

end CloudLifecycle
