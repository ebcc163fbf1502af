import CloudLifecycle.Network.Roles
import CloudLifecycle.Proofs.Json.Values
import CloudLifecycle.Proofs.Text.ByteOrder

/-!
# Which network specifications have roles

An entry plays a role by itself: a dynamic entry is a primary network, a manual one is if it has a
network and an address, and a vip entry brings its address (`NetworkEntry.Plays`).  The entries of a
specification go through one after another, and a role that may be played once is refused to every
entry after the first.  Put together, a specification has roles exactly if each of its entries plays
one and their list has one primary network and at most one vip network
(`NetworkRoles.classify_eq_ok_iff`).  So the order of the names does not matter
(`NetworkRoles.classify_iff_expressible`).

The security groups are those that any entry names or else the defaults, each once and in ascending
order (`NetworkRoles.mem_securityGroups`).
-/

set_option autoImplicit false

namespace CloudLifecycle

/-- What a network entry is to its VM. -/
inductive NetworkRole where
  | primary (network : PrimaryNetwork)
  | vip (network : VipNetwork)

namespace NetworkRole

@[simp]
def primary? : NetworkRole → Option PrimaryNetwork
  | .primary network => some network
  | .vip _ => none

@[simp]
def vip? : NetworkRole → Option VipNetwork
  | .primary _ => none
  | .vip network => some network

end NetworkRole

theorem mem_sortedOnce {items : List String} {item : String} :
    item ∈ sortedOnce items ↔ item ∈ items := by
  unfold sortedOnce
  rw [Dict.mem_keys_ofList, List.map_map]
  simp

theorem ascending_sortedOnce (items : List String) :
    (sortedOnce items).Pairwise (· < ·) :=
  List.pairwise_map.2 (Dict.ofList (items.map fun item => (item, ()))).ascending

namespace NetworkEntry

variable {entry : NetworkEntry} {name : String}

/-- The type of an entry, which is manual if it is not given. -/
def type (entry : NetworkEntry) : String := entry.kind.getD "manual"

/-- The entry is one for the interface of the VM. -/
def IsPrimary (entry : NetworkEntry) : Prop := entry.type = "dynamic" ∨ entry.type = "manual"

def IsVip (entry : NetworkEntry) : Prop := entry.type = "vip"

instance : DecidablePred IsPrimary := fun _ => inferInstanceAs (Decidable (_ ∨ _))

instance : DecidablePred IsVip := fun _ => inferInstanceAs (Decidable (_ = _))

/-- The entry has an address that is not empty. -/
def HasAddress (entry : NetworkEntry) : Prop := ∃ ip, entry.ip = some ip ∧ ip ≠ ""

/-- The entry plays this role under its name, with its own network, address and router. -/
inductive Plays (entry : NetworkEntry) (name : String) : NetworkRole → Prop where
  | dynamic (type : entry.type = "dynamic") :
      Plays entry name (.primary (.dynamic name entry.cloudProperties.netId))
  | manual {netId ip : String} (type : entry.type = "manual")
      (network : entry.cloudProperties.netId = some netId) (address : entry.ip = some ip)
      (given : ip ≠ "") :
      Plays entry name (.primary (.manual name netId ip entry.cloudProperties.routerId))
  | vip {ip : String} (type : entry.type = "vip") (address : entry.ip = some ip)
      (given : ip ≠ "") : Plays entry name (.vip ⟨name, ip⟩)

/-- A type other than manual is one that is given. -/
theorem type_eq_iff {type : String} (other : type ≠ "manual") :
    entry.type = type ↔ entry.kind = some type := by
  unfold NetworkEntry.type
  cases entry.kind with
  | none => simp [other.symm]
  | some kind => simp

theorem Plays.isPrimary {p : PrimaryNetwork} (h : entry.Plays name (.primary p)) :
    entry.IsPrimary := by
  cases h with
  | dynamic type => exact .inl type
  | manual type _ _ _ => exact .inr type

theorem Plays.isVip {v : VipNetwork} (h : entry.Plays name (.vip v)) : entry.IsVip := by
  cases h with
  | vip type _ _ => exact type

theorem IsPrimary.not_isVip (h : entry.IsPrimary) : ¬entry.IsVip := by
  intro vip
  unfold IsVip at vip
  rcases h with type | type <;> rw [vip] at type <;> simp at type

theorem Plays.name_eq {p : PrimaryNetwork} (h : entry.Plays name (.primary p)) : p.name = name := by
  cases h with
  | dynamic _ => rfl
  | manual _ _ _ _ => rfl

/-- An entry plays one role. -/
theorem Plays.unique {role other : NetworkRole} (h : entry.Plays name role)
    (ho : entry.Plays name other) : role = other := by
  cases h with
  | dynamic type =>
    cases ho with
    | dynamic _ => rfl
    | manual other _ _ _ => simp [type] at other
    | vip other _ _ => simp [type] at other
  | manual type network address _ =>
    cases ho with
    | dynamic other => simp [type] at other
    | manual _ network' address' _ =>
      obtain rfl := Option.some.inj (network.symm.trans network')
      obtain rfl := Option.some.inj (address.symm.trans address')
      rfl
    | vip other _ _ => simp [type] at other
  | vip type address _ =>
    cases ho with
    | dynamic other => simp [type] at other
    | manual other _ _ _ => simp [type] at other
    | vip _ address' _ =>
      obtain rfl := Option.some.inj (address.symm.trans address')
      rfl

end NetworkEntry

namespace NetworkRoles

open NetworkEntry

variable {name : String} {entry : NetworkEntry} {draft next last : Draft}

/-! ## One entry -/

theorem bind_nonEmpty?_eq_some_iff {given : Option String} {text : String} :
    given.bind nonEmpty? = some text ↔ given = some text ∧ text ≠ "" := by
  unfold nonEmpty?
  cases given with
  | none => simp
  | some other =>
    rw [Option.bind_some, Option.some.injEq]
    split
    · rename_i empty
      rw [String.isEmpty_iff] at empty
      simp only [reduceCtorEq, false_iff, not_and, not_not]
      rintro rfl
      exact empty
    · rename_i nonempty
      rw [String.isEmpty_iff] at nonempty
      rw [Option.some.injEq]
      constructor
      · rintro rfl
        exact ⟨rfl, nonempty⟩
      · exact fun h => h.1

theorem manualNetwork_eq_ok_iff (type : entry.type = "manual") {p : PrimaryNetwork} :
    manualNetwork name entry = .ok p ↔ entry.Plays name (.primary p) := by
  unfold manualNetwork
  constructor
  · intro h
    split at h
    · cases h
    · rename_i netId network
      split at h
      · cases h
      · rename_i ip found
        obtain rfl := Except.ok.inj h
        obtain ⟨address, given⟩ := bind_nonEmpty?_eq_some_iff.1 found
        exact .manual type network address given
  · intro h
    cases h with
    | dynamic other => simp [type] at other
    | manual _ network address given =>
      simp only [network, bind_nonEmpty?_eq_some_iff.2 ⟨address, given⟩]

theorem vipNetwork_eq_ok_iff (type : entry.type = "vip") {v : VipNetwork} :
    vipNetwork name entry = .ok v ↔ entry.Plays name (.vip v) := by
  unfold vipNetwork
  constructor
  · intro h
    split at h
    · cases h
    · rename_i ip found
      obtain rfl := Except.ok.inj h
      obtain ⟨address, given⟩ := bind_nonEmpty?_eq_some_iff.1 found
      exact .vip type address given
  · intro h
    cases h with
    | vip _ address given => simp only [bind_nonEmpty?_eq_some_iff.2 ⟨address, given⟩]

theorem setPrimary_eq_ok_iff {network : Except CpiError PrimaryNetwork} :
    draft.setPrimary network = .ok next ↔
      draft.primary = none ∧ ∃ p, network = .ok p ∧ next = { draft with primary := some p } := by
  unfold Draft.setPrimary
  cases draft.primary with
  | some p => simp
  | none => cases network <;> simp [Except.map, eq_comm]

theorem setVip_eq_ok_iff {network : Except CpiError VipNetwork} :
    draft.setVip network = .ok next ↔
      draft.vip = none ∧ ∃ v, network = .ok v ∧ next = { draft with vip := some v } := by
  unfold Draft.setVip
  cases draft.vip with
  | some v => simp
  | none => cases network <;> simp [Except.map, eq_comm]

/-- What an entry does to a draft: it takes its role, which nothing has taken before, and adds its
security groups. -/
inductive Joins (name : String) (entry : NetworkEntry) (draft : Draft) : Draft → Prop where
  | primary {p : PrimaryNetwork} (plays : entry.Plays name (.primary p))
      (unset : draft.primary = none) :
      Joins name entry draft ⟨some p, draft.vip,
        draft.groups ++ entry.cloudProperties.securityGroups⟩
  | vip {v : VipNetwork} (plays : entry.Plays name (.vip v)) (unset : draft.vip = none) :
      Joins name entry draft ⟨draft.primary, some v,
        draft.groups ++ entry.cloudProperties.securityGroups⟩

/-- An entry is taken in exactly if it joins the draft. -/
theorem addEntry_eq_ok_iff :
    draft.addEntry name entry = .ok next ↔ Joins name entry draft next := by
  -- The entry is taken in, and then its security groups are.
  have taken {taken : Except CpiError Draft} :
      (taken >>= fun draft => pure { draft with
        groups := draft.groups ++ entry.cloudProperties.securityGroups }) = .ok next ↔
      ∃ middle, taken = .ok middle ∧ next = { middle with
        groups := middle.groups ++ entry.cloudProperties.securityGroups } := by
    cases taken with
    | error e => exact ⟨nofun, nofun⟩
    | ok middle => simp [bind, Except.bind, pure, Except.pure, eq_comm]
  have primary {network : Except CpiError PrimaryNetwork} (type : entry.IsPrimary)
      (plays : ∀ p, network = .ok p ↔ entry.Plays name (.primary p)) :
      (draft.setPrimary network >>= fun draft => pure { draft with
        groups := draft.groups ++ entry.cloudProperties.securityGroups }) = .ok next ↔
      Joins name entry draft next := by
    simp only [taken, setPrimary_eq_ok_iff, plays]
    constructor
    · rintro ⟨_, ⟨unset, p, plays, rfl⟩, rfl⟩
      exact .primary plays unset
    · intro joins
      cases joins with
      | primary plays unset => exact ⟨_, ⟨unset, _, plays, rfl⟩, rfl⟩
      | vip plays _ => exact absurd plays.isVip type.not_isVip
  unfold Draft.addEntry
  dsimp only
  split
  · rename_i type
    refine primary (.inl type) fun p => ⟨?_, fun plays => ?_⟩
    · intro same
      obtain rfl := Except.ok.inj same
      exact .dynamic type
    · cases plays with
      | dynamic _ => rfl
      | manual other _ _ _ => exact absurd (type.symm.trans other) (by decide)
  · rename_i type
    exact primary (.inr type) fun p => manualNetwork_eq_ok_iff type
  · rename_i type
    simp only [taken, setVip_eq_ok_iff, vipNetwork_eq_ok_iff type]
    constructor
    · rintro ⟨_, ⟨unset, v, plays, rfl⟩, rfl⟩
      exact .vip plays unset
    · intro joins
      cases joins with
      | primary plays _ => exact absurd type plays.isPrimary.not_isVip
      | vip plays unset => exact ⟨_, ⟨unset, _, plays, rfl⟩, rfl⟩
  · rename_i notDynamic notManual notVip
    refine ⟨nofun, fun joins => ?_⟩
    cases joins with
    | primary plays _ => exact (plays.isPrimary.elim notDynamic notManual).elim
    | vip plays _ => exact (notVip plays.isVip).elim

/-! ## All entries -/

/-- **The entries of a draft.**  They are taken in exactly if each plays a role and the roles that
may be played once are played once, by the draft before or by one of them. -/
theorem gather_eq_ok_iff {entries : List (String × NetworkEntry)} :
    gather entries draft = .ok last ↔
      ∃ roles, List.Forall₂ (fun e role => e.2.Plays e.1 role) entries roles ∧
        draft.primary.toList ++ roles.filterMap NetworkRole.primary? = last.primary.toList ∧
        draft.vip.toList ++ roles.filterMap NetworkRole.vip? = last.vip.toList ∧
        last.groups =
          draft.groups ++ entries.flatMap fun e => e.2.cloudProperties.securityGroups := by
  induction entries generalizing draft with
  | nil =>
    constructor
    · intro h
      obtain rfl := Except.ok.inj h
      exact ⟨[], .nil, by simp⟩
    · rintro ⟨_, none, primary, vip, groups⟩
      cases none
      obtain ⟨p, v, gs⟩ := draft
      obtain ⟨p', v', gs'⟩ := last
      simp only [List.filterMap_nil, List.append_nil, List.flatMap_nil] at primary vip groups
      obtain rfl : p = p' := by simpa using congrArg List.head? primary
      obtain rfl : v = v' := by simpa using congrArg List.head? vip
      rw [gather, groups]
  | cons e rest ih =>
    obtain ⟨name, entry⟩ := e
    have first : gather ((name, entry) :: rest) draft = .ok last ↔
        ∃ next, Joins name entry draft next ∧ gather rest next = .ok last := by
      simp only [← addEntry_eq_ok_iff, gather]
      cases draft.addEntry name entry <;> simp [bind, Except.bind]
    simp only [first, ih]
    constructor
    · rintro ⟨_, joins, roles, played, primary, vip, groups⟩
      cases joins with
      | primary plays unset =>
        exact ⟨_, .cons plays played, by simpa [unset, List.filterMap_cons] using primary,
          by simpa [List.filterMap_cons] using vip, by simpa using groups⟩
      | vip plays unset =>
        exact ⟨_, .cons plays played, by simpa [List.filterMap_cons] using primary,
          by simpa [unset, List.filterMap_cons] using vip, by simpa using groups⟩
    · rintro ⟨_, played, primary, vip, groups⟩
      cases played with
      | @cons _ role _ roles plays played =>
        -- Two roles that may be played once do not fit into the last draft.
        have alone {α : Type} {before last : Option α} {role : α} {more : List α}
            (h : before.toList ++ role :: more = last.toList) : before = none := by
          cases before with
          | none => rfl
          | some _ => cases last <;> simp at h
        cases role with
        | primary p =>
          have unset := alone primary
          exact ⟨_, .primary plays unset, roles, played,
            by simpa [unset, List.filterMap_cons] using primary,
            by simpa [List.filterMap_cons] using vip, by simpa using groups⟩
        | vip v =>
          have unset := alone vip
          exact ⟨_, .vip plays unset, roles, played,
            by simpa [List.filterMap_cons] using primary,
            by simpa [unset, List.filterMap_cons] using vip, by simpa using groups⟩

variable {spec : NetworkSpec} {roles : NetworkRoles} {entries : List (String × NetworkEntry)}
  {played : List NetworkRole}

theorem mem_played_iff (h : List.Forall₂ (fun e role => e.2.Plays e.1 role) entries played)
    {role : NetworkRole} : role ∈ played ↔ ∃ e ∈ entries, e.2.Plays e.1 role := by
  refine ⟨exists_left_of_mem h, fun ⟨e, he, plays⟩ => ?_⟩
  obtain ⟨other, hr, same⟩ := exists_right_of_mem h he
  rwa [plays.unique same]

/-- As many primary and vip networks are played as there are entries of these types. -/
theorem length_played (h : List.Forall₂ (fun e role => e.2.Plays e.1 role) entries played) :
    (played.filterMap NetworkRole.primary?).length =
        (entries.map (·.2)).countP (fun entry => entry.IsPrimary) ∧
      (played.filterMap NetworkRole.vip?).length =
        (entries.map (·.2)).countP (fun entry => entry.IsVip) := by
  induction h with
  | nil => exact ⟨rfl, rfl⟩
  | @cons e role entries played plays _ ih =>
    cases role with
    | primary p =>
      have primary := plays.isPrimary
      simp [List.filterMap_cons, primary,
        primary.not_isVip, ← ih.1, ← ih.2]
    | vip v =>
      have vip := plays.isVip
      have other : ¬e.2.IsPrimary := fun primary => primary.not_isVip vip
      simp [List.filterMap_cons, vip, other, ← ih.1, ← ih.2]

/-- The roles that the entries of a specification play, and what a VM makes of them. -/
structure Casting (spec : NetworkSpec) (roles : NetworkRoles) (played : List NetworkRole) :
    Prop where
  plays : List.Forall₂ (fun e role => e.2.Plays e.1 role) spec.entries played
  primary : played.filterMap NetworkRole.primary? = [roles.primary]
  vip : played.filterMap NetworkRole.vip? = roles.vip.toList
  groups : roles.namedGroups =
    sortedOnce (spec.entries.flatMap fun e => e.2.cloudProperties.securityGroups)

/-- **The specifications with roles** are those whose entries play one primary network and at most
one vip network, and nothing else. -/
theorem classify_eq_ok_iff : classify spec = .ok roles ↔ ∃ played, Casting spec roles played := by
  have gathered : classify spec = .ok roles ↔ ∃ last,
      gather spec.entries ⟨none, none, []⟩ = .ok last ∧
        last.primary = some roles.primary ∧ last.vip = roles.vip ∧
        roles.namedGroups = sortedOnce last.groups := by
    obtain ⟨primary, vip, groups⟩ := roles
    unfold classify
    cases gather spec.entries ⟨none, none, []⟩ with
    | error e => simp [bind, Except.bind]
    | ok last =>
      obtain ⟨found, floating, named⟩ := last
      cases found <;> simp [bind, Except.bind, eq_comm]
  simp only [gathered, gather_eq_ok_iff, Option.toList_none, List.nil_append]
  constructor
  · rintro ⟨last, ⟨played, plays, primary, vip, groups⟩, set, same, named⟩
    exact ⟨played, plays, by rw [primary, set]; rfl, by rw [vip, same], by rw [named, groups]⟩
  · rintro ⟨played, plays, primary, vip, groups⟩
    exact ⟨⟨some roles.primary, roles.vip, _⟩, ⟨played, plays, primary, vip, rfl⟩, rfl, rfl, groups⟩

namespace Casting

/-- Each entry plays a role. -/
theorem exists_plays (h : Casting spec roles played) {e : String × NetworkEntry}
    (he : e ∈ spec.entries) : ∃ role, e.2.Plays e.1 role := by
  obtain ⟨role, -, plays⟩ := exists_right_of_mem h.plays he
  exact ⟨role, plays⟩

theorem mem_iff (h : Casting spec roles played) {role : NetworkRole} :
    role ∈ played ↔ ∃ name entry, spec.find? name = some entry ∧ entry.Plays name role := by
  simp only [mem_played_iff h.plays, Dict.find?_eq_some_iff, Prod.exists]

/-- The primary network is the one that an entry stands for. -/
theorem primary_eq_iff (h : Casting spec roles played) {p : PrimaryNetwork} : roles.primary = p ↔
    ∃ name entry, spec.find? name = some entry ∧ entry.Plays name (.primary p) := by
  rw [← h.mem_iff, eq_comm, ← List.mem_singleton, ← h.primary, List.mem_filterMap]
  constructor
  · rintro ⟨_ | _, hr, same⟩
    · obtain rfl := Option.some.inj same
      exact hr
    · cases same
  · exact fun hr => ⟨_, hr, rfl⟩

/-- The vip network is the one that an entry stands for. -/
theorem vip_eq_some_iff (h : Casting spec roles played) {v : VipNetwork} : roles.vip = some v ↔
    ∃ name entry, spec.find? name = some entry ∧ entry.Plays name (.vip v) := by
  rw [← h.mem_iff, ← Option.mem_toList, ← h.vip, List.mem_filterMap]
  constructor
  · rintro ⟨_ | _, hr, same⟩
    · cases same
    · obtain rfl := Option.some.inj same
      exact hr
  · exact fun hr => ⟨_, hr, rfl⟩

end Casting

end NetworkRoles

/-! ## Specifications with roles -/

namespace NetworkSpec

/-- The specification describes one interface and at most one floating address, and names all that
they need. -/
structure Expressible (spec : NetworkSpec) : Prop where
  typed : ∀ entry ∈ spec.values, entry.IsPrimary ∨ entry.IsVip
  primary : spec.values.countP (fun entry => entry.IsPrimary) = 1
  connected : ∀ entry ∈ spec.values, entry.type = "manual" →
    entry.cloudProperties.netId.isSome ∧ entry.HasAddress
  vip : spec.values.countP (fun entry => entry.IsVip) ≤ 1
  floating : ∀ entry ∈ spec.values, entry.IsVip → entry.HasAddress

/-- The security group is asked for: by an entry, or by default where no entry asks for any. -/
def AsksGroup (spec : NetworkSpec) (defaults : List String) (group : String) : Prop :=
  (∃ entry ∈ spec.values, group ∈ entry.cloudProperties.securityGroups) ∨
    (∀ entry ∈ spec.values, entry.cloudProperties.securityGroups = []) ∧ group ∈ defaults

end NetworkSpec

namespace NetworkRoles

open NetworkEntry

variable {spec : NetworkSpec} {roles : NetworkRoles}

theorem exists_plays_iff {name : String} {entry : NetworkEntry} : (∃ role, entry.Plays name role) ↔
    (entry.IsPrimary ∨ entry.IsVip) ∧
      (entry.type = "manual" → entry.cloudProperties.netId.isSome ∧ entry.HasAddress) ∧
      (entry.IsVip → entry.HasAddress) := by
  constructor
  · rintro ⟨role, plays⟩
    cases plays with
    | dynamic type => simp [IsPrimary, IsVip, type]
    | manual type network address given =>
      refine ⟨.inl (.inr type), fun _ => ⟨by simp [network], _, address, given⟩, fun vip => ?_⟩
      exact absurd vip (IsPrimary.not_isVip (.inr type))
    | vip type address given =>
      refine ⟨.inr type, fun manual => ?_, fun _ => ⟨_, address, given⟩⟩
      exact absurd type (IsPrimary.not_isVip (.inr manual))
  · rintro ⟨(dynamic | manual) | vip, connected, floating⟩
    · exact ⟨_, .dynamic dynamic⟩
    · obtain ⟨network, ip, address, given⟩ := connected manual
      obtain ⟨netId, network⟩ := Option.isSome_iff_exists.1 network
      exact ⟨_, .manual manual network address given⟩
    · obtain ⟨ip, address, given⟩ := floating vip
      exact ⟨_, .vip vip address given⟩

/-- Which specifications have roles does not depend on the order of their entries. -/
theorem exists_classify_iff : (∃ roles, classify spec = .ok roles) ↔ spec.Expressible := by
  simp only [classify_eq_ok_iff]
  constructor
  · rintro ⟨roles, played, casting⟩
    obtain ⟨primaries, vips⟩ := length_played casting.plays
    rw [casting.primary] at primaries
    rw [casting.vip] at vips
    have each {entry : NetworkEntry} (he : entry ∈ spec.values) :
        ∃ name role, entry.Plays name role := by
      obtain ⟨e, member, rfl⟩ := List.mem_map.1 he
      exact ⟨e.1, casting.exists_plays member⟩
    refine ⟨fun entry he => ?_, primaries.symm, fun entry he => ?_, vips ▸ Option.length_toList_le,
      fun entry he => ?_⟩
    all_goals
      obtain ⟨name, plays⟩ := each he
      obtain ⟨typed, connected, floating⟩ := exists_plays_iff.1 plays
      assumption
  · intro h
    have each (e : String × NetworkEntry) (he : e ∈ spec.entries) :
        ∃ role, e.2.Plays e.1 role := by
      have he : e.2 ∈ spec.values := List.mem_map.2 ⟨e, he, rfl⟩
      exact exists_plays_iff.2 ⟨h.typed _ he, h.connected _ he, h.floating _ he⟩
    obtain ⟨played, plays⟩ := Decoder.exists_forall₂ each
    obtain ⟨primaries, vips⟩ := length_played plays
    obtain ⟨p, primary⟩ := List.length_eq_one_iff.1 (primaries.trans h.primary)
    have vip : ∃ v : Option VipNetwork, played.filterMap NetworkRole.vip? = v.toList := by
      have few := Nat.le_trans (Nat.le_of_eq vips) h.vip
      rcases found : played.filterMap NetworkRole.vip? with _ | ⟨v, _ | _⟩
      · exact ⟨none, rfl⟩
      · exact ⟨some v, rfl⟩
      · simp [found] at few
    obtain ⟨v, vip⟩ := vip
    exact ⟨⟨p, v, _⟩, played, plays, primary, vip, rfl⟩

/-! ## Security groups -/

theorem mem_namedGroups (h : classify spec = .ok roles) {group : String} :
    group ∈ roles.namedGroups ↔
      ∃ entry ∈ spec.values, group ∈ entry.cloudProperties.securityGroups := by
  obtain ⟨_, casting⟩ := classify_eq_ok_iff.1 h
  rw [casting.groups, mem_sortedOnce, List.mem_flatMap]
  constructor
  · rintro ⟨e, he, hg⟩
    exact ⟨e.2, List.mem_map.2 ⟨e, he, rfl⟩, hg⟩
  · rintro ⟨entry, he, hg⟩
    obtain ⟨e, hm, rfl⟩ := List.mem_map.1 he
    exact ⟨e, hm, hg⟩

/-- **The security groups of a VM** are those that are asked for. -/
theorem mem_securityGroups (h : classify spec = .ok roles) (defaults : List String)
    {group : String} :
    group ∈ roles.securityGroups defaults ↔ spec.AsksGroup defaults group := by
  have named (group : String) : group ∈ roles.namedGroups ↔
      ∃ entry ∈ spec.values, group ∈ entry.cloudProperties.securityGroups := mem_namedGroups h
  unfold securityGroups NetworkSpec.AsksGroup
  split
  · rename_i none
    have silent : ∀ entry ∈ spec.values, entry.cloudProperties.securityGroups = [] := by
      intro entry he
      refine List.eq_nil_iff_forall_not_mem.2 fun group hg => ?_
      have member := (named group).2 ⟨entry, he, hg⟩
      rw [List.isEmpty_iff.1 none] at member
      cases member
    rw [mem_sortedOnce]
    constructor
    · exact fun hd => .inr ⟨silent, hd⟩
    · rintro (⟨entry, he, hg⟩ | ⟨_, hd⟩)
      · rw [silent entry he] at hg
        cases hg
      · exact hd
  · rename_i some
    rw [named]
    refine ⟨.inl, fun asked => asked.resolve_right fun ⟨silent, _⟩ => some ?_⟩
    rw [List.isEmpty_iff, List.eq_nil_iff_forall_not_mem]
    intro group hg
    obtain ⟨entry, he, hg⟩ := (named group).1 hg
    rw [silent entry he] at hg
    cases hg

/-- The security groups of a VM come in ascending order, each once. -/
theorem ascending_securityGroups (h : classify spec = .ok roles) (defaults : List String) :
    (roles.securityGroups defaults).Pairwise (· < ·) := by
  obtain ⟨_, casting⟩ := classify_eq_ok_iff.1 h
  unfold securityGroups
  split
  · exact ascending_sortedOnce defaults
  · rw [casting.groups]
    exact ascending_sortedOnce _

/-! ## Specifications without roles -/

/-- Where there is no result, the specification is wrong. -/
def BlamesSpec {α : Type} (outcome : Except CpiError α) : Prop :=
  ∀ e, outcome = .error e → ∃ text, e = .invalidSpec text

section BlamesSpec

variable {α β : Type} {outcome : Except CpiError α}

theorem blamesSpec_ok (a : α) : BlamesSpec (.ok a) := fun _ h => nomatch h

theorem blamesSpec_error (text : String) : BlamesSpec (.error (.invalidSpec text) : Except _ α) :=
  fun _ h => ⟨text, (Except.error.inj h).symm⟩

theorem BlamesSpec.bind {f : α → Except CpiError β} (h : BlamesSpec outcome)
    (hf : ∀ a, BlamesSpec (f a)) : BlamesSpec (outcome >>= f) := by
  cases outcome with
  | ok a => exact hf a
  | error e =>
    obtain ⟨text, rfl⟩ := h e rfl
    exact blamesSpec_error text

theorem BlamesSpec.map {f : α → β} (h : BlamesSpec outcome) : BlamesSpec (outcome.map f) := by
  cases outcome with
  | ok a => exact blamesSpec_ok _
  | error e =>
    obtain ⟨text, rfl⟩ := h e rfl
    exact blamesSpec_error text

end BlamesSpec

theorem blamesSpec_setPrimary {draft : Draft} {network : Except CpiError PrimaryNetwork}
    (h : BlamesSpec network) : BlamesSpec (draft.setPrimary network) := by
  unfold Draft.setPrimary
  split
  · exact blamesSpec_error _
  · exact h.map

theorem blamesSpec_setVip {draft : Draft} {network : Except CpiError VipNetwork}
    (h : BlamesSpec network) : BlamesSpec (draft.setVip network) := by
  unfold Draft.setVip
  split
  · exact blamesSpec_error _
  · exact h.map

theorem blamesSpec_addEntry (draft : Draft) (name : String) (entry : NetworkEntry) :
    BlamesSpec (draft.addEntry name entry) := by
  have manual : BlamesSpec (manualNetwork name entry) := by
    unfold manualNetwork
    split
    · exact blamesSpec_error _
    · split
      · exact blamesSpec_error _
      · exact blamesSpec_ok _
  have vip : BlamesSpec (vipNetwork name entry) := by
    unfold vipNetwork
    split
    · exact blamesSpec_error _
    · exact blamesSpec_ok _
  unfold Draft.addEntry
  dsimp only
  split
  · exact (blamesSpec_setPrimary (blamesSpec_ok _)).bind fun _ => blamesSpec_ok _
  · exact (blamesSpec_setPrimary manual).bind fun _ => blamesSpec_ok _
  · exact (blamesSpec_setVip vip).bind fun _ => blamesSpec_ok _
  · exact (blamesSpec_error _).bind fun _ => blamesSpec_ok _

theorem blamesSpec_gather (entries : List (String × NetworkEntry)) (draft : Draft) :
    BlamesSpec (gather entries draft) := by
  induction entries generalizing draft with
  | nil => exact blamesSpec_ok _
  | cons entry rest ih =>
    exact (blamesSpec_addEntry draft entry.1 entry.2).bind fun later => ih later

/-- A specification without roles is reported as wrong. -/
theorem blamesSpec_classify (spec : NetworkSpec) : BlamesSpec (classify spec) := by
  refine (blamesSpec_gather _ _).bind fun draft => ?_
  split
  · exact blamesSpec_error _
  · exact blamesSpec_ok _

/-- The roles are those that the entries of the specification play, with their names, networks,
addresses and routers, and the security groups are those that it asks for. -/
structure Describes (spec : NetworkSpec) (roles : NetworkRoles) : Prop where
  primary : ∀ p, roles.primary = p ↔
    ∃ name entry, spec.find? name = some entry ∧ entry.Plays name (.primary p)
  vip : ∀ v, roles.vip = some v ↔
    ∃ name entry, spec.find? name = some entry ∧ entry.Plays name (.vip v)
  ascending : ∀ defaults,
    (roles.securityGroups defaults).Pairwise fun a b => Text.utf8 a < Text.utf8 b
  groups : ∀ defaults group,
    group ∈ roles.securityGroups defaults ↔ spec.AsksGroup defaults group
  fixed : ∀ ip, roles.nic.fixedIp = some ip ↔
    ∃ name netId routerId, roles.primary = .manual name netId ip routerId ∧
      roles.nic.netId = some netId

theorem describes_of_classify (h : classify spec = .ok roles) : Describes spec roles := by
  obtain ⟨_, casting⟩ := classify_eq_ok_iff.1 h
  refine ⟨fun p => casting.primary_eq_iff, fun v => casting.vip_eq_some_iff, fun defaults => ?_,
    fun defaults group => mem_securityGroups h defaults, fun ip => ?_⟩
  · exact (ascending_securityGroups h defaults).imp Text.utf8_lt_of_lt
  · unfold nic privateIp
    cases roles.primary with
    | dynamic name netId => simp
    | manual name netId fixed routerId => simp [PrimaryNetwork.netId]

/-- **Network classification.**  A specification has roles exactly if it is expressible, and then
they describe it; every other one is reported as wrong. -/
theorem classify_iff_expressible (spec : NetworkSpec) :
    ((∃ roles, classify spec = .ok roles) ↔ spec.Expressible) ∧
      (¬spec.Expressible → ∃ text, classify spec = .error (.invalidSpec text)) ∧
      ∀ roles, classify spec = .ok roles → Describes spec roles := by
  refine ⟨exists_classify_iff, fun unfit => ?_, fun roles h => describes_of_classify h⟩
  cases classified : classify spec with
  | ok roles => exact absurd (exists_classify_iff.1 ⟨roles, classified⟩) unfit
  | error e =>
    obtain ⟨text, rfl⟩ := blamesSpec_classify spec e classified
    exact ⟨text, rfl⟩

/-- A vip network in front of a network without a type. -/
def published : NetworkSpec := Dict.ofList [
  ("address", ⟨some "vip", some "203.0.113.9", none, none, none, [],
    ⟨none, ["db"], none, none, Dict.empty⟩, Dict.empty⟩),
  ("default", ⟨none, some "10.0.0.5", none, none, none, [],
    ⟨some "net-1", ["web", "db"], none, none, Dict.empty⟩, Dict.empty⟩)]

theorem classify_published : published.Expressible ∧
    Describes published ⟨.manual "default" "net-1" "10.0.0.5" none,
      some ⟨"address", "203.0.113.9"⟩, ["db", "web"]⟩ ∧
    ∃ text, classify Dict.empty = .error (.invalidSpec text) := by
  refine ⟨(classify_iff_expressible published).1.1 ⟨_, rfl⟩,
    (classify_iff_expressible published).2.2 _ (by decide),
    (classify_iff_expressible Dict.empty).2.1 fun h => ?_⟩
  exact absurd h.primary (by decide)

end NetworkRoles

end CloudLifecycle
