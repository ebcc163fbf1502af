import CloudLifecycle.Proofs.Network.Requested
import CloudLifecycle.Proofs.Runs.Denials
import CloudLifecycle.Proofs.Store.Stage
import CloudLifecycle.Proofs.Vm.Preparation
import Mathlib.Data.List.Perm.Subperm

/-!
# Changes of security groups

The security groups of a VM cannot be changed without a new VM, so a change of networks that would
need it is refused.  The check counts the groups and looks for each desired one among those of the
VM, where a group may be named in two ways, by its name or by its id.

Where no group is named in both ways the check compares sets (`Manager.configureNetworks_groups`).
The names are made unique as texts only, so that a group may be desired twice; it then counts as
two.
-/

set_option autoImplicit false

namespace CloudLifecycle

namespace SecurityGroups

/-- The text names one of the groups, by its name or by its id. -/
def Denotes (existing : List SecurityGroupInfo) (text : String) (group : SecurityGroupInfo) :
    Prop :=
  group ∈ existing ∧ (group.name = text ∨ group.id.text = text)

/-- Different groups have different ids and different names, and no name is the id of another. -/
structure Unambiguous (existing : List SecurityGroupInfo) : Prop where
  id {a b : SecurityGroupInfo} (ha : a ∈ existing) (hb : b ∈ existing)
    (same : a.id.text = b.id.text) : a = b
  name {a b : SecurityGroupInfo} (ha : a ∈ existing) (hb : b ∈ existing)
    (same : a.name = b.name) : a = b
  apart {a b : SecurityGroupInfo} (ha : a ∈ existing) (hb : b ∈ existing)
    (same : a.name = b.id.text) : a = b

/-- One of the groups is named in both ways. -/
def NamedTwice (existing : List SecurityGroupInfo) (names : List String) : Prop :=
  ∃ group ∈ existing, group.name ∈ names ∧ group.id.text ∈ names ∧ group.name ≠ group.id.text

variable {existing desired held : List SecurityGroupInfo} {names current : List String}
  {text : String} {group other : SecurityGroupInfo}

/-- A text names one group at most. -/
theorem Unambiguous.denotes_unique (clear : Unambiguous existing)
    (h : Denotes existing text group) (ho : Denotes existing text other) : group = other := by
  obtain ⟨among, named⟩ := h
  obtain ⟨otherAmong, otherNamed⟩ := ho
  rcases named with name | id <;> rcases otherNamed with otherName | otherId
  · exact clear.name among otherAmong (name.trans otherName.symm)
  · exact clear.apart among otherAmong (name.trans otherId.symm)
  · exact (clear.apart otherAmong among (otherName.trans id.symm)).symm
  · exact clear.id among otherAmong (id.trans otherId.symm)

theorem Unambiguous.resolves_iff (clear : Unambiguous existing) :
    Manager.Resolves existing text group ↔ Denotes existing text group := by
  constructor
  · intro found
    exact ⟨List.mem_of_find?_eq_some found, by simpa using List.find?_some found⟩
  · intro denoted
    cases found : existing.find? fun group => group.name = text || group.id.text = text with
    | none =>
      exact absurd denoted.2 (by simpa using List.find?_eq_none.1 found group denoted.1)
    | some first =>
      have resolved : Denotes existing text first :=
        ⟨List.mem_of_find?_eq_some found, by simpa using List.find?_some found⟩
      rw [clear.denotes_unique denoted resolved]
      exact found

/-! ## Lists of names -/

section Forall₂

variable {α β : Type} {R : α → β → Prop} {names : List α} {items : List β}

/-- Different names stand for different items if no two stand for the same. -/
theorem nodup_of_forall₂ (h : List.Forall₂ R names items) (distinct : names.Nodup)
    (once : ∀ a ∈ names, ∀ b ∈ names, ∀ item, R a item → R b item → a = b) : items.Nodup := by
  induction h with
  | nil => exact List.nodup_nil
  | @cons name item names items stands rest ih =>
    obtain ⟨fresh, distinct⟩ := List.nodup_cons.1 distinct
    refine List.nodup_cons.2 ⟨fun again => ?_, ih distinct fun a ha b hb =>
      once a (List.mem_cons_of_mem _ ha) b (List.mem_cons_of_mem _ hb)⟩
    obtain ⟨other, among, standsOther⟩ := exists_left_of_mem rest again
    have same := once name List.mem_cons_self other (List.mem_cons_of_mem _ among) item stands
      standsOther
    exact fresh (same ▸ among)

/-- Where each name stands for one item, two names for the same item give it twice. -/
theorem eq_of_nodup_forall₂ (h : List.Forall₂ R names items) (nodup : items.Nodup)
    (unique : ∀ name a b, R name a → R name b → a = b) {a b : α} (ha : a ∈ names)
    (hb : b ∈ names) {item : β} (sa : R a item) (sb : R b item) : a = b := by
  induction h with
  | nil => cases ha
  | @cons name first names items stands rest ih =>
    obtain ⟨fresh, nodup⟩ := List.nodup_cons.1 nodup
    -- What a later name stands for is among the later items, and so it is not the first one.
    have later {name : α} (mem : name ∈ names) (same : R name first) : False := by
      obtain ⟨other, among, standsOther⟩ := exists_right_of_mem rest mem
      exact fresh (unique _ _ _ same standsOther ▸ among)
    rcases List.mem_cons.1 ha with headA | ha <;> rcases List.mem_cons.1 hb with headB | hb
    · exact headA.trans headB.symm
    · exact (later hb (unique _ _ _ stands (headA ▸ sa) ▸ sb)).elim
    · exact (later ha (unique _ _ _ stands (headB ▸ sb) ▸ sa)).elim
    · exact ih nodup ha hb

end Forall₂

/-- Names that are different as texts stand for different groups exactly if no group is named in
both ways. -/
theorem nodup_iff (clear : Unambiguous existing) (distinct : names.Nodup)
    (wanted : List.Forall₂ (Denotes existing) names desired) :
    desired.Nodup ↔ ¬NamedTwice existing names := by
  constructor
  · rintro nodup ⟨group, among, name, id, different⟩
    exact different (eq_of_nodup_forall₂ wanted nodup (fun _ _ _ => clear.denotes_unique) name id
      ⟨among, .inl rfl⟩ ⟨among, .inr rfl⟩)
  · intro once
    refine nodup_of_forall₂ wanted distinct ?_
    rintro a ha b hb group ⟨among, ida⟩ ⟨-, idb⟩
    by_contra different
    rcases ida with rfl | rfl <;> rcases idb with rfl | rfl
    · exact different rfl
    · exact once ⟨group, among, ha, hb, different⟩
    · exact once ⟨group, among, hb, ha, fun same => different same.symm⟩
    · exact different rfl

/-- The check passes if there are as many groups, and all of them are among those of the VM. -/
theorem sameGroups_iff (clear : Unambiguous existing) (known : ∀ group ∈ desired, group ∈ existing)
    (member : List.Forall₂ (Denotes existing) current held) :
    Manager.sameGroups desired current = true ↔ desired.length = held.length ∧ desired ⊆ held := by
  have among {group : SecurityGroupInfo} (there : group ∈ existing) :
      (∃ text ∈ current, text = group.name ∨ text = group.id.text) ↔ group ∈ held := by
    constructor
    · rintro ⟨text, listed, named⟩
      obtain ⟨other, mem, denoted⟩ := exists_right_of_mem member listed
      rw [clear.denotes_unique ⟨there, named.imp Eq.symm Eq.symm⟩ denoted]
      exact mem
    · intro mem
      obtain ⟨text, listed, -, named⟩ := exists_left_of_mem member mem
      exact ⟨text, listed, named.imp Eq.symm Eq.symm⟩
  unfold Manager.sameGroups
  rw [member.length_eq]
  simp only [Bool.and_eq_true, decide_eq_true_eq, List.all_eq_true, List.any_eq_true,
    Bool.or_eq_true]
  exact and_congr_right fun _ => forall₂_congr fun group mem => among (known group mem)

/-- For groups that are different, this compares sets. -/
theorem same_iff (nodup : desired.Nodup) (once : held.Nodup) :
    desired.length = held.length ∧ desired ⊆ held ↔ ∀ group, group ∈ desired ↔ group ∈ held := by
  constructor
  · rintro ⟨length, within⟩ group
    have perm := (List.subperm_of_subset nodup within).perm_of_length_le
      (Nat.le_of_eq length.symm)
    exact perm.mem_iff
  · intro same
    have perm := (List.perm_ext_iff_of_nodup nodup once).2 same
    exact ⟨perm.length_eq, perm.subset⟩

/-- Where a group is counted twice another one is missing. -/
theorem exists_missing (twice : ¬desired.Nodup) (once : held.Nodup)
    (length : desired.length = held.length) : ∃ group ∈ held, group ∉ desired := by
  by_contra none
  have within : held ⊆ desired := fun group mem => by
    by_contra missing
    exact none ⟨group, mem, missing⟩
  have perm := (List.subperm_of_subset once within).perm_of_length_le (Nat.le_of_eq length)
  exact twice (perm.nodup_iff.1 once)

end SecurityGroups

namespace Manager

open SecurityGroups

variable {m : Manager} {id : ResourceId} {networks : NetworkSpec} {roles : NetworkRoles}
  {vm : VmInfo} {existing desired held : List SecurityGroupInfo} {trace : Trace}
  {result : Except CpiError Unit}

/-- The VM would need other security groups. -/
def groupsRefusal (vm : VmInfo) (names : List String) : CpiError :=
  .notSupported ("security groups change requires VM recreation: current ["
    ++ ", ".intercalate vm.securityGroups ++ "], desired [" ++ ", ".intercalate names ++ "]")

/-- The check of the security groups comes first, and it is the only one that ends so. -/
theorem fitNetworks_eq_refusal_iff {names : List String} :
    fitNetworks names desired roles vm = .error (groupsRefusal vm names) ↔
      sameGroups desired vm.securityGroups = false := by
  unfold fitNetworks groupsRefusal
  cases sameGroups desired vm.securityGroups with
  | false => simp
  | true =>
    refine iff_of_false ?_ (by simp)
    cases roles.privateIp with
    | none => simp
    | some ip =>
      rw [if_neg (by simp)]
      dsimp only
      split
      · intro same
        have texts := CpiError.notSupported.inj (Except.error.inj same)
        -- The two messages differ in their first letter.
        have heads := congrArg (fun text : String => text.toList.head?) texts
        simp at heads
      · simp

/-- Neither applying nor storing networks reports something as not supported. -/
theorem avoids_applied (roles : NetworkRoles) (vm : VmInfo) (networks : NetworkSpec) :
    Verb.Avoids CpiError.notSupported (do
      m.applyNetworks roles vm
      storeNetworks vm networks) := by
  have foreign := Verb.foreign_notSupported
  refine (m.avoids_applyNetworks foreign roles vm (fun _ _ => nofun) fun _ _ => nofun).bind
    fun _ => ?_
  exact (Verb.avoids_settings foreign _).bind fun _ => Verb.avoids_settings foreign _

/-- A run that has listed the groups has changed nothing yet, and goes on with the check. -/
theorem fitting_of_runs {names : List String}
    (run : (m.configureNetworks id networks).Runs trace result)
    (found : trace.FirstReply (.describeVm id) (some vm))
    (listed : trace.FirstReply .listSecurityGroups existing)
    (classified : NetworkRoles.classify networks = .ok roles)
    (asked : roles.securityGroups m.options.defaultSecurityGroups = names)
    (resolved : resolveGroups existing names = .ok desired) :
    ∃ looked rest, trace = looked ++ rest ∧
      (∀ e ∈ looked, Action.Within (fun call => call.isMutating = false) e.question) ∧
      Verb.Runs (do
        ofOutcome (fitNetworks names desired roles vm)
        m.applyNetworks roles vm
        storeNetworks vm networks) rest result := by
  have quietVm := (m.calls_requireVm id).mono fun call (same : call = .describeVm id) =>
    show call.isMutating = false from same ▸ rfl
  have quietGroups := (m.calls_resolveSecurityGroups names).mono
    fun call (same : call = .listSecurityGroups) =>
      show call.isMutating = false from same ▸ rfl
  rw [configureNetworks_eq] at run
  have unlisted {part : Trace} {outcome : Except CpiError VmInfo}
      (h : (m.requireVm id).Runs part outcome) (groups : List SecurityGroupInfo) :
      ⟨.provider .listSecurityGroups, .ok groups⟩ ∉ part :=
    ((m.calls_requireVm id).callsIn h).not_mem (by simp) (by simp) _
  rcases Verb.runs_bind_iff.1 run with ⟨e, hvm, -⟩ | ⟨looked, rest, first, rfl, hvm, run⟩
  · exact absurd listed.mem (unlisted hvm existing)
  obtain rfl := Option.some.inj (((firstReply_of_requireVm hvm).1.append rest).unique found)
  have later := (List.mem_append.1 listed.mem).resolve_left (unlisted hvm existing)
  rw [classified] at run
  have run : Verb.Runs (do
      let desired ← m.resolveSecurityGroups names
      ofOutcome (fitNetworks names desired roles vm)
      m.applyNetworks roles vm
      storeNetworks vm networks) rest result := by
    rw [← asked]
    exact run
  rcases Verb.runs_bind_iff.1 run with ⟨e, hgroups, -⟩ | ⟨listing, rest, groups, rfl, hgroups, run⟩
  · rcases outcome_of_resolveSecurityGroups hgroups with ⟨_, refused, -⟩ | ⟨other, first, failed⟩
    · cases runs_call_of_mem (by simp) refused later
    · obtain rfl := (first.prepend (unlisted hvm)).unique listed
      rw [resolved] at failed
      cases failed
  · rcases outcome_of_resolveSecurityGroups hgroups with ⟨_, _, impossible⟩ | ⟨other, first, known⟩
    · cases impossible
    obtain rfl := ((first.append rest).prepend (unlisted hvm)).unique listed
    obtain rfl := Except.ok.inj (known.trans resolved)
    refine ⟨looked ++ listing, rest, by simp, fun e he => ?_, run⟩
    rcases List.mem_append.1 he with he | he
    · exact quietVm.mem_of_runs hvm e he
    · exact quietGroups.mem_of_runs hgroups e he

/-- A change is refused where the check fails, and nowhere later. -/
theorem refused_iff {names : List String} (fitting : Verb.Runs (do
      ofOutcome (fitNetworks names desired roles vm)
      m.applyNetworks roles vm
      storeNetworks vm networks) trace result) :
    (result = .error (groupsRefusal vm names) ↔
      sameGroups desired vm.securityGroups = false) ∧
    (result = .error (groupsRefusal vm names) → trace = []) := by
  cases fits : sameGroups desired vm.securityGroups with
  | false =>
    rw [fitNetworks_eq_refusal_iff.2 fits] at fitting
    obtain ⟨rfl, rfl⟩ := Verb.runs_throw_bind_iff.1 fitting
    exact ⟨iff_of_true rfl rfl, fun _ => rfl⟩
  | true =>
    have passed : result ≠ .error (groupsRefusal vm names) := by
      rintro rfl
      rcases Verb.runs_bind_iff.1 fitting with ⟨e, unfit, same⟩ | ⟨_, later, _, rfl, -, applied⟩
      · rw [← same] at unfit
        have refused := fitNetworks_eq_refusal_iff.1 (Verb.runs_outcome_iff.1 unfit).2.symm
        rw [fits] at refused
        cases refused
      · exact avoids_applied roles vm networks later _ applied
    exact ⟨iff_of_false passed (by simp), fun refused => absurd refused passed⟩

/-- **The check of the security groups.**  Take groups that no text confuses, a change of networks
whose groups all resolve, and a VM that lists each of its groups once.  If no group is desired by
its name and by its id at once, the change is refused exactly if the desired groups are not those of
the VM.  A group that is desired in both ways counts as two: the check passes if the desired groups
are among those of the VM and just as many, which it never does for equal sets, but for some smaller
ones.  A change that is refused has not changed anything, at the backend or in the settings. -/
theorem configureNetworks_groups {names : List String}
    (run : (m.configureNetworks id networks).Runs trace result)
    (found : trace.FirstReply (.describeVm id) (some vm))
    (listed : trace.FirstReply .listSecurityGroups existing)
    (classified : NetworkRoles.classify networks = .ok roles)
    (asked : roles.securityGroups m.options.defaultSecurityGroups = names)
    (clear : Unambiguous existing) (wanted : List.Forall₂ (Denotes existing) names desired)
    (member : List.Forall₂ (Denotes existing) vm.securityGroups held) (once : held.Nodup) :
    (¬NamedTwice existing names → (result = .error (groupsRefusal vm names) ↔
      ¬∀ group, group ∈ desired ↔ group ∈ held)) ∧
    (NamedTwice existing names →
      (result ≠ .error (groupsRefusal vm names) ↔
        desired.length = held.length ∧ desired ⊆ held) ∧
      (result ≠ .error (groupsRefusal vm names) → ∃ group ∈ held, group ∉ desired)) ∧
    (result = .error (groupsRefusal vm names) → ∀ e ∈ trace,
      (∀ call, e.question = .provider call → call.isMutating = false) ∧
        ∀ call, e.question ≠ .settings call) := by
  have resolved : resolveGroups existing names = .ok desired :=
    resolveGroups_eq_ok_iff.2 (wanted.imp fun _ _ => clear.resolves_iff.2)
  have known (group : SecurityGroupInfo) (mem : group ∈ desired) : group ∈ existing := by
    obtain ⟨_, _, denoted⟩ := exists_left_of_mem wanted mem
    exact denoted.1
  have distinct : names.Nodup :=
    asked ▸ (NetworkRoles.ascending_securityGroups classified _).imp String.ne_of_lt
  obtain ⟨looked, rest, rfl, quiet, fitting⟩ :=
    fitting_of_runs run found listed classified asked resolved
  obtain ⟨refused, ended⟩ := refused_iff fitting
  have passes : result ≠ .error (groupsRefusal vm names) ↔
      desired.length = held.length ∧ desired ⊆ held := by
    rw [← sameGroups_iff clear known member, Ne, refused, Bool.not_eq_false]
  refine ⟨fun plain => ?_, fun twice => ⟨passes, fun passed => ?_⟩, fun failed e he => ?_⟩
  · rw [← same_iff ((nodup_iff clear distinct wanted).2 plain) once, ← passes, not_ne_iff]
  · have doubled : ¬desired.Nodup := fun nodup => (nodup_iff clear distinct wanted).1 nodup twice
    exact exists_missing doubled once (passes.1 passed).1
  · rw [ended failed, List.append_nil] at he
    have within := quiet e he
    refine ⟨fun call asked => ?_, fun call asked => ?_⟩
    · rw [asked] at within
      rcases within with rfl | silent
      · rfl
      · exact silent
    · rw [asked] at within
      exact within

/-- Two groups of a backend. -/
def webGroup : SecurityGroupInfo := ⟨⟨"sg-1"⟩, "web"⟩

def dbGroup : SecurityGroupInfo := ⟨⟨"sg-2"⟩, "db"⟩

theorem unambiguous_webDb : Unambiguous [webGroup, dbGroup] := by
  have apart : ∀ a ∈ [webGroup, dbGroup], ∀ b ∈ [webGroup, dbGroup],
      (a.id.text = b.id.text ∨ a.name = b.name ∨ a.name = b.id.text) → a = b := by decide
  exact ⟨fun ha hb same => apart _ ha _ hb (.inl same),
    fun ha hb same => apart _ ha _ hb (.inr (.inl same)),
    fun ha hb same => apart _ ha _ hb (.inr (.inr same))⟩

/-- One dynamic network with security groups. -/
def networkWith (groups : List String) : NetworkSpec :=
  Dict.ofList [("default", ⟨some "dynamic", none, none, none, none, [],
    { NetworkCloudProperties.empty with securityGroups := groups }, Dict.empty⟩)]

/-- Its roles. -/
def rolesWith (groups : List String) : NetworkRoles := ⟨.dynamic "default" none, none, groups⟩

/-- A VM with these groups is described, and then the groups of the backend are listed. -/
def checkingTrace (groups : List String) : Trace := [
  ⟨.provider (.describeVm ⟨"i-1"⟩), .ok (some ⟨⟨"i-1"⟩, "i-1", .running, none, groups, none⟩)⟩,
  ⟨.provider .listSecurityGroups, .ok [webGroup, dbGroup]⟩]

/-- The networks are stored in the settings of the VM. -/
def storingTrace (networks : NetworkSpec) : Trace :=
  let settings : AgentSettings := .initial "i-1" "agent" Dict.empty none
  [⟨.settings (.read "i-1"), .ok settings⟩,
    ⟨.settings (.update "i-1" { settings with networks }), .ok ()⟩]

/-- A VM keeps its two groups, one of which is named otherwise. -/
theorem configureNetworks_groups_kept :
    (small.configureNetworks ⟨"i-1"⟩ (networkWith ["sg-2", "web"])).Runs
      (checkingTrace ["sg-1", "db"] ++ storingTrace (networkWith ["sg-2", "web"])) (.ok ()) ∧
    ¬NamedTwice [webGroup, dbGroup] ["sg-2", "web"] ∧
    ∀ group, group ∈ [dbGroup, webGroup] ↔ group ∈ [webGroup, dbGroup] := by
  have run : (small.configureNetworks ⟨"i-1"⟩ (networkWith ["sg-2", "web"])).Runs
      (checkingTrace ["sg-1", "db"] ++ storingTrace (networkWith ["sg-2", "web"])) (.ok ()) := by
    repeat apply Program.Runs.ask
    exact .done _
  have plain : ¬NamedTwice [webGroup, dbGroup] ["sg-2", "web"] := by
    rintro ⟨group, among, name, id, -⟩
    revert group
    decide
  have wanted : List.Forall₂ (Denotes [webGroup, dbGroup]) ["sg-2", "web"] [dbGroup, webGroup] :=
    .cons ⟨by decide, .inr rfl⟩ (.cons ⟨by decide, .inl rfl⟩ .nil)
  have member : List.Forall₂ (Denotes [webGroup, dbGroup]) ["sg-1", "db"] [webGroup, dbGroup] :=
    .cons ⟨by decide, .inr rfl⟩ (.cons ⟨by decide, .inl rfl⟩ .nil)
  have classified : NetworkRoles.classify (networkWith ["sg-2", "web"]) =
      .ok (rolesWith ["sg-2", "web"]) := rfl
  have asked : NetworkRoles.securityGroups (rolesWith ["sg-2", "web"])
      small.options.defaultSecurityGroups = ["sg-2", "web"] := rfl
  have laws := configureNetworks_groups run (.here _) (.later nofun (.here _)) classified asked
    unambiguous_webDb wanted member (by decide)
  refine ⟨run, plain, ?_⟩
  by_contra differ
  cases (laws.1 plain).2 differ

/-- A group that is desired by its name and by its id counts as two.  So a VM may keep a group that
is not desired, and a VM whose groups are just the desired ones is refused. -/
theorem configureNetworks_groups_twice :
    Unambiguous [webGroup, dbGroup] ∧
    NetworkRoles.classify (networkWith ["sg-1", "web"]) = .ok (rolesWith ["sg-1", "web"]) ∧
    List.Forall₂ (Denotes [webGroup, dbGroup]) ["sg-1", "web"] [webGroup, webGroup] ∧
    (List.Forall₂ (Denotes [webGroup, dbGroup]) ["sg-1", "sg-2"] [webGroup, dbGroup] ∧
      (small.configureNetworks ⟨"i-1"⟩ (networkWith ["sg-1", "web"])).Runs
        (checkingTrace ["sg-1", "sg-2"] ++ storingTrace (networkWith ["sg-1", "web"])) (.ok ()) ∧
      ¬∀ group, group ∈ [webGroup, webGroup] ↔ group ∈ [webGroup, dbGroup]) ∧
    (List.Forall₂ (Denotes [webGroup, dbGroup]) ["sg-1"] [webGroup] ∧
      (small.configureNetworks ⟨"i-1"⟩ (networkWith ["sg-1", "web"])).Runs
        (checkingTrace ["sg-1"])
        (.error (groupsRefusal ⟨⟨"i-1"⟩, "i-1", .running, none, ["sg-1"], none⟩
          ["sg-1", "web"])) ∧
      ∀ group, group ∈ [webGroup, webGroup] ↔ group ∈ [webGroup]) := by
  refine ⟨unambiguous_webDb, rfl, ?_, ⟨?_, ?_, ?_⟩, ?_, ?_, ?_⟩
  · exact .cons ⟨by decide, .inr rfl⟩ (.cons ⟨by decide, .inl rfl⟩ .nil)
  · exact .cons ⟨by decide, .inr rfl⟩ (.cons ⟨by decide, .inr rfl⟩ .nil)
  · repeat apply Program.Runs.ask
    exact .done _
  · intro same
    exact absurd ((same dbGroup).2 (by decide)) (by decide)
  · exact .cons ⟨by decide, .inr rfl⟩ .nil
  · repeat apply Program.Runs.ask
    exact .done _
  · simp

end Manager

end CloudLifecycle
