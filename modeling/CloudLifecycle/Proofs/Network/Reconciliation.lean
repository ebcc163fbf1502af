import CloudLifecycle.Proofs.Network.Associations
import CloudLifecycle.Proofs.Store.Stage

/-!
# Floating addresses of a VM whose networks change

A VM is given networks over and over.  Each change that succeeds shall leave it with the floating
address that was asked for, and with none where none was (`Reconfiguration.Exact`).  An address that
is asked for comes to the addresses that the VM has and replaces none of them
(`Reconfiguration.ofVm_after`), so such a change is exact unless it switches from one address to
another.  A change that asks for none takes the only address away, unless its description was
misread (`Reconfiguration.ofVm_after_eq_empty`), and without switches a VM never has more than one
(`Reconfiguration.History.few`).
-/

set_option autoImplicit false

namespace CloudLifecycle

open Associations

/-- A change of the networks of a VM, with what the backend knows before and after it. -/
structure Reconfiguration (addressOf : ResourceId → String) (vm : ResourceId) where
  manager : Manager
  networks : NetworkSpec
  before : Associations
  after : Associations
  trace : Trace
  result : Except CpiError Unit
  runs : (manager.configureNetworks vm networks).Runs trace result
  follows : before.Follows addressOf trace after

namespace Reconfiguration

variable {addressOf : ResourceId → String} {vm : ResourceId}

/-- The VM has the address that was asked for and no other one. -/
def Exact (change : Reconfiguration addressOf vm) : Prop :=
  (∀ ip, change.networks.AsksVip ip → change.after.ofVm vm = {ip}) ∧
    ((∀ ip, ¬change.networks.AsksVip ip) → change.after.ofVm vm = ∅)

/-- The VM had another address before it got the one that was asked for. -/
def Switches (change : Reconfiguration addressOf vm) : Prop :=
  ∃ ip other, change.networks.AsksVip ip ∧ other ∈ change.before.ofVm vm ∧ other ≠ ip ∧
    ip ∈ change.after.ofVm vm

/-- The description of a floating address was read as absence because a refresh of the credentials
did not find something. -/
def Misreads (change : Reconfiguration addressOf vm) : Prop :=
  ∃ address, change.trace.Misread (.describeFloatingIp address)

/-- The changes come one after another. -/
def History (start : Associations) : List (Reconfiguration addressOf vm) → Prop
  | [] => True
  | change :: later => change.before = start ∧ History change.after later

variable (change : Reconfiguration addressOf vm)

theorem readdressed : Manager.Readdressed vm change.networks change.before change.trace
    change.result change.after :=
  Manager.readdressed_of_runs change.runs change.follows

variable {change}

/-- A change that succeeds adds the address that was asked for. -/
theorem ofVm_after (ok : change.result = .ok ()) {ip : String} (asks : change.networks.AsksVip ip) :
    change.after.ofVm vm = insert ip (change.before.ofVm vm) := by
  have h := change.readdressed
  generalize change.after = after, change.result = result at h ok ⊢
  cases h with
  | failed e => cases ok
  | kept only own =>
    obtain rfl := (only ip).1 asks
    have own : ip ∈ change.before.ofVm vm := own
    exact (Set.insert_eq_of_mem own).symm
  | associated only free =>
    obtain rfl := (only ip).1 asks
    exact ofVm_update_some _ _ _
  | spared unasked _ | dissociated unasked _ => exact absurd asks (unasked ip)

/-- A change that succeeds and asks for no address leaves a VM that had at most one with none,
unless the description of this address was misread. -/
theorem ofVm_after_eq_empty (ok : change.result = .ok ())
    (unasked : ∀ ip, ¬change.networks.AsksVip ip) (few : (change.before.ofVm vm).Subsingleton)
    (read : ¬change.Misreads) : change.after.ofVm vm = ∅ := by
  have h := change.readdressed
  generalize change.after = after, change.result = result at h ok ⊢
  cases h with
  | failed e => cases ok
  | kept only _ | associated only _ => exact absurd ((only _).2 rfl) (unasked _)
  | spared _ misread => exact Set.not_nonempty_iff_eq_empty.1 fun some => read (misread some)
  | @dissociated address _ _ reported =>
    -- The one address that the VM had is the reported one.
    rw [ofVm_update_none]
    refine Set.eq_empty_of_forall_notMem fun other ⟨had, kept⟩ => kept ?_
    exact few had (reported ⟨other, had⟩)

/-- A change without a switch leaves a VM that had at most one address with at most one. -/
theorem subsingleton_after (few : (change.before.ofVm vm).Subsingleton)
    (steady : ¬change.Switches) : (change.after.ofVm vm).Subsingleton := by
  have h := change.readdressed
  unfold Switches at steady
  generalize change.after = after, change.result = result at h steady ⊢
  cases h with
  | failed _ | kept _ _ | spared _ _ => exact few
  | dissociated _ _ =>
    rw [ofVm_update_none]
    exact few.anti fun _ kept => kept.1
  | @associated ip _ only _ =>
    rw [ofVm_update_some] at steady ⊢
    have same : ∀ other ∈ change.before.ofVm vm, other = ip := by
      intro other had
      by_contra different
      exact steady ⟨ip, other, (only ip).2 rfl, had, different, Set.mem_insert _ _⟩
    exact Set.subsingleton_singleton.anti (Set.insert_subset rfl same)

/-- A change that succeeds and asks for an address is exact unless it switches to it from another
one. -/
theorem exact_iff_of_asks (ok : change.result = .ok ()) {ip : String}
    (asks : change.networks.AsksVip ip) : change.Exact ↔ ¬change.Switches := by
  constructor
  · rintro ⟨exact_, -⟩ ⟨wanted, other, wants, had, different, -⟩
    have own := exact_ wanted wants
    rw [ofVm_after ok wants] at own
    have kept : other ∈ ({wanted} : Set String) := own ▸ Set.mem_insert_of_mem wanted had
    exact different kept
  · intro steady
    refine ⟨fun wanted wants => ?_, fun unasked => absurd asks (unasked ip)⟩
    have added := ofVm_after ok wants
    have got : wanted ∈ change.after.ofVm vm := added ▸ Set.mem_insert _ _
    rw [added]
    refine Set.eq_singleton_iff_unique_mem.2 ⟨Set.mem_insert _ _, ?_⟩
    rintro other (same | had)
    · exact same
    · by_contra different
      exact steady ⟨wanted, other, wants, had, different, got⟩

/-- In a history without switches the VM has at most one address before each change. -/
theorem History.few {start : Associations} {changes : List (Reconfiguration addressOf vm)}
    (history : History start changes) (few : (start.ofVm vm).Subsingleton)
    (steady : ∀ change ∈ changes, ¬change.Switches) :
    ∀ change ∈ changes, (change.before.ofVm vm).Subsingleton := by
  -- By induction on the changes: a change without a switch keeps to at most one address.
  induction changes generalizing start with
  | nil => exact fun change among => nomatch among
  | cons first later ih =>
    obtain ⟨rfl, rest⟩ := history
    have next := subsingleton_after few (steady first List.mem_cons_self)
    intro change among
    rcases List.mem_cons.1 among with rfl | among
    · exact few
    · exact ih rest next (fun other later => steady other (List.mem_cons_of_mem first later)) change
        among

/-- **Reconciling the floating address of a VM.**  Take any history of changes to the networks of
one VM, whatever becomes of them, at a backend that keeps to what it has accepted.  A change that
succeeds and asks for an address is exact if and only if it does not switch from another address.
And if the VM has at most one address at first and no change switches, then every change that
succeeds is exact, unless it misread the description of the address. -/
theorem History.reconciles {start : Associations} {changes : List (Reconfiguration addressOf vm)}
    (history : History start changes) (few : (start.ofVm vm).Subsingleton) :
    (∀ change ∈ changes, change.result = .ok () → ∀ ip, change.networks.AsksVip ip →
      (change.Exact ↔ ¬change.Switches)) ∧
    ((∀ change ∈ changes, ¬change.Switches) → ∀ change ∈ changes, change.result = .ok () →
      ¬change.Misreads → change.Exact) := by
  refine ⟨fun change _ ok ip asks => exact_iff_of_asks ok asks, ?_⟩
  intro steady change among ok read
  by_cases asked : ∃ ip, change.networks.AsksVip ip
  · obtain ⟨ip, asks⟩ := asked
    exact (exact_iff_of_asks ok asks).2 (steady change among)
  · have unasked : ∀ ip, ¬change.networks.AsksVip ip := not_exists.1 asked
    refine ⟨fun ip asks => absurd asks (unasked ip), fun _ => ?_⟩
    exact ofVm_after_eq_empty ok unasked (history.few few steady change among) read

/-! ### Three changes of one VM -/

/-- A dynamic network, and a vip network with the address if there is one. -/
def dynamicWith (vip : Option String) : NetworkSpec :=
  let entry (kind : String) (ip : Option String) : NetworkEntry :=
    ⟨some kind, ip, none, none, none, [], .empty, Dict.empty⟩
  Dict.ofList (("default", entry "dynamic" none) ::
    vip.toList.map fun ip => ("public", entry "vip" (some ip)))

theorem asksVip_dynamicWith {vip : Option String} {ip : String} :
    (dynamicWith vip).AsksVip ip ↔ vip = some ip := by
  cases vip with
  | none =>
    have entries : (dynamicWith none).entries =
        [("default", ⟨some "dynamic", none, none, none, none, [], .empty, Dict.empty⟩)] := rfl
    simp [NetworkSpec.AsksVip, entries]
  | some address =>
    have entries : (dynamicWith (some address)).entries =
        [("default", ⟨some "dynamic", none, none, none, none, [], .empty, Dict.empty⟩),
          ("public", ⟨some "vip", some address, none, none, none, [], .empty, Dict.empty⟩)] := by
      have order : ¬"public" < "default" := by decide
      simp [dynamicWith, Dict.ofList, Dict.insert, Dict.put, Dict.empty, order]
    simp [NetworkSpec.AsksVip, entries]

/-- The VM is reported with an address, its floating address is seen to, and its networks are
stored. -/
def visit (networks : NetworkSpec) (reported : Option String) (addressing : Trace) : Trace :=
  let settings : AgentSettings := .initial "i-1" "agent" Dict.empty none
  ⟨.provider (.describeVm ⟨"i-1"⟩), .ok (some ⟨⟨"i-1"⟩, "i-1", .running, none, [], reported⟩)⟩ ::
    ⟨.provider .listSecurityGroups, .ok []⟩ :: (addressing ++
      [⟨.settings (.read "i-1"), .ok settings⟩,
        ⟨.settings (.update "i-1" { settings with networks }), .ok ()⟩])

theorem follows_visit {networks : NetworkSpec} {reported : Option String} {addressing : Trace}
    {held later : Associations}
    (tells : (held.ofVm ⟨"i-1"⟩).Nonempty → ∃ address ∈ held.ofVm ⟨"i-1"⟩, reported = some address)
    (h : held.Follows ResourceId.text addressing later) :
    held.Follows ResourceId.text (visit networks reported addressing) later := by
  refine .cons (tells_vm rfl tells) (.cons (tells_of_silent nofun nofun) ?_)
  refine follows_append_iff.2 ⟨later, h, ?_⟩
  exact .cons (tells_of_silent nofun nofun) (.cons (tells_of_silent nofun nofun) (.nil _))

/-- The VM gets an address that is free. -/
def gaining (address : String) : Trace := [
  ⟨.provider (.describeFloatingIp address), .ok (some ⟨⟨address⟩, address, none⟩)⟩,
  ⟨.provider (.associateFloatingIp ⟨address⟩ ⟨"i-1"⟩), .ok ()⟩]

/-- The address of the VM is taken away. -/
def losing (address : String) : Trace := [
  ⟨.provider (.describeFloatingIp address), .ok (some ⟨⟨address⟩, address, some ⟨"i-1"⟩⟩)⟩,
  ⟨.provider (.dissociateFloatingIp ⟨address⟩), .ok ()⟩]

theorem follows_gaining {address : String} {held : Associations} (free : held address = none) :
    held.Follows ResourceId.text (gaining address)
      (Function.update held address (some ⟨"i-1"⟩)) :=
  .cons (tells_floatingIp rfl free.symm) (.cons (tells_of_silent nofun nofun) (.nil _))

theorem follows_losing {address : String} {held : Associations}
    (own : held address = some ⟨"i-1"⟩) :
    held.Follows ResourceId.text (losing address) (Function.update held address none) :=
  .cons (tells_floatingIp rfl own.symm) (.cons (tells_of_silent nofun nofun) (.nil _))

/-- No address is associated. -/
def unassociated : Associations := fun _ => none

/-- Only the first address is associated. -/
def firstOnly : Associations := Function.update unassociated "first" (some ⟨"i-1"⟩)

theorem ofVm_unassociated : unassociated.ofVm ⟨"i-1"⟩ = ∅ :=
  Set.eq_empty_of_forall_notMem fun _ impossible => nomatch impossible

theorem ofVm_firstOnly : firstOnly.ofVm ⟨"i-1"⟩ = {"first"} := by
  rw [firstOnly, ofVm_update_some, ofVm_unassociated, insert_empty_eq]

/-- The VM gets its first address. -/
def toFirst : Reconfiguration ResourceId.text ⟨"i-1"⟩ where
  manager := .small
  networks := dynamicWith (some "first")
  before := unassociated
  after := firstOnly
  trace := visit (dynamicWith (some "first")) none (gaining "first")
  result := .ok ()
  runs := by
    repeat apply Program.Runs.ask
    exact .done _
  follows := by
    refine follows_visit (fun some => ?_) (follows_gaining rfl)
    rw [ofVm_unassociated] at some
    exact absurd some Set.not_nonempty_empty

/-- The VM with the first address asks for the second one. -/
def toSecond : Reconfiguration ResourceId.text ⟨"i-1"⟩ where
  manager := .small
  networks := dynamicWith (some "second")
  before := firstOnly
  after := Function.update firstOnly "second" (some ⟨"i-1"⟩)
  trace := visit (dynamicWith (some "second")) (some "first") (gaining "second")
  result := .ok ()
  runs := by
    repeat apply Program.Runs.ask
    exact .done _
  follows := follows_visit (fun _ => ⟨"first", rfl, rfl⟩) (follows_gaining rfl)

/-- The VM with the first address asks for none any more. -/
def toNone : Reconfiguration ResourceId.text ⟨"i-1"⟩ where
  manager := .small
  networks := dynamicWith none
  before := firstOnly
  after := Function.update firstOnly "first" none
  trace := visit (dynamicWith none) (some "first") (losing "first")
  result := .ok ()
  runs := by
    repeat apply Program.Runs.ask
    exact .done _
  follows := follows_visit (fun _ => ⟨"first", rfl, rfl⟩) (follows_losing rfl)

/-- A VM gets an address and gives it back. -/
theorem History.reconciles_returned :
    History unassociated [toFirst, toNone] ∧ (unassociated.ofVm ⟨"i-1"⟩).Subsingleton ∧
      ¬toFirst.Switches ∧ ¬toNone.Switches ∧ ¬toNone.Misreads ∧ toFirst.Exact ∧ toNone.Exact := by
  have history : History unassociated [toFirst, toNone] := ⟨rfl, rfl, trivial⟩
  have few : (unassociated.ofVm ⟨"i-1"⟩).Subsingleton := by
    rw [ofVm_unassociated]
    exact Set.subsingleton_empty
  have first : ¬toFirst.Switches := by
    rintro ⟨_, other, _, had, _⟩
    exact nomatch (show unassociated other = _ from had)
  have last : ¬toNone.Switches := by
    rintro ⟨_, _, asks, _⟩
    exact nomatch asksVip_dynamicWith.1 asks
  have read : ¬toNone.Misreads := by
    rintro ⟨address, text, before, after, _, course⟩
    have refreshed : ⟨.provider .refreshCredentials, .error (.notFound text)⟩ ∈ toNone.trace := by
      rw [course]
      simp
    simp [toNone, visit, losing] at refreshed
  have laws := History.reconciles history few
  have steady : ∀ change ∈ [toFirst, toNone], ¬change.Switches :=
    List.forall_mem_cons.2 ⟨first, List.forall_mem_singleton.2 last⟩
  refine ⟨history, few, first, last, read, ?_, ?_⟩
  · exact (laws.1 toFirst (by simp) rfl "first" (asksVip_dynamicWith.2 rfl)).2 first
  · exact laws.2 steady toNone (by simp) rfl read

/-- A VM that had no address asks for one and then for another one, and it ends with both. -/
theorem History.keeps_former : ∃ changes : List (Reconfiguration ResourceId.text ⟨"i-1"⟩),
    History unassociated changes ∧ unassociated.ofVm ⟨"i-1"⟩ = ∅ ∧
      (∀ change ∈ changes, change.result = .ok ()) ∧
      ∃ last, changes.getLast? = some last ∧ last.networks.AsksVip "second" ∧
        last.after.ofVm ⟨"i-1"⟩ = {"second", "first"} ∧ ¬last.Exact := by
  have asks : toSecond.networks.AsksVip "second" := asksVip_dynamicWith.2 rfl
  have both : toSecond.after.ofVm ⟨"i-1"⟩ = {"second", "first"} := by
    rw [ofVm_after rfl asks]
    exact congrArg (insert "second") ofVm_firstOnly
  have inexact : ¬toSecond.Exact := by
    rintro ⟨exact_, -⟩
    have kept : "first" ∈ ({"second"} : Set String) :=
      exact_ "second" asks ▸ both ▸ Set.mem_insert_of_mem _ rfl
    exact absurd kept (by simp)
  exact ⟨[toFirst, toSecond], ⟨rfl, rfl, trivial⟩, ofVm_unassociated,
    List.forall_mem_cons.2 ⟨rfl, List.forall_mem_singleton.2 rfl⟩, toSecond, rfl, asks, both,
    inexact⟩

end Reconfiguration

end CloudLifecycle
