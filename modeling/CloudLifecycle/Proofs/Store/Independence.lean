import CloudLifecycle.Proofs.Dict.Bindings
import CloudLifecycle.Proofs.Runs.Keys
import CloudLifecycle.Proofs.Store.Stage
import Mathlib.Logic.Relation
import Mathlib.Order.GameAdd

/-!
# Commands on different VMs do not disturb each other

Two commands run at the same time on one settings store in memory, each with a backend that answers
it alone.  Their steps come in any order (`Pair.Move`).  If the backends report different names for
the two VMs, every order leads to the same results and to the same settings, which are those of
either command after the other (`Pair.independent`).
-/

set_option autoImplicit false

namespace CloudLifecycle

/-! ## Operations under different keys -/

namespace SettingsStore

variable {call other : SettingsCall}

/-- What an operation makes of the settings under some key. -/
def effect (call : SettingsCall) (key : String) (held : Option AgentSettings) :
    Option AgentSettings :=
  match call with
  | .read _ => held
  | .update k settings => if key = k then some settings else held
  | .delete k => if key = k then none else held

theorem find?_perform (store : SettingsStore) (call : SettingsCall) (key : String) :
    (store.perform call).2.find? key = effect call key (store.find? key) := by
  cases call with
  | read k => rfl
  | update k settings => exact Dict.find?_insert store k key settings
  | delete k => exact Dict.find?_erase store k key

theorem effect_of_ne {key : String} (h : key ≠ call.key) (held : Option AgentSettings) :
    effect call key held = held := by
  cases call with
  | read k => rfl
  | update k settings => exact if_neg h
  | delete k => exact if_neg h

/-- An operation does not show under other keys. -/
theorem perform_reply (apart : call.key ≠ other.key) (store : SettingsStore) :
    ((store.perform other).2.perform call).1 = (store.perform call).1 := by
  cases call with
  | read key =>
    have apart : key ≠ other.key := apart
    show (store.perform other).2.read key = store.read key
    unfold read
    rw [find?_perform, effect_of_ne apart]
  | update key settings => rfl
  | delete key => rfl

/-- Operations under different keys may change places. -/
theorem perform_comm (apart : call.key ≠ other.key) (store : SettingsStore) :
    ((store.perform other).2.perform call).2 = ((store.perform call).2.perform other).2 := by
  apply Dict.ext_find?
  intro key
  simp only [find?_perform]
  by_cases own : key = call.key
  · have outside : key ≠ other.key := fun same => apart (own.symm.trans same)
    rw [effect_of_ne outside, effect_of_ne outside]
  · rw [effect_of_ne own, effect_of_ne own]

end SettingsStore

/-! ## Surroundings with a store -/

/-- An action is an operation on settings or none. -/
theorem Action.settings_or_own (action : Action) :
    (∃ call, action = .settings call) ∨ ∀ call, action ≠ .settings call := by
  cases action with
  | settings call => exact .inl ⟨call, rfl⟩
  | _ => exact .inr fun call same => nomatch same

namespace Surroundings

variable {Q : Type} {A : Q → Type} {σ ω α : Type}

/-- One step of a program, if it has one to make and is answered. -/
def advance (s : Surroundings Q A σ) : Program Q A α → σ → Option (Program Q A α × σ)
  | .done _, _ => none
  | .ask question next, state =>
    match s.answer question state with
    | (some answer, later) => some (next answer, later)
    | (none, _) => none

theorem advance_eq_some {s : Surroundings Q A σ} {p q : Program Q A α} {state later : σ}
    (h : s.advance p state = some (q, later)) :
    ∃ question next answer, p = .ask question next ∧ q = next answer ∧
      s.answer question state = (some answer, later) := by
  cases p with
  | done value => cases h
  | ask question next =>
    rw [advance] at h
    split at h
    · rename_i answer after given
      obtain ⟨rfl, rfl⟩ := Prod.mk.inj (Option.some.inj h)
      exact ⟨question, next, answer, rfl, rfl, given⟩
    · cases h

/-- A step leads to the same end as the whole run. -/
theorem run_advance {s : Surroundings Q A σ} {p q : Program Q A α} {state later : σ}
    (h : s.advance p state = some (q, later)) : s.run p state = s.run q later := by
  obtain ⟨question, next, answer, rfl, rfl, given⟩ := advance_eq_some h
  rw [run, given]

/-- Surroundings of a task beside a store in memory, which answers the operations on settings. -/
def withStore (s : Surroundings Action Action.Answer ω) :
    Surroundings Action Action.Answer (ω × SettingsStore) where
  answer
    | .settings call, (state, store) =>
      (some (store.perform call).1, (state, (store.perform call).2))
    | action, (state, store) => ((s.answer action state).1, ((s.answer action state).2, store))

theorem withStore_settings (s : Surroundings Action Action.Answer ω) (call : SettingsCall)
    (state : ω) (store : SettingsStore) : s.withStore.answer (.settings call) (state, store) =
      (some (store.perform call).1, (state, (store.perform call).2)) := rfl

theorem withStore_own (s : Surroundings Action Action.Answer ω) {action : Action}
    (own : ∀ call, action ≠ .settings call) (state : ω) (store : SettingsStore) :
    s.withStore.answer action (state, store) =
      ((s.answer action state).1, ((s.answer action state).2, store)) := by
  cases action with
  | settings call => exact absurd rfl (own call)
  | _ => rfl

section Visits

variable (s : Surroundings Action Action.Answer ω) (task : Task α) (start : ω)

/-- Where a task can come to in its surroundings, whatever a settings store answers. -/
inductive Visits : Task α → ω → Prop where
  | refl : Visits task start
  | store {call : SettingsCall} {next : Except SettingsError call.Reply → Task α} {state : ω}
      (before : Visits (.ask (.settings call) next) state)
      (reply : Except SettingsError call.Reply) : Visits (next reply) state
  | own {action : Action} {next : action.Answer → Task α} {state later : ω} {answer : action.Answer}
      (before : Visits (.ask action next) state)
      (h : s.answer action state = (some answer, later)) : Visits (next answer) later

/-- An answer that the task can get on its way. -/
inductive Hears : (action : Action) → action.Answer → Prop where
  | store (call : SettingsCall) (reply : Except SettingsError call.Reply) :
      Hears (.settings call) reply
  | own {action : Action} {next : action.Answer → Task α} {state later : ω} {answer : action.Answer}
      (before : Visits s task start (.ask action next) state)
      (h : s.answer action state = (some answer, later)) : Hears action answer

/-- A description of the VM that the task asks for reports the name. -/
def Reports (id : ResourceId) (name : String) : Prop :=
  ∃ vm : VmInfo, s.Hears task start (.provider (.describeVm id)) (.ok (some vm)) ∧ vm.name = name

end Visits

variable {s : Surroundings Action Action.Answer ω} {first : Task α} {start state later : ω}
  {K : String → Prop} {task next : Task α} {store after : SettingsStore}

/-- A task has come to where it uses only settings under keys of the set. -/
structure Confined (s : Surroundings Action Action.Answer ω) (first : Task α) (start : ω)
    (K : String → Prop) (task : Task α) (state : ω) : Prop where
  keeps : task.Keeps (Action.UsesKeys K) (s.Hears first start) fun _ => True
  visits : s.Visits first start task state

/-- A confined task is confined after each of its steps. -/
theorem Confined.advance (h : s.Confined first start K task state)
    (step : s.withStore.advance task (state, store) = some (next, (later, after))) :
    s.Confined first start K next later := by
  obtain ⟨keeps, visits⟩ := h
  obtain ⟨action, goOn, answer, rfl, rfl, given⟩ := advance_eq_some step
  cases keeps with
  | ask allowed rest =>
    rcases action.settings_or_own with ⟨call, rfl⟩ | own
    · rw [withStore_settings] at given
      obtain ⟨-, same⟩ := Prod.mk.inj given
      obtain ⟨rfl, -⟩ := Prod.mk.inj same
      exact ⟨rest answer (.store call answer), visits.store answer⟩
    · rw [s.withStore_own own] at given
      obtain ⟨reply, same⟩ := Prod.mk.inj given
      obtain ⟨rfl, -⟩ := Prod.mk.inj same
      have answered : s.answer action state = (some answer, (s.answer action state).2) :=
        Prod.ext reply rfl
      exact ⟨rest answer (.own visits answered), visits.own answered⟩

/-- **An operation under a foreign key changes places with a whole run.** -/
theorem Confined.run_perform (h : s.Confined first start K task state) {call : SettingsCall}
    (foreign : ¬K call.key) (store : SettingsStore) :
    s.withStore.run task (state, (store.perform call).2) =
        ((s.withStore.run task (state, store)).1, ((s.withStore.run task (state, store)).2.1,
          ((s.withStore.run task (state, store)).2.2.perform call).2)) ∧
      ((s.withStore.run task (state, store)).2.2.perform call).1 = (store.perform call).1 := by
  obtain ⟨keeps, visits⟩ := h
  induction keeps generalizing state store with
  | done h => exact ⟨rfl, rfl⟩
  | @ask action next allowed rest ih =>
    rcases action.settings_or_own with ⟨other, rfl⟩ | own
    · have apart : other.key ≠ call.key := by
        intro same
        exact foreign (same ▸ allowed)
      have rest := ih (store.perform other).1 (.store other _) (store.perform other).2
        (visits.store _)
      rw [SettingsStore.perform_comm apart.symm, SettingsStore.perform_reply apart.symm] at rest
      rw [run, run, withStore_settings, withStore_settings]
      simp only [SettingsStore.perform_reply apart]
      exact rest
    · rw [run, run, s.withStore_own own, s.withStore_own own]
      cases reply : (s.answer action state).1 with
      | none => exact ⟨rfl, rfl⟩
      | some answer =>
        have answered : s.answer action state = (some answer, (s.answer action state).2) :=
          Prod.ext reply rfl
        exact ih answer (.own visits answered) store (visits.own answered)

end Surroundings

/-! ## Two tasks at one store -/

/-- Two tasks, each with what its surroundings have come to, and the store that both use. -/
structure Pair (ω₁ ω₂ α β : Type) where
  left : Task α
  leftState : ω₁
  right : Task β
  rightState : ω₂
  store : SettingsStore

/-- What a program has come to, if it has come to its end. -/
def Program.value? {Q : Type} {A : Q → Type} {α : Type} : Program Q A α → Option α
  | .done value => some value
  | .ask _ _ => none

/-- One program is what another one does after an answer. -/
def Program.Follows {Q : Type} {A : Q → Type} {α : Type} (q p : Program Q A α) : Prop :=
  ∃ question next answer, p = .ask question next ∧ q = next answer

theorem Program.wellFounded_follows {Q : Type} {A : Q → Type} {α : Type} :
    WellFounded (Follows : Program Q A α → Program Q A α → Prop) := by
  refine ⟨fun p => ?_⟩
  induction p with
  | done value =>
    refine .intro _ ?_
    rintro q ⟨_, _, _, here, -⟩
    cases here
  | ask question next ih =>
    refine .intro _ ?_
    rintro q ⟨_, _, answer, here, rfl⟩
    cases here
    exact ih answer

namespace Pair

variable {ω₁ ω₂ α β : Type}

def swap (p : Pair ω₁ ω₂ α β) : Pair ω₂ ω₁ β α :=
  ⟨p.right, p.rightState, p.left, p.leftState, p.store⟩

/-- The results of the two tasks, as far as they have come to one, and the settings. -/
def outcome (p : Pair ω₁ ω₂ α β) : Option α × Option β × SettingsStore :=
  (p.left.value?, p.right.value?, p.store)

variable (l : Surroundings Action Action.Answer ω₁) (r : Surroundings Action Action.Answer ω₂)

/-- One of the two tasks makes a step. -/
inductive Move (p : Pair ω₁ ω₂ α β) : Pair ω₁ ω₂ α β → Prop where
  | left {next : Task α} {state : ω₁} {store : SettingsStore}
      (h : l.withStore.advance p.left (p.leftState, p.store) = some (next, (state, store))) :
      Move p { p with left := next, leftState := state, store }
  | right {next : Task β} {state : ω₂} {store : SettingsStore}
      (h : r.withStore.advance p.right (p.rightState, p.store) = some (next, (state, store))) :
      Move p { p with right := next, rightState := state, store }

/-- The outcome if the first task runs to its end before the second one begins. -/
def leftFirst (p : Pair ω₁ ω₂ α β) : Option α × Option β × SettingsStore :=
  let first := l.withStore.run p.left (p.leftState, p.store)
  let second := r.withStore.run p.right (p.rightState, first.2.2)
  (first.1, second.1, second.2.2)

/-- The outcome if the second task runs to its end before the first one begins. -/
def rightFirst (p : Pair ω₁ ω₂ α β) : Option α × Option β × SettingsStore :=
  let second := r.withStore.run p.right (p.rightState, p.store)
  let first := l.withStore.run p.left (p.leftState, second.2.2)
  (first.1, second.1, first.2.2)

variable {l r} {p q : Pair ω₁ ω₂ α β}

theorem Move.swap (h : Move l r p q) : Move r l p.swap q.swap := by
  cases h with
  | left h => exact .right h
  | right h => exact .left h

/-- Each task keeps to keys that are not those of the other. -/
structure Apart (l : Surroundings Action Action.Answer ω₁)
    (r : Surroundings Action Action.Answer ω₂) (first : Pair ω₁ ω₂ α β) (K₁ K₂ : String → Prop)
    (p : Pair ω₁ ω₂ α β) : Prop where
  left : l.Confined first.left first.leftState K₁ p.left p.leftState
  right : r.Confined first.right first.rightState K₂ p.right p.rightState
  disjoint : ∀ key, K₁ key → ¬K₂ key

section Apart

variable {first : Pair ω₁ ω₂ α β} {K₁ K₂ : String → Prop}

theorem Apart.swap (h : Apart l r first K₁ K₂ p) : Apart r l first.swap K₂ K₁ p.swap :=
  ⟨h.right, h.left, fun key own other => h.disjoint key other own⟩

theorem Apart.move (h : Apart l r first K₁ K₂ p) (step : Move l r p q) :
    Apart l r first K₁ K₂ q := by
  cases step with
  | left step => exact ⟨h.left.advance step, h.right, h.disjoint⟩
  | right step => exact ⟨h.left, h.right.advance step, h.disjoint⟩

/-- **A step of either task changes nothing about what comes of the first before the second.** -/
theorem Apart.leftFirst_move (h : Apart l r first K₁ K₂ p) (step : Move l r p q) :
    leftFirst l r q = leftFirst l r p := by
  cases step with
  | left step =>
    unfold leftFirst
    rw [Surroundings.run_advance step]
  | @right _ state store step =>
    obtain ⟨action, next, answer, here, rfl, given⟩ := Surroundings.advance_eq_some step
    rcases action.settings_or_own with ⟨call, rfl⟩ | own
    · -- The first task does not use the key, so the operation may as well come after its run.
      have foreign : ¬K₁ call.key := by
        intro used
        have keeps := h.right.keeps
        rw [here] at keeps
        cases keeps with
        | ask allowed rest => exact h.disjoint call.key used allowed
      obtain ⟨run, reply⟩ := h.left.run_perform foreign p.store
      rw [Surroundings.withStore_settings] at given
      obtain ⟨told, same⟩ := Prod.mk.inj given
      obtain ⟨rfl, rfl⟩ := Prod.mk.inj same
      obtain rfl := Option.some.inj told
      unfold leftFirst
      dsimp only
      rw [run, here, Surroundings.run, Surroundings.withStore_settings]
      simp only [reply]
    · rw [r.withStore_own own] at given
      obtain ⟨told, same⟩ := Prod.mk.inj given
      obtain ⟨rfl, rfl⟩ := Prod.mk.inj same
      unfold leftFirst
      dsimp only
      rw [here, Surroundings.run, r.withStore_own own, told]

/-- The same holds of the second before the first. -/
theorem Apart.rightFirst_move (h : Apart l r first K₁ K₂ p) (step : Move l r p q) :
    rightFirst l r q = rightFirst l r p := by
  have swapped := h.swap.leftFirst_move step.swap
  exact congrArg (fun o : Option β × Option α × SettingsStore => (o.2.1, o.1, o.2.2)) swapped

end Apart

/-- A task that has no step left has come to its result or to a question without an answer. -/
theorem run_of_ended {ω : Type} {s : Surroundings Action Action.Answer ω} {task : Task α}
    {state : ω} {store : SettingsStore} (ended : s.withStore.advance task (state, store) = none) :
    (s.withStore.run task (state, store)).1 = task.value? ∧
      (s.withStore.run task (state, store)).2.2 = store := by
  cases task with
  | done value => exact ⟨rfl, rfl⟩
  | ask action next =>
    rcases action.settings_or_own with ⟨call, rfl⟩ | own
    · cases ended
    · rw [Surroundings.advance, s.withStore_own own] at ended
      rw [Surroundings.run, s.withStore_own own]
      cases reply : (s.answer action state).1 with
      | none => exact ⟨rfl, rfl⟩
      | some answer =>
        rw [reply] at ended
        cases ended

theorem ended_left (ended : ∀ next, ¬Move l r p next) :
    l.withStore.advance p.left (p.leftState, p.store) = none := by
  cases step : l.withStore.advance p.left (p.leftState, p.store) with
  | none => rfl
  | some next => exact absurd (.left step) (ended _)

/-- Where no step is left, the outcome is there. -/
theorem leftFirst_of_ended (ended : ∀ next, ¬Move l r p next) : leftFirst l r p = p.outcome := by
  have ended' : ∀ next, ¬Move r l p.swap next := fun next step => ended _ step.swap
  obtain ⟨first, store⟩ := run_of_ended (ended_left ended)
  obtain ⟨second, last⟩ := run_of_ended (ended_left ended')
  unfold leftFirst outcome
  dsimp only
  rw [first, store]
  exact congrArg (Prod.mk _) (Prod.ext second last)

theorem rightFirst_of_ended (ended : ∀ next, ¬Move l r p next) : rightFirst l r p = p.outcome := by
  have swapped := leftFirst_of_ended (p := p.swap) fun next step => ended _ step.swap
  exact congrArg (fun o : Option β × Option α × SettingsStore => (o.2.1, o.1, o.2.2)) swapped

/-- The steps of two tasks come to an end in every order. -/
theorem wellFounded_move : WellFounded fun q p : Pair ω₁ ω₂ α β => Move l r p q := by
  have first := Program.wellFounded_follows (Q := Action) (A := Action.Answer) (α := α)
  have both := first.prod_gameAdd
    (Program.wellFounded_follows (Q := Action) (A := Action.Answer) (α := β))
  refine Subrelation.wf ?_ (InvImage.wf (fun p : Pair ω₁ ω₂ α β => (p.left, p.right)) both)
  intro q p step
  cases step with
  | left h =>
    obtain ⟨_, _, answer, here, rfl, -⟩ := Surroundings.advance_eq_some h
    exact .fst ⟨_, _, answer, here, rfl⟩
  | right h =>
    obtain ⟨_, _, answer, here, rfl, -⟩ := Surroundings.advance_eq_some h
    exact .snd ⟨_, _, answer, here, rfl⟩

/-- Some order of the steps leads to an end. -/
theorem exists_end (p : Pair ω₁ ω₂ α β) :
    ∃ last, Relation.ReflTransGen (Move l r) p last ∧ ∀ next, ¬Move l r last next := by
  obtain ⟨last, reached, least⟩ := (wellFounded_move (l := l) (r := r)).has_min
    {q | Relation.ReflTransGen (Move l r) p q} ⟨p, .refl⟩
  exact ⟨last, reached, fun next step => least next (reached.tail step) step⟩

/-- All orders of the steps have the outcomes of the two tasks one after the other. -/
theorem Apart.outcome_eq {first : Pair ω₁ ω₂ α β} {K₁ K₂ : String → Prop}
    (h : Apart l r first K₁ K₂ p) {last : Pair ω₁ ω₂ α β}
    (moves : Relation.ReflTransGen (Move l r) p last) (ended : ∀ next, ¬Move l r last next) :
    last.outcome = leftFirst l r p ∧ last.outcome = rightFirst l r p := by
  induction moves using Relation.ReflTransGen.head_induction_on with
  | refl => exact ⟨(leftFirst_of_ended ended).symm, (rightFirst_of_ended ended).symm⟩
  | head step _ ih =>
    obtain ⟨left, right⟩ := ih (h.move step)
    exact ⟨left.trans (h.leftFirst_move step), right.trans (h.rightFirst_move step)⟩

/-! ## Commands on VMs -/

/-- Two commands before their first steps. -/
def start (m₁ m₂ : Manager) (left right : Command) (state₁ : ω₁) (state₂ : ω₂)
    (store : SettingsStore) :
    Pair ω₁ ω₂ (Except CpiError left.Result) (Except CpiError right.Result) :=
  ⟨(m₁.carryOut left).run, state₁, (m₂.carryOut right).run, state₂, store⟩

/-- A command uses the settings under the names that its VM is reported with. -/
theorem confined_carryOut (m : Manager) {s : Surroundings Action Action.Answer ω₁} (state : ω₁)
    {command : Command} {vm : ResourceId} (about : command.vm? = some vm) :
    s.Confined (m.carryOut command).run state (s.Reports (m.carryOut command).run state vm)
      (m.carryOut command).run state where
  keeps := by
    have keeps : (m.carryOut command).Keeps (s.Reports (m.carryOut command).run state vm)
        (s.Hears (m.carryOut command).run state) fun _ => True :=
      m.keeps_carryOut (fun found heard => ⟨found, heard, rfl⟩) about
    exact keeps.mono fun _ _ => trivial
  visits := .refl

/-- **Commands on different VMs are independent.**  Two commands, each of which attaches or detaches
a disk, changes networks, lists disks or deletes a VM, and each with a backend of its own, run on
one settings store at the same time.  Their steps come to an end in every order.  If the backends
never report the same name for the two VMs, then, whatever the order was, both commands have the
results, and the store has the settings, that there are when either of the two commands runs to its
end before the other begins. -/
theorem independent (m₁ m₂ : Manager) {left right : Command} {vm₁ vm₂ : ResourceId}
    (aboutLeft : left.vm? = some vm₁) (aboutRight : right.vm? = some vm₂) {state₁ : ω₁}
    {state₂ : ω₂} (apart : ∀ name, l.Reports (m₁.carryOut left).run state₁ vm₁ name →
      ¬r.Reports (m₂.carryOut right).run state₂ vm₂ name) (store : SettingsStore) :
    Acc (fun q p => Move l r p q) (start m₁ m₂ left right state₁ state₂ store) ∧
      ∀ last, Relation.ReflTransGen (Move l r) (start m₁ m₂ left right state₁ state₂ store) last →
        (∀ next, ¬Move l r last next) →
        last.outcome = leftFirst l r (start m₁ m₂ left right state₁ state₂ store) ∧
          last.outcome = rightFirst l r (start m₁ m₂ left right state₁ state₂ store) := by
  have tasks : Apart l r (start m₁ m₂ left right state₁ state₂ store)
      (l.Reports (m₁.carryOut left).run state₁ vm₁) (r.Reports (m₂.carryOut right).run state₂ vm₂)
      (start m₁ m₂ left right state₁ state₂ store) :=
    ⟨confined_carryOut m₁ state₁ aboutLeft, confined_carryOut m₂ state₂ aboutRight, apart⟩
  exact ⟨wellFounded_move.apply _, fun last moves ended => tasks.outcome_eq moves ended⟩

/-- A backend that has a VM under the name and attaches volumes to it. -/
def hosting (name : String) : Surroundings Action Action.Answer Bool where
  answer
    | .provider (.describeVm id), attached =>
      (some (.ok (some ⟨id, name, .running, none, [], none⟩)), attached)
    | .provider (.describeVolume id), attached =>
      (some (.ok (some ⟨id, "", if attached then .inUse else .available, 0, none⟩)), attached)
    | .provider (.attachVolume _ _), _ => (some (.ok ()), true)
    | .cancelled, attached => (some false, attached)
    | .clock, attached => (some Duration.zero, attached)
    | _, attached => (none, attached)

theorem name_of_hosting {task : Task α} {attached : Bool} {id : ResourceId} {name told : String}
    (h : (hosting name).Reports task attached id told) : told = name := by
  obtain ⟨vm, heard, rfl⟩ := h
  cases heard with
  | own _ answered =>
    cases answered
    rfl

/-- Two VMs get a disk each at the same time. -/
def neighbours : Pair Bool Bool (Except CpiError String) (Except CpiError String) :=
  start .small .small (.attachDisk ⟨"i-1"⟩ ⟨"d-1"⟩) (.attachDisk ⟨"i-2"⟩ ⟨"d-2"⟩) false false
    (Dict.ofList [("vm-1", Manager.small.initialSettings "vm-1" .small),
      ("vm-2", Manager.small.initialSettings "vm-2" .small)])

/-- In every order of the steps, neither record of a disk gets lost. -/
theorem independent_neighbours :
    (∃ last, Relation.ReflTransGen (Move (hosting "vm-1") (hosting "vm-2")) neighbours last ∧
      ∀ next, ¬Move (hosting "vm-1") (hosting "vm-2") last next) ∧
    ∀ last, Relation.ReflTransGen (Move (hosting "vm-1") (hosting "vm-2")) neighbours last →
      (∀ next, ¬Move (hosting "vm-1") (hosting "vm-2") last next) →
      last.outcome = (some (.ok "/dev/sdc"), some (.ok "/dev/sdc"), Dict.ofList [
        ("vm-1", Manager.recordDevice (Manager.small.initialSettings "vm-1" .small) ⟨"d-1"⟩
          "/dev/sdc"),
        ("vm-2", Manager.recordDevice (Manager.small.initialSettings "vm-2" .small) ⟨"d-2"⟩
          "/dev/sdc")]) := by
  refine ⟨exists_end neighbours, fun last moves ended => ?_⟩
  have apart : ∀ name,
      (hosting "vm-1").Reports (Manager.small.carryOut (.attachDisk ⟨"i-1"⟩ ⟨"d-1"⟩)).run false
        ⟨"i-1"⟩ name →
      ¬(hosting "vm-2").Reports (Manager.small.carryOut (.attachDisk ⟨"i-2"⟩ ⟨"d-2"⟩)).run false
        ⟨"i-2"⟩ name := by
    intro name first second
    have same : "vm-1" = "vm-2" := (name_of_hosting first).symm.trans (name_of_hosting second)
    exact absurd same (by decide)
  have aboutLeft : (Command.attachDisk ⟨"i-1"⟩ ⟨"d-1"⟩).vm? = some ⟨"i-1"⟩ := rfl
  have aboutRight : (Command.attachDisk ⟨"i-2"⟩ ⟨"d-2"⟩).vm? = some ⟨"i-2"⟩ := rfl
  exact ((independent .small .small aboutLeft aboutRight apart _).2 last moves ended).1

end Pair

end CloudLifecycle
