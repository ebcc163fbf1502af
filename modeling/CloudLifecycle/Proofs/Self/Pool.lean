import CloudLifecycle.Lifecycle.Self
import Mathlib.Logic.Function.Basic

/-!
# Calls for the machine's own id at the same time

Any number of calls of `Self.id` run in one pool, in which they share what is remembered and the
lock.  Each step of the pool is one action of one call, in any order; a look-up starts and comes to
its end in two steps, between which other calls go on, and its answer may be any.  A call is always
in one of a few phases, and each step takes it from one to another (`Self.move_of_step`).
-/

set_option autoImplicit false

namespace CloudLifecycle.Self

variable {ι : Type}

/-! ## The pool -/

/-- What a call does: it goes on with a program, or waits for the answer to its look-up. -/
inductive Activity where
  | ready (program : Task (ProviderResult ResourceId))
  | lookingUp (next : ProviderResult String → Task (ProviderResult ResourceId))

/-- Calls with what is remembered for all of them and the call that holds the lock. -/
structure Pool (ι : Type) where
  cache : Option ResourceId
  holder : Option ι
  call : ι → Activity

/-- A step of one of the calls. -/
inductive Event (ι : Type) where
  | read (i : ι)
  | lock (i : ι)
  | start (i : ι)
  | finish (i : ι) (answer : ProviderResult String)
  | remember (i : ι) (id : ResourceId)
  | unlock (i : ι)

namespace Pool

/-- Every call is at its start, and nothing is remembered. -/
def initial : Pool ι := ⟨none, none, fun _ => .ready Self.id⟩

/-- A look-up of the call is in flight. -/
def LooksUp (pool : Pool ι) (i : ι) : Prop := ∃ next, pool.call i = .lookingUp next

/-- The call has come to its end. -/
def Returned (pool : Pool ι) (i : ι) (result : ProviderResult ResourceId) : Prop :=
  pool.call i = .ready (.done result)

variable [DecidableEq ι]

/-- The pool with a call that goes on in another way. -/
def resume (pool : Pool ι) (i : ι) (activity : Activity) : Pool ι :=
  { pool with call := Function.update pool.call i activity }

/-- The pool after a step, if the call can make it. -/
def step (pool : Pool ι) : Event ι → Option (Pool ι)
  | .read i => match pool.call i with
    | .ready (.ask .recallSelf next) => some (pool.resume i (.ready (next pool.cache)))
    | _ => none
  | .lock i => match pool.call i, pool.holder with
    | .ready (.ask .lockSelf next), none =>
      some { pool.resume i (.ready (next ())) with holder := some i }
    | _, _ => none
  | .start i => match pool.call i with
    | .ready (.ask .lookUpSelf next) => some (pool.resume i (.lookingUp next))
    | _ => none
  | .finish i answer => match pool.call i with
    | .lookingUp next => some (pool.resume i (.ready (next answer)))
    | _ => none
  | .remember i id => match pool.call i with
    | .ready (.ask (.rememberSelf own) next) =>
      if own = id then some { pool.resume i (.ready (next ())) with cache := some id } else none
    | _ => none
  | .unlock i => match pool.call i with
    | .ready (.ask .unlockSelf next) =>
      some { pool.resume i (.ready (next ())) with holder := none }
    | _ => none

/-- The steps lead from the start to the pool. -/
inductive Reaches : List (Event ι) → Pool ι → Prop where
  | start : Reaches [] initial
  | step {events : List (Event ι)} {event : Event ι} {pool next : Pool ι}
      (before : Reaches events pool) (own : pool.step event = some next) :
      Reaches (events ++ [event]) next

end Pool

section Steps

variable [DecidableEq ι]

/-- Further steps lead further. -/
theorem Pool.Reaches.steps {events more : List (Event ι)} {pool next : Pool ι}
    (h : Reaches events pool) (own : more.foldlM Pool.step pool = some next) :
    Reaches (events ++ more) next := by
  induction more generalizing events pool with
  | nil =>
    obtain rfl := Option.some.inj own
    rwa [List.append_nil]
  | cons event more ih =>
    rw [List.foldlM_cons, Option.bind_eq_bind, Option.bind_eq_some_iff] at own
    obtain ⟨middle, first, rest⟩ := own
    rw [List.append_cons]
    exact ih (h.step first) rest

end Steps

/-! ## The phases of a call -/

/-- Where a call stands. -/
inductive Phase where
  | fresh
  | waiting
  | checking
  | searching
  | lookingUp
  | remembering (id : ResourceId)
  | leaving (result : ProviderResult ResourceId)
  | returned (result : ProviderResult ResourceId)

/-- Gives the lock back and ends. -/
def leave (result : ProviderResult ResourceId) : Task (ProviderResult ResourceId) :=
  .ask .unlockSelf fun _ => .done result

/-- Remembers an id that was found. -/
def keep (id : ResourceId) : Task (ProviderResult ResourceId) :=
  .ask (.rememberSelf id) fun _ => leave (.ok id)

/-- What follows a look-up. -/
def conclude : ProviderResult ResourceId → Task (ProviderResult ResourceId)
  | .ok id => keep id
  | .error e => leave (.error e)

def search : Task (ProviderResult ResourceId) :=
  .ask .lookUpSelf fun answer => conclude (ofAnswer answer)

/-- Looks whether something is remembered once the lock is held. -/
def check : Task (ProviderResult ResourceId) :=
  .ask .recallSelf fun
    | some id => leave (.ok id)
    | none => search

def wait : Task (ProviderResult ResourceId) := .ask .lockSelf fun _ => check

namespace Phase

/-- What a call does in a phase. -/
def activity : Phase → Activity
  | fresh => .ready Self.id
  | waiting => .ready wait
  | checking => .ready check
  | searching => .ready search
  | lookingUp => .lookingUp fun answer => conclude (ofAnswer answer)
  | remembering id => .ready (keep id)
  | leaving result => .ready (leave result)
  | returned result => .ready (.done result)

/-- The lock is held. -/
def isInside : Phase → Bool
  | checking | searching | lookingUp | remembering _ | leaving _ => true
  | fresh | waiting | returned _ => false

/-- The phase after a look-up. -/
def landed : ProviderResult ResourceId → Phase
  | .ok id => remembering id
  | .error e => leaving (.error e)

theorem eq_lookingUp {phase : Phase}
    {next : ProviderResult String → Task (ProviderResult ResourceId)}
    (h : phase.activity = .lookingUp next) : phase = lookingUp := by
  cases phase with
  | lookingUp => rfl
  | _ => cases h

theorem activity_landed (outcome : ProviderResult ResourceId) :
    (landed outcome).activity = .ready (conclude outcome) := by
  cases outcome <;> rfl

end Phase

theorem lookUp_bind_leave : lookUp.bind leave = search := by
  show Program.ask _ _ = Program.ask _ _
  congr 1
  funext answer
  dsimp only [Program.bind_done]
  cases ofAnswer answer with
  | error e => rfl
  | ok id => rfl

/-- What a call does, phase by phase. -/
theorem id_eq : Self.id = .ask .recallSelf fun
    | some id => .done (.ok id)
    | none => wait := by
  unfold Self.id wait check
  show Program.ask _ _ = Program.ask _ _
  congr 1
  funext remembered
  cases remembered with
  | some id => rfl
  | none =>
    show Program.ask _ _ = Program.ask _ _
    congr 1
    funext _
    show Program.ask _ _ = Program.ask _ _
    congr 1
    funext remembered
    cases remembered with
    | some id => rfl
    | none => exact lookUp_bind_leave

theorem Phase.eq_returned {phase : Phase} {result : ProviderResult ResourceId}
    (h : phase.activity = .ready (.done result)) : phase = .returned result := by
  cases phase with
  | returned own =>
    cases h
    rfl
  | fresh =>
    rw [activity, id_eq] at h
    cases h
  | _ => cases h

/-! ## Courses -/

/-- A pool whose calls stand in phases. -/
structure Course (ι : Type) where
  cache : Option ResourceId
  holder : Option ι
  phase : ι → Phase

namespace Course

def initial : Course ι := ⟨none, none, fun _ => .fresh⟩

/-- The pool of the calls. -/
def pool (c : Course ι) : Pool ι := ⟨c.cache, c.holder, fun i => (c.phase i).activity⟩

theorem call_pool (c : Course ι) (i : ι) : c.pool.call i = (c.phase i).activity := rfl

variable [DecidableEq ι] {c d : Course ι} {event : Event ι} {i : ι}

/-- The course with one call in another phase. -/
def enter (c : Course ι) (i : ι) (phase : Phase) : Course ι :=
  { c with phase := Function.update c.phase i phase }

/-- How a step takes its call from one phase to another. -/
inductive Move (c : Course ι) : Event ι → Course ι → Prop where
  | recalled {i : ι} {id : ResourceId} (here : c.phase i = .fresh) (known : c.cache = some id) :
      Move c (.read i) (c.enter i (.returned (.ok id)))
  | missed {i : ι} (here : c.phase i = .fresh) (unknown : c.cache = none) :
      Move c (.read i) (c.enter i .waiting)
  | locked {i : ι} (here : c.phase i = .waiting) (free : c.holder = none) :
      Move c (.lock i) { c.enter i .checking with holder := some i }
  | found {i : ι} {id : ResourceId} (here : c.phase i = .checking) (known : c.cache = some id) :
      Move c (.read i) (c.enter i (.leaving (.ok id)))
  | lacking {i : ι} (here : c.phase i = .checking) (unknown : c.cache = none) :
      Move c (.read i) (c.enter i .searching)
  | started {i : ι} (here : c.phase i = .searching) : Move c (.start i) (c.enter i .lookingUp)
  | finished {i : ι} (here : c.phase i = .lookingUp) (answer : ProviderResult String) :
      Move c (.finish i answer) (c.enter i (.landed (ofAnswer answer)))
  | remembered {i : ι} {id : ResourceId} (here : c.phase i = .remembering id) :
      Move c (.remember i id) { c.enter i (.leaving (.ok id)) with cache := some id }
  | unlocked {i : ι} {result : ProviderResult ResourceId} (here : c.phase i = .leaving result) :
      Move c (.unlock i) { c.enter i (.returned result) with holder := none }

theorem pool_enter (c : Course ι) (i : ι) (phase : Phase) :
    (c.enter i phase).pool = c.pool.resume i phase.activity := by
  unfold enter pool Pool.resume
  congr 1
  funext j
  by_cases same : j = i
  · subst same
    simp
  · simp [same]

theorem pool_enter_holder (c : Course ι) (i : ι) (phase : Phase) (holder : Option ι) :
    pool { c.enter i phase with holder } = { c.pool.resume i phase.activity with holder } := by
  rw [← pool_enter]
  rfl

theorem pool_enter_cache (c : Course ι) (i : ι) (phase : Phase) (cache : Option ResourceId) :
    pool { c.enter i phase with cache } = { c.pool.resume i phase.activity with cache } := by
  rw [← pool_enter]
  rfl

/-- A call reads what is remembered before it waits for the lock and once it holds it. -/
theorem move_of_read {next : Pool ι} (h : c.pool.step (.read i) = some next) :
    ∃ d, c.Move (.read i) d ∧ next = d.pool := by
  rw [Pool.step, call_pool] at h
  cases here : c.phase i with
  | fresh =>
    simp only [here, Phase.activity, id_eq] at h
    cases known : c.cache with
    | none =>
      refine ⟨_, .missed here known, ?_⟩
      rw [pool_enter, ← Option.some.inj h, pool, known]
      rfl
    | some id =>
      refine ⟨_, .recalled here known, ?_⟩
      rw [pool_enter, ← Option.some.inj h, pool, known]
      rfl
  | checking =>
    simp only [here, Phase.activity, check] at h
    cases known : c.cache with
    | none =>
      refine ⟨_, .lacking here known, ?_⟩
      rw [pool_enter, ← Option.some.inj h, pool, known]
      rfl
    | some id =>
      refine ⟨_, .found here known, ?_⟩
      rw [pool_enter, ← Option.some.inj h, pool, known]
      rfl
  | _ => simp [here, Phase.activity, wait, search, keep, leave] at h

theorem move_of_lock {next : Pool ι} (h : c.pool.step (.lock i) = some next) :
    ∃ d, c.Move (.lock i) d ∧ next = d.pool := by
  rw [Pool.step, call_pool] at h
  cases here : c.phase i with
  | waiting =>
    cases free : c.holder with
    | none =>
      refine ⟨_, .locked here free, ?_⟩
      have unheld : c.pool.holder = none := free
      simp only [here, Phase.activity, wait, unheld] at h
      rw [pool_enter_holder, ← Option.some.inj h]
      rfl
    | some j => simp [here, Phase.activity, wait, pool, free] at h
  | _ => simp [here, Phase.activity, id_eq, check, search, keep, leave] at h

theorem move_of_remember {id : ResourceId} {next : Pool ι}
    (h : c.pool.step (.remember i id) = some next) :
    ∃ d, c.Move (.remember i id) d ∧ next = d.pool := by
  rw [Pool.step, call_pool] at h
  cases here : c.phase i with
  | remembering own =>
    simp only [here, Phase.activity, keep] at h
    split at h
    · rename_i same
      obtain rfl := same
      refine ⟨_, .remembered here, ?_⟩
      rw [pool_enter_cache, ← Option.some.inj h]
      rfl
    · cases h
  | _ => simp [here, Phase.activity, id_eq, wait, check, search, leave] at h

/-- Every step of a pool is a move between phases. -/
theorem move_of_step {next : Pool ι} (h : c.pool.step event = some next) :
    ∃ d, c.Move event d ∧ next = d.pool := by
  cases event with
  | read i => exact move_of_read h
  | lock i => exact move_of_lock h
  | remember i id => exact move_of_remember h
  | start i =>
    rw [Pool.step, call_pool] at h
    cases here : c.phase i with
    | searching =>
      refine ⟨_, .started here, ?_⟩
      simp only [here, Phase.activity, search] at h
      rw [pool_enter, ← Option.some.inj h]
      rfl
    | _ => simp [here, Phase.activity, id_eq, wait, check, keep, leave] at h
  | finish i answer =>
    rw [Pool.step, call_pool] at h
    cases here : c.phase i with
    | lookingUp =>
      refine ⟨_, .finished here answer, ?_⟩
      simp only [here, Phase.activity] at h
      rw [pool_enter, Phase.activity_landed, ← Option.some.inj h]
    | _ => simp [here, Phase.activity] at h
  | unlock i =>
    rw [Pool.step, call_pool] at h
    cases here : c.phase i with
    | leaving result =>
      refine ⟨_, .unlocked here, ?_⟩
      simp only [here, Phase.activity, leave] at h
      rw [pool_enter_holder, ← Option.some.inj h]
      rfl
    | _ => simp [here, Phase.activity, id_eq, wait, check, search, keep] at h

end Course

end CloudLifecycle.Self
