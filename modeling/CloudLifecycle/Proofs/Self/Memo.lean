import CloudLifecycle.Proofs.Self.Pool
import Mathlib.Data.List.Basic

/-!
# The machine's own id is looked up once

Calls for the machine's own id that run at the same time do not disturb each other
(`Self.Pool.memoized_of_reaches`): one look-up at most is in flight, an id that was found is the one
that all calls give, and none is looked up after it.  A look-up that finds none fails its own call.
-/

set_option autoImplicit false

namespace CloudLifecycle.Self

variable {ι : Type}

/-! ## What look-ups found -/

/-- The id in the answer to a look-up, which is not blank. -/
def Event.found : Event ι → Option ResourceId
  | .finish _ (.ok raw) =>
    if (Text.trimmed raw).isEmpty then none else some ⟨Text.trimmed raw⟩
  | _ => none

/-- The step is the end of a look-up. -/
def Event.isFinish : Event ι → Bool
  | .finish _ _ => true
  | _ => false

theorem Event.found_of_isFinish {event : Event ι} (h : event.isFinish = false) :
    event.found = none := by
  cases event with
  | finish i answer => cases h
  | _ => rfl

theorem Event.ne_finish {event : Event ι} (h : event.isFinish = false) (i : ι)
    (answer : ProviderResult String) : event ≠ .finish i answer := by
  rintro rfl
  cases h

/-- The ids that look-ups found, in their order. -/
def found (events : List (Event ι)) : List ResourceId := events.filterMap Event.found

theorem found_append (before after : List (Event ι)) :
    found (before ++ after) = found before ++ found after := List.filterMap_append

theorem found_append_of_none {event : Event ι} (h : event.found = none) (events : List (Event ι)) :
    found (events ++ [event]) = found events := by
  rw [found_append, found, found, List.filterMap_cons_none h, List.filterMap_nil, List.append_nil]

theorem found_append_of_some {event : Event ι} {id : ResourceId} (h : event.found = some id)
    (events : List (Event ι)) : found (events ++ [event]) = found events ++ [id] := by
  rw [found_append, found, found, List.filterMap_cons_some h, List.filterMap_nil]

theorem found_finish_of_ok {answer : ProviderResult String} {id : ResourceId}
    (h : ofAnswer answer = .ok id) (i : ι) :
    (Event.finish i answer).found = some id ∧ id.text ≠ "" := by
  cases answer with
  | error e => cases h
  | ok raw =>
    simp only [ofAnswer] at h
    split at h
    · cases h
    · rename_i filled
      obtain rfl := Except.ok.inj h
      rw [Event.found, if_neg filled]
      refine ⟨rfl, fun blank => filled ?_⟩
      show (Text.trimmed raw).isEmpty = true
      rw [show Text.trimmed raw = "" from blank]
      rfl

theorem found_finish_of_error {answer : ProviderResult String} {e : ProviderError}
    (h : ofAnswer answer = .error e) (i : ι) : (Event.finish i answer).found = none := by
  cases answer with
  | error e => rfl
  | ok raw =>
    simp only [ofAnswer] at h
    split at h
    · rename_i blank
      rw [Event.found, if_pos blank]
    · cases h

/-! ## What a call knows -/

/-- What is true of a call that has its result. -/
structure Ended (events : List (Event ι)) (cache : Option ResourceId) (i : ι)
    (result : ProviderResult ResourceId) : Prop where
  /-- A look-up of its own gave the result. -/
  own : ∀ answer, .finish i answer ∈ events → ofAnswer answer = result
  known : ∀ id, result = .ok id → cache = some id
  /-- It does not fail without a look-up of its own. -/
  blamed : ∀ e, result = .error e → ∃ answer, .finish i answer ∈ events

/-- The call has no look-up that came to its end. -/
def Untouched (events : List (Event ι)) (i : ι) : Prop := ∀ answer, .finish i answer ∉ events

/-- What is true of a call in a phase. -/
def Accounts (events : List (Event ι)) (cache : Option ResourceId) (i : ι) : Phase → Prop
  | .fresh | .waiting | .checking => Untouched events i
  | .searching | .lookingUp => Untouched events i ∧ found events = []
  | .remembering id =>
    (∀ answer, .finish i answer ∈ events → ofAnswer answer = .ok id) ∧ found events = [id] ∧
      id.text ≠ ""
  | .leaving result | .returned result => Ended events cache i result

section Frame

variable {events : List (Event ι)} {cache later : Option ResourceId} {i : ι} {event : Event ι}

theorem mem_of_append_other {answer : ProviderResult String}
    (other : ∀ answer, event ≠ .finish i answer) (h : .finish i answer ∈ events ++ [event]) :
    .finish i answer ∈ events := by
  rcases List.mem_append.1 h with h | h
  · exact h
  · exact absurd (List.mem_singleton.1 h).symm (other answer)

theorem Untouched.append (h : Untouched events i) (other : ∀ answer, event ≠ .finish i answer) :
    Untouched (events ++ [event]) i := fun answer member =>
  h answer (mem_of_append_other other member)

theorem Ended.append {result : ProviderResult ResourceId} (h : Ended events cache i result)
    (other : ∀ answer, event ≠ .finish i answer)
    (kept : ∀ id, cache = some id → later = some id) :
    Ended (events ++ [event]) later i result where
  own := fun answer member => h.own answer (mem_of_append_other other member)
  known := fun id same => kept id (h.known id same)
  blamed := fun e same => (h.blamed e same).imp fun _ => List.mem_append_left _

/-- A call stays what it is while another one makes a step, or while it finds nothing itself. -/
theorem Accounts.append {phase : Phase} (h : Accounts events cache i phase)
    (other : ∀ answer, event ≠ .finish i answer)
    (quiet : event.found = none ∨ phase.isInside = false)
    (kept : ∀ id, cache = some id → later = some id) :
    Accounts (events ++ [event]) later i phase := by
  have same (inside : phase.isInside = true) : found (events ++ [event]) = found events := by
    rcases quiet with none | outside
    · exact found_append_of_none none events
    · rw [inside] at outside
      cases outside
  cases phase with
  | fresh => exact Untouched.append h other
  | waiting => exact Untouched.append h other
  | checking => exact Untouched.append h other
  | searching => exact ⟨h.1.append other, (same rfl).trans h.2⟩
  | lookingUp => exact ⟨h.1.append other, (same rfl).trans h.2⟩
  | remembering id =>
    exact ⟨fun answer member => h.1 answer (mem_of_append_other other member),
      (same rfl).trans h.2.1, h.2.2⟩
  | leaving result => exact Ended.append h other kept
  | returned result => exact Ended.append h other kept

/-- A call that finds an id remembered gives it. -/
theorem Untouched.ended {id : ResourceId} (h : Untouched events i) (known : cache = some id) :
    Ended events cache i (.ok id) where
  own := fun answer member => absurd member (h answer)
  known := fun other same => by rw [known, Except.ok.inj same]
  blamed := fun e same => nomatch same

end Frame

/-! ## The invariant -/

/-- What is true of calls that made the steps of the events. -/
structure Course.Sound (events : List (Event ι)) (c : Course ι) : Prop where
  /-- The call that holds the lock is the one inside. -/
  inside : ∀ i, (c.phase i).isInside = true ↔ c.holder = some i
  accounts : ∀ i, Accounts events c.cache i (c.phase i)
  cached : ∀ id, c.cache = some id → found events = [id] ∧ id.text ≠ ""
  /-- An id that was found is remembered, or will be by the call that found it. -/
  pending : ∀ id, id ∈ found events → c.cache = none → ∃ i, c.phase i = .remembering id

namespace Course

variable {events : List (Event ι)} {c d : Course ι} {event : Event ι} {i : ι}

theorem Sound.account (h : c.Sound events) {phase : Phase} (here : c.phase i = phase) :
    Accounts events c.cache i phase := here ▸ h.accounts i

/-- Two calls inside are one. -/
theorem Sound.unique (h : c.Sound events) {i j : ι} (hi : (c.phase i).isInside = true)
    (hj : (c.phase j).isInside = true) : i = j := by
  have holds := (h.inside i).1 hi
  rw [(h.inside j).1 hj] at holds
  exact (Option.some.inj holds).symm

/-- What was found but is not remembered yet would be with the call inside. -/
theorem Sound.nothing_found (h : c.Sound events) (here : c.phase i = .checking)
    (unknown : c.cache = none) : Self.found events = [] := by
  rw [List.eq_nil_iff_forall_not_mem]
  intro id member
  obtain ⟨j, there⟩ := h.pending id member unknown
  have same : i = j := h.unique (by rw [here]; rfl) (by rw [there]; rfl)
  rw [← same, here] at there
  cases there

theorem sound_initial : (initial : Course ι).Sound [] where
  inside := fun i => by simp [initial, Phase.isInside]
  accounts := fun i answer member => nomatch member
  cached := fun id same => nomatch same
  pending := fun id member => nomatch member

variable [DecidableEq ι]

theorem phase_enter_self (c : Course ι) (i : ι) (phase : Phase) :
    (c.enter i phase).phase i = phase := by
  simp [enter]

theorem phase_enter_of_ne (c : Course ι) {i j : ι} (h : j ≠ i) (phase : Phase) :
    (c.enter i phase).phase j = c.phase j := by
  simp [enter, h]

theorem inside_enter (h : ∀ j, (c.phase j).isInside = true ↔ c.holder = some j) {phase : Phase}
    (same : phase.isInside = (c.phase i).isInside) (j : ι) :
    ((c.enter i phase).phase j).isInside = true ↔ c.holder = some j := by
  by_cases own : j = i
  · rw [own, phase_enter_self, same, h]
  · rw [phase_enter_of_ne c own, h]

/-- A call that takes the free lock is the one inside. -/
theorem inside_take (h : ∀ j, (c.phase j).isInside = true ↔ c.holder = some j)
    (free : c.holder = none) {phase : Phase} (inside : phase.isInside = true) (j : ι) :
    ((c.enter i phase).phase j).isInside = true ↔ some i = some j := by
  by_cases own : j = i
  · rw [own, phase_enter_self, inside]
    simp
  · rw [phase_enter_of_ne c own, h, free]
    simp [Ne.symm own]

/-- Once the call inside gives the lock back, there is none. -/
theorem inside_give (h : ∀ j, (c.phase j).isInside = true ↔ c.holder = some j)
    (held : c.holder = some i) {phase : Phase} (outside : phase.isInside = false) (j : ι) :
    ((c.enter i phase).phase j).isInside = true ↔ none = some j := by
  by_cases own : j = i
  · rw [own, phase_enter_self, outside]
    simp
  · rw [phase_enter_of_ne c own, h, held]
    simp [Ne.symm own]

/-- One call makes a step and all others stay. -/
theorem accounts_enter {cache : Option ResourceId} {phase : Phase}
    (own : Accounts events cache i phase)
    (others : ∀ j, j ≠ i → Accounts events cache j (c.phase j)) (j : ι) :
    Accounts events cache j ((c.enter i phase).phase j) := by
  by_cases same : j = i
  · rw [same, phase_enter_self]
    exact own
  · rw [phase_enter_of_ne c same]
    exact others j same

/-- A step that is not the end of a look-up leaves what was found. -/
theorem Sound.quiet (h : c.Sound events) {phase : Phase} {holder : Option ι}
    (other : event.isFinish = false) (settled : ∀ id, c.phase i ≠ .remembering id)
    (own : Accounts (events ++ [event]) c.cache i phase)
    (inside : ∀ j, ((c.enter i phase).phase j).isInside = true ↔ holder = some j) :
    Sound (events ++ [event]) { c.enter i phase with holder } where
  inside := inside
  accounts := accounts_enter own fun j _ =>
    (h.accounts j).append (event.ne_finish other j) (.inl (event.found_of_isFinish other))
      fun _ same => same
  cached := fun id same => by
    rw [found_append_of_none (event.found_of_isFinish other)]
    exact h.cached id same
  pending := fun id member empty => by
    rw [found_append_of_none (event.found_of_isFinish other)] at member
    obtain ⟨j, here⟩ := h.pending id member empty
    have apart : j ≠ i := by
      rintro rfl
      exact settled id here
    exact ⟨j, (phase_enter_of_ne c apart phase).trans here⟩

/-- The same of a step that neither takes the lock nor gives it back. -/
theorem Sound.stay (h : c.Sound events) {phase : Phase} (other : event.isFinish = false)
    (settled : ∀ id, c.phase i ≠ .remembering id)
    (own : Accounts (events ++ [event]) c.cache i phase)
    (same : phase.isInside = (c.phase i).isInside) : Sound (events ++ [event]) (c.enter i phase) :=
  h.quiet other settled own (inside_enter h.inside same)

/-- A look-up that finds no id leaves everything but its call. -/
theorem Sound.failed (h : c.Sound events) (here : c.phase i = .lookingUp)
    {answer : ProviderResult String} {e : ProviderError} (outcome : ofAnswer answer = .error e) :
    Sound (events ++ [.finish i answer]) (c.enter i (.leaving (.error e))) := by
  have none : (Event.finish i answer).found = none := found_finish_of_error outcome i
  obtain ⟨untouched, nothing⟩ := h.account here
  refine ⟨inside_enter h.inside (by rw [here]; rfl), accounts_enter ?_ ?_, ?_, ?_⟩
  · refine ⟨?_, fun id same => (nomatch same), fun _ _ => ⟨answer, by simp⟩⟩
    intro other member
    rcases List.mem_append.1 member with member | member
    · exact absurd member (untouched other)
    · cases List.mem_singleton.1 member
      exact outcome
  · intro j apart
    refine (h.accounts j).append ?_ (.inl none) fun _ same => same
    rintro other ⟨⟩
    exact apart rfl
  · intro id same
    rw [found_append_of_none none]
    exact h.cached id same
  · intro id member
    rw [found_append_of_none none, nothing] at member
    cases member

/-- A look-up that finds an id is the first that does. -/
theorem Sound.succeeded (h : c.Sound events) (here : c.phase i = .lookingUp)
    {answer : ProviderResult String} {id : ResourceId} (outcome : ofAnswer answer = .ok id) :
    Sound (events ++ [.finish i answer]) (c.enter i (.remembering id)) := by
  obtain ⟨some, filled⟩ := found_finish_of_ok outcome i
  obtain ⟨untouched, nothing⟩ := h.account here
  have first : Self.found (events ++ [.finish i answer]) = [id] := by
    rw [found_append_of_some some, nothing, List.nil_append]
  refine ⟨inside_enter h.inside (by rw [here]; rfl), accounts_enter ?_ ?_, ?_, ?_⟩
  · refine ⟨?_, first, filled⟩
    intro other member
    rcases List.mem_append.1 member with member | member
    · exact absurd member (untouched other)
    · cases List.mem_singleton.1 member
      exact outcome
  · intro j apart
    have outside : (c.phase j).isInside = false := by
      rw [Bool.eq_false_iff]
      intro inside
      exact apart (h.unique inside (by rw [here]; rfl))
    refine (h.accounts j).append ?_ (.inr outside) fun _ same => same
    rintro other ⟨⟩
    exact apart rfl
  · intro other same
    have before := (h.cached other same).1
    rw [nothing] at before
    cases before
  · intro other member _
    rw [first] at member
    obtain rfl := List.mem_singleton.1 member
    exact ⟨i, phase_enter_self c i _⟩

/-- The id that was found is remembered. -/
theorem Sound.remembered (h : c.Sound events) {id : ResourceId}
    (here : c.phase i = .remembering id) :
    Sound (events ++ [.remember i id]) { c.enter i (.leaving (.ok id)) with cache := some id } := by
  obtain ⟨own, only, filled⟩ := h.account here
  have none : (Event.remember i id).found = none := rfl
  refine ⟨inside_enter h.inside (by rw [here]; rfl), accounts_enter ?_ ?_, ?_, ?_⟩
  · refine ⟨?_, fun other same => congrArg some (Except.ok.inj same), fun e same => nomatch same⟩
    intro answer member
    exact own answer (mem_of_append_other (Event.ne_finish rfl i) member)
  · intro j _
    refine (h.accounts j).append (Event.ne_finish rfl j) (.inl none) ?_
    -- Nothing else can have been remembered before.
    intro other same
    have before := (h.cached other same).1
    rw [only] at before
    rw [(List.cons.inj before).1]
  · intro other same
    obtain rfl := Option.some.inj same
    rw [found_append_of_none none]
    exact ⟨only, filled⟩
  · intro other member unknown
    cases unknown

/-- **Every step keeps the invariant.** -/
theorem Sound.move (h : c.Sound events) (step : c.Move event d) : d.Sound (events ++ [event]) := by
  cases step with
  | @recalled i id here known =>
    have ended : Ended events c.cache i (.ok id) := Untouched.ended (h.account here) known
    apply h.stay rfl (by simp [here])
    · exact ended.append (Event.ne_finish rfl i) fun _ same => same
    · rw [here]
      rfl
  | @missed i here unknown =>
    have untouched : Untouched events i := h.account here
    apply h.stay rfl (by simp [here])
    · exact untouched.append (Event.ne_finish rfl i)
    · rw [here]
      rfl
  | @locked i here free =>
    have untouched : Untouched events i := h.account here
    apply h.quiet rfl (by simp [here])
    · exact untouched.append (Event.ne_finish rfl i)
    · exact inside_take h.inside free rfl
  | @found i id here known =>
    have ended : Ended events c.cache i (.ok id) := Untouched.ended (h.account here) known
    apply h.stay rfl (by simp [here])
    · exact ended.append (Event.ne_finish rfl i) fun _ same => same
    · rw [here]
      rfl
  | @lacking i here unknown =>
    have untouched : Untouched events i := h.account here
    apply h.stay rfl (by simp [here])
    · refine ⟨untouched.append (Event.ne_finish rfl i), ?_⟩
      rw [found_append_of_none rfl]
      exact h.nothing_found here unknown
    · rw [here]
      rfl
  | @started i here =>
    obtain ⟨untouched, nothing⟩ := h.account here
    apply h.stay rfl (by simp [here])
    · refine ⟨untouched.append (Event.ne_finish rfl i), ?_⟩
      rwa [found_append_of_none rfl]
    · rw [here]
      rfl
  | @finished i here answer =>
    cases outcome : ofAnswer answer with
    | error e => exact h.failed here outcome
    | ok id => exact h.succeeded here outcome
  | remembered here => exact h.remembered here
  | @unlocked i result here =>
    have ended : Ended events c.cache i result := h.account here
    apply h.quiet rfl (by simp [here])
    · exact ended.append (Event.ne_finish rfl i) fun _ same => same
    · exact inside_give h.inside ((h.inside i).1 (by rw [here]; rfl)) rfl

end Course

namespace Pool

variable [DecidableEq ι] {events : List (Event ι)} {pool : Pool ι}

/-- Every pool that is reached is one of calls in phases. -/
theorem Reaches.sound (h : Reaches events pool) :
    ∃ c : Course ι, pool = c.pool ∧ c.Sound events := by
  induction h with
  | start => exact ⟨.initial, rfl, Course.sound_initial⟩
  | step before own ih =>
    obtain ⟨c, rfl, sound⟩ := ih
    obtain ⟨d, move, rfl⟩ := Course.move_of_step own
    exact ⟨d, rfl, sound.move move⟩

/-- No look-up starts after an id was found. -/
theorem Reaches.not_start (h : Reaches events pool) {before after : List (Event ι)}
    (split : events = before ++ after) (some : found before ≠ []) (i : ι) :
    .start i ∉ after := by
  induction h generalizing after with
  | start =>
    obtain ⟨-, rfl⟩ := List.append_eq_nil_iff.1 split.symm
    exact List.not_mem_nil
  | @step events event pool next reached own ih =>
    rcases List.eq_nil_or_concat after with rfl | ⟨front, last, rfl⟩
    · exact List.not_mem_nil
    · rw [List.concat_eq_append, ← List.append_assoc] at split
      obtain ⟨rfl, ends⟩ := List.append_inj' split rfl
      rw [List.concat_eq_append, List.mem_append, List.mem_singleton]
      rintro (member | rfl)
      · exact ih rfl member
      · -- A call starts a look-up only while nothing was found.
        obtain rfl := List.singleton_inj.1 ends
        obtain ⟨c, rfl, sound⟩ := reached.sound
        obtain ⟨d, move, -⟩ := Course.move_of_step own
        cases move with
        | started here =>
          have nothing := (sound.account here).2
          rw [found_append] at nothing
          exact some (List.append_eq_nil_iff.1 nothing).1

/-- What is true of calls for the machine's own id after some steps. -/
structure Memoized (events : List (Event ι)) (pool : Pool ι) : Prop where
  /-- One look-up at most is in flight. -/
  exclusive : ∀ i j, pool.LooksUp i → pool.LooksUp j → i = j
  /-- No look-up starts after one found an id. -/
  once : ∀ before after, events = before ++ after → found before ≠ [] → ∀ i, .start i ∉ after
  /-- All calls that succeed give the one id that was found, and it is not empty. -/
  agreed : ∀ i id, pool.Returned i (.ok id) → found events = [id] ∧ id.text ≠ ""
  /-- Nothing but the id that was found is remembered. -/
  cached : ∀ id, pool.cache = some id → found events = [id]
  /-- A call fails for its own look-up only, which failed or gave blanks. -/
  blamed : ∀ i e, pool.Returned i (.error e) → ∃ answer, .finish i answer ∈ events ∧
    (Event.finish i answer).found = none ∧ ofAnswer answer = .error e
  /-- A call that looked up gives what its look-up says. -/
  own : ∀ i answer result, .finish i answer ∈ events → pool.Returned i result →
    result = ofAnswer answer
  /-- A look-up that finds no id leaves nothing remembered and the other calls as they are; its own
  call gives the lock back and fails. -/
  alone : ∀ i answer next, (Event.finish i answer).found = none →
    pool.step (.finish i answer) = some next → next.cache = none ∧
      (∀ j, j ≠ i → next.call j = pool.call j) ∧
      ∃ e, ofAnswer answer = .error e ∧ next.call i = .ready (leave (.error e))

/-- **The machine's own id is looked up once.**  However many calls run at the same time, in
whatever order they make their steps and whatever their look-ups answer. -/
theorem memoized_of_reaches (h : Reaches events pool) : Memoized events pool := by
  obtain ⟨c, rfl, sound⟩ := h.sound
  have ended {i : ι} {result : ProviderResult ResourceId} (there : c.pool.Returned i result) :
      Ended events c.cache i result := sound.account (Phase.eq_returned there)
  refine ⟨?_, fun before after => h.not_start, ?_, fun id same => (sound.cached id same).1, ?_, ?_,
    ?_⟩
  · rintro i j ⟨_, hi⟩ ⟨_, hj⟩
    exact sound.unique (by rw [Phase.eq_lookingUp hi]; rfl) (by rw [Phase.eq_lookingUp hj]; rfl)
  · intro i id returned
    exact sound.cached id ((ended returned).known id rfl)
  · intro i e returned
    obtain ⟨answer, member⟩ := (ended returned).blamed e rfl
    have outcome := (ended returned).own answer member
    exact ⟨answer, member, found_finish_of_error outcome i, outcome⟩
  · intro i answer result member returned
    exact ((ended returned).own answer member).symm
  · intro i answer next none step
    obtain ⟨d, move, rfl⟩ := Course.move_of_step step
    cases move with
    | finished here =>
      refine ⟨?_, ?_, ?_⟩
      · cases known : c.cache with
        | none => exact known
        | some id =>
          have nothing := (sound.account here).2
          rw [(sound.cached id known).1] at nothing
          cases nothing
      · intro j apart
        exact congrArg Phase.activity (Course.phase_enter_of_ne c apart _)
      · cases outcome : ofAnswer answer with
        | error e => exact ⟨e, rfl, congrArg Phase.activity (Course.phase_enter_self c i _)⟩
        | ok id =>
          rw [(found_finish_of_ok outcome i).1] at none
          cases none

/-- A look-up fails, the next one finds an id, and a call that waited and a late one give it. -/
def mixed : List (Event Nat) :=
  [.read 0, .read 1, .read 2, .lock 1, .read 1, .start 1, .finish 1 (.error (.transport "refused")),
    .unlock 1, .lock 0, .read 0, .start 0, .finish 0 (.ok " i-1\n"), .remember 0 ⟨"i-1"⟩,
    .unlock 0, .lock 2, .read 2, .unlock 2, .read 3]

theorem memoized_mixed : ∃ pool, Reaches mixed pool ∧
    pool.Returned 1 (.error (.transport "refused")) ∧ pool.Returned 3 (.ok ⟨"i-1"⟩) ∧
    Memoized mixed pool := by
  have reached : ∃ pool, Reaches mixed pool ∧
      pool.Returned 1 (.error (.transport "refused")) ∧ pool.Returned 3 (.ok ⟨"i-1"⟩) :=
    ⟨_, Reaches.start.steps rfl, rfl, rfl⟩
  obtain ⟨pool, h, failed, late⟩ := reached
  exact ⟨pool, h, failed, late, memoized_of_reaches h⟩

end Pool

end CloudLifecycle.Self
