import CloudLifecycle.Proofs.Dict.Bindings
import CloudLifecycle.Url.Query
import Mathlib.Logic.Function.Basic

/-!
# Look-ups in query parameters

What setting an optional parameter or a numbered list of parameters does to the value of each
parameter.  Decimal numerals are injective, so of a numbered list each parameter keeps its own
value (`Query.find?_numbered`, `Query.find?_indexed`), and no parameter outside the list changes.
-/

set_option autoImplicit false

namespace CloudLifecycle

/-- Different numbers are written differently. -/
theorem repr_injective : Function.Injective Nat.repr := by
  intro i j h
  have digits : Nat.toDigits 10 i = Nat.toDigits 10 j := by
    rw [← Nat.toList_repr, ← Nat.toList_repr, h]
  have values := congrArg (fun ds => Nat.ofDigitChars 10 ds 0) digits
  simpa using values

/-- A text that starts differently does not begin with the other. -/
theorem append_eq_iff_false {start key : String} (h : start.toList.isPrefixOf key.toList = false)
    (suffix : String) : start ++ suffix = key ↔ False := by
  refine iff_false_intro fun same => ?_
  rw [← same, String.toList_append] at h
  have begins : start.toList <+: start.toList ++ suffix.toList := List.prefix_append _ _
  rw [List.isPrefixOf_iff_prefix.2 begins] at h
  cases h

namespace Query

theorem find?_setOption (q : Query) (key k : String) (value : Option String) :
    (q.setOption key value).find? k = if k = key then value.or (q.find? k) else q.find? k := by
  cases value with
  | none => simp [setOption]
  | some value => simp [setOption]

section SetAll

variable {key : Nat → String}

/-- A list of parameters leaves those that are not in it. -/
theorem find?_setAll_of_ne (q : Query) {k : String} {start : Nat} {values : List String}
    (h : ∀ i < values.length, k ≠ key (start + i)) :
    (q.setAll key start values).find? k = q.find? k := by
  induction values generalizing q start with
  | nil => rfl
  | cons value rest ih =>
    have first : k ≠ key start := h 0 (Nat.succ_pos _)
    rw [setAll, ih, find?_set, if_neg first]
    intro i hi
    have next := h (i + 1) (Nat.succ_lt_succ hi)
    rwa [Nat.add_right_comm]

/-- In a list of parameters each has its own value. -/
theorem find?_setAll (q : Query) (injective : Function.Injective key) (start : Nat)
    (values : List String) (i : Nat) :
    (q.setAll key start values).find? (key (start + i)) =
      values[i]?.or (q.find? (key (start + i))) := by
  induction values generalizing q start i with
  | nil => rfl
  | cons value rest ih =>
    cases i with
    | zero =>
      have later : ∀ i < rest.length, key (start + 0) ≠ key (start + 1 + i) := by
        intro i _ same
        have := injective same
        omega
      rw [setAll, find?_setAll_of_ne _ later]
      simp
    | succ i =>
      have other : key (start + (i + 1)) ≠ key start := by
        intro same
        have := injective same
        omega
      have shift : start + (i + 1) = start + 1 + i := by omega
      rw [setAll, shift, ih, ← shift, find?_set, if_neg other]
      rfl

end SetAll

variable (name : String)

theorem numberedKey_injective : Function.Injective fun i : Nat => name ++ "." ++ i.repr :=
  fun _ _ h => repr_injective ((String.append_right_inj _).1 h)

theorem indexedKey_injective : Function.Injective fun i : Nat => name ++ "[" ++ i.repr ++ "]" :=
  fun _ _ h => repr_injective ((String.append_right_inj _).1 ((String.append_left_inj _).1 h))

/-- The parameters `name.1`, `name.2` and so on are the values of the list. -/
theorem find?_numbered (q : Query) (values : List String) (i : Nat) :
    (q.numbered name values).find? (name ++ "." ++ (1 + i).repr) =
      values[i]?.or (q.find? (name ++ "." ++ (1 + i).repr)) :=
  q.find?_setAll (numberedKey_injective name) 1 values i

/-- The parameters `name[0]`, `name[1]` and so on are the values of the list. -/
theorem find?_indexed (q : Query) (values : List String) (i : Nat) :
    (q.indexed name values).find? (name ++ "[" ++ i.repr ++ "]") =
      values[i]?.or (q.find? (name ++ "[" ++ i.repr ++ "]")) := by
  have found := q.find?_setAll (indexedKey_injective name) 0 values i
  rw [Nat.zero_add] at found
  exact found

theorem find?_numbered_of_ne (q : Query) {values : List String} {k : String}
    (h : ∀ i < values.length, k ≠ name ++ "." ++ (1 + i).repr) :
    (q.numbered name values).find? k = q.find? k :=
  q.find?_setAll_of_ne h

theorem find?_indexed_of_ne (q : Query) {values : List String} {k : String}
    (h : ∀ i < values.length, k ≠ name ++ "[" ++ i.repr ++ "]") :
    (q.indexed name values).find? k = q.find? k :=
  q.find?_setAll_of_ne fun i hi => by simpa only [Nat.zero_add] using h i hi

end Query

end CloudLifecycle
