import CloudLifecycle.Number.Literal
import Mathlib.Data.Nat.Notation

/-!
# Numbers in the middle of a text

A number in a JSON text is followed by nothing, a comma or a closing bracket, and what follows does
not change how it is read (`Numeral.read_append`).  A whole number of 64 bits is read as it was
written (`Numeral.read_repr`).
-/

set_option autoImplicit false

namespace CloudLifecycle

/-- What may follow a value: nothing, a comma or a closing bracket. -/
def Ends (rest : List Char) : Prop :=
  ∀ c ∈ rest.head?, c = ',' ∨ c = ']' ∨ c = '\x7d'

theorem ends_nil : Ends [] := by
  intro c hc
  cases hc

theorem ends_cons {c : Char} (h : c = ',' ∨ c = ']' ∨ c = '\x7d') (rest : List Char) :
    Ends (c :: rest) := by
  intro other hc
  obtain rfl := Option.some.inj hc
  exact h

namespace Numeral

variable {rest : List Char}

/-- None of the characters of a number follows it. -/
theorem head_ne (h : Ends rest) {c : Char} {more : List Char} (hr : rest = c :: more) :
    c.isDigit = false ∧ c ≠ '.' ∧ c ≠ 'e' ∧ c ≠ 'E' ∧ c ≠ '+' ∧ c ≠ '-' := by
  subst hr
  rcases h c rfl with rfl | rfl | rfl <;> decide

theorem spanDigits_append (h : Ends rest) (cs : List Char) :
    spanDigits (cs ++ rest) = ((spanDigits cs).1, (spanDigits cs).2 ++ rest) := by
  unfold spanDigits
  induction cs with
  | nil =>
    cases rest with
    | nil => rfl
    | cons c more =>
      have other := (head_ne h rfl).1
      simp [other]
  | cons c cs ih =>
    obtain ⟨taken, left⟩ := Prod.mk.inj ih
    rw [List.cons_append]
    by_cases digit : c.isDigit = true
    · rw [List.takeWhile_cons_of_pos digit, List.dropWhile_cons_of_pos digit,
        List.takeWhile_cons_of_pos digit, List.dropWhile_cons_of_pos digit, taken, left]
    · rw [List.takeWhile_cons_of_neg digit, List.dropWhile_cons_of_neg digit,
        List.takeWhile_cons_of_neg digit, List.dropWhile_cons_of_neg digit, List.cons_append]

/-- A result with what is left of the text. -/
def leaving {α : Type} (rest : List Char) (result : Option (α × List Char)) :
    Option (α × List Char) :=
  result.map fun (a, left) => (a, left ++ rest)

theorem leaving_pair {α : Type} (result : Option α) (left : List Char) :
    leaving rest (result.map (·, left)) = result.map (·, left ++ rest) := by
  cases result <;> rfl

theorem wholeDigits_append (h : Ends rest) (cs : List Char) :
    wholeDigits (cs ++ rest) = leaving rest (wholeDigits cs) := by
  unfold wholeDigits
  rw [spanDigits_append h]
  rcases spanDigits cs with ⟨digits, left⟩
  rcases digits with _ | ⟨c, _ | ⟨d, digits⟩⟩
  · rfl
  · by_cases zero : c = '0'
    · subst zero
      rfl
    · simp [zero, leaving]
  · by_cases zero : c = '0'
    · subst zero
      rfl
    · simp [zero, leaving]

/-- What is read after the letter and the sign of an exponent. -/
def readPower (negative : Bool) (significand : Nat) (start : Int) (down : Bool) (cs : List Char) :
    Option (Double × List Char) :=
  let (digits, left) := spanDigits cs
  if digits.isEmpty then none
  else
    let exponent := digits.foldl (fun n c => n * 10 + digitValue c) 0
    if exponent ≤ maxExponent then
      (realOf negative significand (if down then start - exponent else start + exponent)).map
        (·, left)
    else if significand ≠ 0 && !down then none
    else some (.finite negative 0, left)

section Exponent

variable (negative : Bool) (significand : Nat) (start : Int)

theorem readPower_append (h : Ends rest) (down : Bool) (cs : List Char) :
    readPower negative significand start down (cs ++ rest) =
      leaving rest (readPower negative significand start down cs) := by
  unfold readPower
  rw [spanDigits_append h]
  dsimp only
  split
  · rfl
  · split
    · rw [leaving_pair]
    · split <;> rfl

theorem readExponent_unsigned {cs : List Char} (plus : ∀ more, cs ≠ '+' :: more)
    (minus : ∀ more, cs ≠ '-' :: more) :
    readExponent negative significand start cs =
      readPower negative significand start false cs := by
  unfold readExponent
  split
  rename_i same
  split at same
  · exact absurd rfl (plus _)
  · exact absurd rfl (minus _)
  · obtain ⟨rfl, rfl⟩ := Prod.mk.inj same
    rfl

theorem readExponent_append (h : Ends rest) (cs : List Char) :
    readExponent negative significand start (cs ++ rest) =
      leaving rest (readExponent negative significand start cs) := by
  cases cs with
  | nil =>
    have unsigned (c : Char) (sign : c = '+' ∨ c = '-') (more : List Char) : rest ≠ c :: more := by
      intro hr
      obtain ⟨-, -, -, -, plus, minus⟩ := head_ne h hr
      rcases sign with sign | sign <;> contradiction
    rw [List.nil_append, readExponent_unsigned _ _ _ (unsigned '+' (.inl rfl))
      (unsigned '-' (.inr rfl)), readExponent_unsigned _ _ _ (by simp) (by simp)]
    exact readPower_append negative significand start h false []
  | cons c cs =>
    rw [List.cons_append]
    by_cases plus : c = '+'
    · subst plus
      exact readPower_append negative significand start h false cs
    · by_cases minus : c = '-'
      · subst minus
        exact readPower_append negative significand start h true cs
      · rw [readExponent_unsigned _ _ _ (by simp [plus]) (by simp [minus]),
          readExponent_unsigned _ _ _ (by simp [plus]) (by simp [minus])]
        exact readPower_append negative significand start h false (c :: cs)

theorem readScale_plain {cs : List Char} (he : ∀ more, cs ≠ 'e' :: more)
    (hE : ∀ more, cs ≠ 'E' :: more) :
    readScale negative significand start cs = (realOf negative significand start).map (·, cs) := by
  unfold readScale
  split
  · exact absurd rfl (he _)
  · exact absurd rfl (hE _)
  · rfl

theorem readScale_append (h : Ends rest) (cs : List Char) :
    readScale negative significand start (cs ++ rest) =
      leaving rest (readScale negative significand start cs) := by
  cases cs with
  | nil =>
    have plain (c : Char) (letter : c = 'e' ∨ c = 'E') (more : List Char) : rest ≠ c :: more := by
      intro hr
      obtain ⟨-, -, he, hE, -, -⟩ := head_ne h hr
      rcases letter with letter | letter <;> contradiction
    rw [List.nil_append, readScale_plain _ _ _ (plain 'e' (.inl rfl)) (plain 'E' (.inr rfl)),
      readScale_plain _ _ _ (by simp) (by simp), leaving_pair, List.nil_append]
  | cons c cs =>
    rw [List.cons_append]
    by_cases he : c = 'e'
    · subst he
      exact readExponent_append negative significand start h cs
    · by_cases hE : c = 'E'
      · subst hE
        exact readExponent_append negative significand start h cs
      · rw [readScale_plain _ _ _ (by simp [he]) (by simp [hE]),
          readScale_plain _ _ _ (by simp [he]) (by simp [hE]), leaving_pair, List.cons_append]

theorem readFraction_append (h : Ends rest) (cs : List Char) :
    readFraction negative significand start (cs ++ rest) =
      leaving rest (readFraction negative significand start cs) := by
  unfold readFraction
  rw [spanDigits_append h]
  dsimp only
  split
  · rfl
  · exact readScale_append _ _ _ h _

end Exponent

/-- The number of a double that was read. -/
def asReal (found : Option (Double × List Char)) : Option (Numeral × List Char) := do
  let (value, left) ← found
  pure (.real value, left)

theorem leaving_asReal (found : Option (Double × List Char)) :
    leaving rest (asReal found) = asReal (leaving rest found) := by
  cases found <;> rfl

section Unsigned

variable (negative : Bool)

/-- What is read after the digits of a number without a point. -/
def readPlain (significand : Nat) (unused left : List Char) : Option (Numeral × List Char) :=
  if left.head? = some 'e' || left.head? = some 'E' || !unused.isEmpty then
    asReal (readScale negative significand unused.length left)
  else if !negative then pure (.whole significand, left)
  else if significand = 0 then pure (.real (.finite true 0), left)
  else if significand ≤ 0x8000000000000000 then pure (.whole (-(significand : Int)), left)
  else pure (.real (Double.ofNat significand).neg, left)

theorem readPlain_append (h : Ends rest) (significand : Nat) (unused left : List Char) :
    readPlain negative significand unused (left ++ rest) =
      leaving rest (readPlain negative significand unused left) := by
  have letter (c : Char) (hc : c = 'e' ∨ c = 'E') :
      (left ++ rest).head? = some c ↔ left.head? = some c := by
    cases left with
    | nil =>
      refine iff_of_false (fun hr => ?_) (by simp)
      cases rest with
      | nil => cases hr
      | cons d more =>
        obtain rfl := Option.some.inj hr
        obtain ⟨-, -, he, hE, -, -⟩ := head_ne h rfl
        rcases hc with hc | hc <;> contradiction
    | cons d left => rfl
  unfold readPlain
  simp only [letter 'e' (.inl rfl), letter 'E' (.inr rfl)]
  split
  · rw [readScale_append _ _ _ h, leaving_asReal]
  · split
    · rfl
    · split
      · rfl
      · split <;> rfl

/-- What is read after the digits before the point. -/
def readAfter (digits left : List Char) : Option (Numeral × List Char) :=
  match left with
  | '.' :: after => asReal (readFraction negative (accumulate 0 digits).1
      ((accumulate 0 digits).2.length : Int) after)
  | _ => readPlain negative (accumulate 0 digits).1 (accumulate 0 digits).2 left

theorem readAfter_of_ne (digits : List Char) {left : List Char} (h : ∀ after, left ≠ '.' :: after) :
    readAfter negative digits left =
      readPlain negative (accumulate 0 digits).1 (accumulate 0 digits).2 left := by
  unfold readAfter
  split
  · exact absurd rfl (h _)
  · rfl

theorem readUnsigned_eq (cs : List Char) : readUnsigned negative cs =
    (wholeDigits cs).bind fun (digits, left) => readAfter negative digits left := rfl

theorem readAfter_append (h : Ends rest) (digits left : List Char) :
    readAfter negative digits (left ++ rest) = leaving rest (readAfter negative digits left) := by
  cases left with
  | nil =>
    have pointless (after : List Char) : rest ≠ '.' :: after := by
      intro hr
      exact (head_ne h hr).2.1 rfl
    rw [List.nil_append, readAfter_of_ne _ _ pointless, readAfter_of_ne _ _ (by simp)]
    exact readPlain_append negative h _ _ []
  | cons c left =>
    rw [List.cons_append]
    by_cases point : c = '.'
    · subst point
      show asReal (readFraction _ _ _ (left ++ rest)) = leaving rest (asReal _)
      rw [readFraction_append _ _ _ h, leaving_asReal]
    · rw [readAfter_of_ne _ _ (by simp [point]), readAfter_of_ne _ _ (by simp [point])]
      exact readPlain_append negative h _ _ (c :: left)

theorem readUnsigned_append (h : Ends rest) (cs : List Char) :
    readUnsigned negative (cs ++ rest) = leaving rest (readUnsigned negative cs) := by
  rw [readUnsigned_eq, readUnsigned_eq, wholeDigits_append h]
  rcases wholeDigits cs with _ | ⟨digits, left⟩
  · rfl
  · exact readAfter_append negative h digits left

end Unsigned

theorem read_eq_of_ne {cs : List Char} (h : ∀ more, cs ≠ '-' :: more) :
    read cs = readUnsigned false cs := by
  unfold read
  split
  · exact absurd rfl (h _)
  · rfl

/-- **What follows a number does not change how it is read.** -/
theorem read_append (h : Ends rest) (cs : List Char) :
    read (cs ++ rest) = leaving rest (read cs) := by
  cases cs with
  | nil =>
    have unsigned (more : List Char) : rest ≠ '-' :: more := by
      intro hr
      exact (head_ne h hr).2.2.2.2.2 rfl
    rw [List.nil_append, read_eq_of_ne unsigned, read_eq_of_ne (by simp)]
    exact readUnsigned_append false h []
  | cons c cs =>
    rw [List.cons_append]
    by_cases minus : c = '-'
    · subst minus
      exact readUnsigned_append true h cs
    · rw [read_eq_of_ne (by simp [minus]), read_eq_of_ne (by simp [minus])]
      exact readUnsigned_append false h (c :: cs)

/-- A number starts with a digit or its sign. -/
theorem head_of_read {cs left : List Char} {n : Numeral} (h : read cs = some (n, left)) :
    ∃ c more, cs = c :: more ∧ ∀ d : Char, d ≠ '-' → d.isDigit = false → c ≠ d := by
  cases cs with
  | nil => cases h
  | cons c cs =>
    refine ⟨c, cs, rfl, ?_⟩
    rintro d minus digit rfl
    have none : wholeDigits (c :: cs) = none := by
      unfold wholeDigits spanDigits
      rw [List.takeWhile_cons_of_neg (by simp [digit])]
    rw [read_eq_of_ne (by simp [minus]), readUnsigned_eq, none] at h
    cases h

/-! ## Whole numbers -/

/-- The digits of a positive number do not start with zero. -/
theorem head_toDigits {n : Nat} (h : 0 < n) :
    ∃ c more, Nat.toDigits 10 n = c :: more ∧ c ≠ '0' := by
  induction n using Nat.strongRecOn with
  | ind n ih =>
    by_cases small : n < 10
    · refine ⟨n.digitChar, [], Nat.toDigits_of_lt_base small, ?_⟩
      have all : ∀ d : Fin 10, 0 < d.val → d.val.digitChar ≠ '0' := by decide
      exact all ⟨n, small⟩ h
    · obtain ⟨c, more, front, hc⟩ := ih (n / 10) (by omega) (by omega)
      rw [Nat.toDigits_of_base_le (by decide) (by omega), front]
      exact ⟨c, _, rfl, hc⟩

theorem spanDigits_toDigits (n : Nat) :
    spanDigits (Nat.toDigits 10 n) = (Nat.toDigits 10 n, []) := by
  have digits : ∀ c ∈ Nat.toDigits 10 n, c.isDigit = true := fun c hc =>
    Nat.isDigit_of_mem_toDigits (by decide) (by decide) hc
  unfold spanDigits
  have taken : (Nat.toDigits 10 n ++ []).takeWhile Char.isDigit =
      Nat.toDigits 10 n ++ [].takeWhile Char.isDigit := List.takeWhile_append_of_pos digits
  have left : (Nat.toDigits 10 n ++ []).dropWhile Char.isDigit = [].dropWhile Char.isDigit :=
    List.dropWhile_append_of_pos digits
  rw [List.append_nil] at taken left
  rw [taken, left]
  simp

theorem wholeDigits_toDigits (n : Nat) :
    wholeDigits (Nat.toDigits 10 n) = some (Nat.toDigits 10 n, []) := by
  unfold wholeDigits
  rw [spanDigits_toDigits]
  by_cases zero : n = 0
  · subst zero
    rfl
  · obtain ⟨c, more, same, hc⟩ := head_toDigits (Nat.pos_of_ne_zero zero)
    rw [same]
    split <;> simp_all

/-- Digits that together fit a word are all taken in. -/
theorem accumulate_eq (digits : List Char) (start : Nat)
    (fits : digits.foldl (fun n c => n * 10 + digitValue c) start ≤ maxWord) :
    accumulate start digits = (digits.foldl (fun n c => n * 10 + digitValue c) start, []) := by
  have grows (digits : List Char) (start : Nat) :
      start ≤ digits.foldl (fun n c => n * 10 + digitValue c) start := by
    induction digits generalizing start with
    | nil => exact Nat.le_refl _
    | cons c digits ih =>
      have next : start ≤ start * 10 + digitValue c := by omega
      exact Nat.le_trans next (ih _)
  induction digits generalizing start with
  | nil => rfl
  | cons c digits ih =>
    have next : start * 10 + digitValue c ≤ maxWord := Nat.le_trans (grows digits _) fits
    unfold accumulate
    rw [if_pos next, ih _ fits, List.foldl_cons]

theorem accumulate_toDigits {n : Nat} (h : n ≤ maxWord) :
    accumulate 0 (Nat.toDigits 10 n) = (n, []) := by
  have value : (Nat.toDigits 10 n).foldl (fun n c => n * 10 + digitValue c) 0 = n := by
    refine Eq.trans ?_ (Nat.ofDigitChars_ten_toDigits (n := n))
    unfold Nat.ofDigitChars
    congr 1
    funext n c
    rw [Nat.mul_comm]
    rfl
  rw [accumulate_eq _ _ (by rw [value]; exact h), value]

/-- The whole numbers of a signed or an unsigned word. -/
def IsWord (i : Int) : Prop := -0x8000000000000000 ≤ i ∧ i ≤ 0xFFFFFFFFFFFFFFFF

instance (i : Int) : Decidable (IsWord i) := inferInstanceAs (Decidable (_ ∧ _))

theorem readUnsigned_toDigits {n : Nat} (h : n ≤ maxWord) (negative : Bool) :
    readUnsigned negative (Nat.toDigits 10 n) = readPlain negative n [] [] := by
  rw [readUnsigned_eq, wholeDigits_toDigits]
  show readAfter negative _ [] = _
  rw [readAfter_of_ne _ _ (by simp), accumulate_toDigits h]

/-- **A whole number is read as it was written.** -/
theorem read_repr {i : Int} (h : IsWord i) : read i.repr.toList = some (.whole i, []) := by
  obtain ⟨low, high⟩ := h
  cases i with
  | ofNat n =>
    have fits : n ≤ maxWord := Int.ofNat_le.1 high
    have unsigned (more : List Char) : Nat.toDigits 10 n ≠ '-' :: more := by
      intro same
      have digit : '-'.isDigit = true := Nat.isDigit_of_mem_toDigits (b := 10) (n := n)
        (by decide) (by decide) (by rw [same]; exact List.mem_cons_self)
      exact absurd digit (by decide)
    show read n.repr.toList = _
    rw [Nat.toList_repr, read_eq_of_ne unsigned, readUnsigned_toDigits fits]
    rfl
  | negSucc n =>
    have small : n + 1 ≤ 0x8000000000000000 := by omega
    have fits : n + 1 ≤ maxWord := by
      unfold maxWord
      omega
    have text : (Int.negSucc n).repr.toList = '-' :: Nat.toDigits 10 (n + 1) := by
      show ("-" ++ (n + 1).repr).toList = _
      rw [String.toList_append, Nat.toList_repr]
      rfl
    rw [text]
    show readUnsigned true _ = _
    rw [readUnsigned_toDigits fits]
    unfold readPlain
    simp [small, Int.negSucc_eq]

end Numeral

end CloudLifecycle
