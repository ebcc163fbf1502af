import CloudLifecycle.Json.Decoder
import CloudLifecycle.Json.Printer
import CloudLifecycle.Proofs.Json.Order
import CloudLifecycle.Proofs.Number.Literal

/-!
# The text of a value is read as the value

A value is written without blanks, and reading takes its text up to where the value ends
(`Tree.readValue_render`).  Texts are escaped character by character and nesting is followed by an
induction on the value; the fuel of the reader counts the characters that are left.  A number is
legible if its own text is read as it, which all whole numbers of 64 bits are; a value is legible if
its numbers are, and then its text is read as it (`Tree.parse_render`).
-/

set_option autoImplicit false

namespace CloudLifecycle

namespace Json

mutual

/-- The texts of the numbers in the value are read as these numbers. -/
def Legible : Json → Prop
  | .whole i => Numeral.IsWord i
  | .real d => d.isFinite ∧ Numeral.read d.text.toList = some (.real d, [])
  | .list items => LegibleItems items
  | .object fields => LegibleFields fields
  | .null | .bool _ | .text _ => True

def LegibleItems : List Json → Prop
  | [] => True
  | item :: items => item.Legible ∧ LegibleItems items

def LegibleFields : List (String × Json) → Prop
  | [] => True
  | (_, value) :: fields => value.Legible ∧ LegibleFields fields

end

theorem legibleItems_iff {items : List Json} :
    LegibleItems items ↔ ∀ item ∈ items, item.Legible := by
  induction items with
  | nil => simp [LegibleItems]
  | cons item items ih => simp [LegibleItems, ih]

end Json

namespace Tree

/-! ## Texts -/

theorem skipBlanks_of_not_blank {c : Char} (h : isBlank c = false) (rest : List Char) :
    skipBlanks (c :: rest) = c :: rest := by
  simp [skipBlanks, h]

theorem hexValue?_lowerHexDigit {n : Nat} (h : n < 16) :
    Text.hexValue? (Json.lowerHexDigit n) = some n := by
  have all : ∀ n : Fin 16, Text.hexValue? (Json.lowerHexDigit n) = some n.val := by decide
  exact all ⟨n, h⟩

/-- An escape with digits is read as its character. -/
theorem readEscape_control {c : Char} (h : c.toNat < 0x20) (rest : List Char) :
    readEscape ('u' :: '0' :: '0' :: Json.lowerHexDigit (c.toNat / 16)
      :: Json.lowerHexDigit (c.toNat % 16) :: rest) = some (c, rest) := by
  have high := hexValue?_lowerHexDigit (n := c.toNat / 16) (by omega)
  have low := hexValue?_lowerHexDigit (n := c.toNat % 16) (by omega)
  have zero : Text.hexValue? '0' = some 0 := by decide
  have value : ((0 * 16 + 0) * 16 + c.toNat / 16) * 16 + c.toNat % 16 = c.toNat := by omega
  have hex : readHex ('0' :: '0' :: Json.lowerHexDigit (c.toNat / 16)
      :: Json.lowerHexDigit (c.toNat % 16) :: rest) = some (c.toNat, rest) := by
    simp only [readHex, zero, high, low, Option.bind_eq_bind, Option.bind_some, value]
    rfl
  show readUnicode _ = _
  unfold readUnicode
  rw [hex]
  show (if _ then _ else _) = _
  rw [if_neg (by omega), if_neg (by omega), Char.ofNat_toNat]
  rfl

/-- A character of a text is read back, whether it is escaped or not. -/
theorem readChars_escapeChar (c : Char) (fuel : Nat) (rest acc : List Char) :
    readChars (fuel + 1) (Json.escapeChar c ++ rest) acc = readChars fuel rest (c :: acc) := by
  unfold Json.escapeChar
  split
  · rename_i quote
    subst quote
    rfl
  rename_i unquoted
  split
  · rename_i backslash
    subst backslash
    rfl
  rename_i plain
  split
  · rename_i visible
    rw [List.cons_append, List.nil_append, readChars, if_neg unquoted, if_neg plain,
      if_neg (by omega)]
  rename_i control
  have self : Char.ofNat c.toNat = c := Char.ofNat_toNat c
  split
  · rename_i value
    rw [value] at self
    subst self
    rfl
  split
  · rename_i tab
    subst tab
    rfl
  split
  · rename_i newline
    subst newline
    rfl
  split
  · rename_i value
    rw [value] at self
    subst self
    rfl
  split
  · rename_i carriage
    subst carriage
    rfl
  · have escaped := readEscape_control (c := c) (by omega) rest
    simp only [List.cons_append, List.nil_append, readChars, escaped]
    rfl

theorem readChars_text (cs : List Char) {fuel : Nat} (h : cs.length < fuel) (rest acc : List Char) :
    readChars fuel (cs.flatMap Json.escapeChar ++ '"' :: rest) acc =
      some (acc.reverse ++ cs, rest) := by
  induction cs generalizing fuel acc with
  | nil =>
    obtain ⟨fuel, rfl⟩ := Nat.exists_eq_succ_of_ne_zero (Nat.ne_of_gt h)
    simp [readChars]
  | cons c cs ih =>
    obtain ⟨fuel, rfl⟩ := Nat.exists_eq_succ_of_ne_zero (Nat.ne_of_gt (Nat.zero_lt_of_lt h))
    rw [List.flatMap_cons, List.append_assoc, readChars_escapeChar,
      ih (Nat.lt_of_succ_lt_succ h), List.reverse_cons, List.append_assoc]
    rfl

theorem length_escapeChar_pos (c : Char) : 0 < (Json.escapeChar c).length := by
  unfold Json.escapeChar
  (repeat' split) <;> simp

/-- A text between quotes is read back. -/
theorem takeText_render (s : String) (rest : List Char) :
    takeText (s.toList.flatMap Json.escapeChar ++ '"' :: rest) = some (some s, rest) := by
  have longer (cs : List Char) : cs.length ≤ (cs.flatMap Json.escapeChar).length := by
    induction cs with
    | nil => exact Nat.le_refl _
    | cons c cs ih =>
      have pos := length_escapeChar_pos c
      rw [List.flatMap_cons, List.length_append, List.length_cons]
      omega
  have fits : s.toList.length < (s.toList.flatMap Json.escapeChar ++ '"' :: rest).length + 1 := by
    have := longer s.toList
    rw [List.length_append]
    omega
  unfold takeText readText
  rw [readChars_text _ fits]
  simp

/-! ## Values -/

/-- The tree of a number. -/
def ofNumeral : Numeral → Tree
  | .whole i => .whole i
  | .real d => .real d

/-- A number starts with a character that is no blank and begins no other value. -/
theorem head_of_numeral {cs left : List Char} {n : Numeral}
    (h : Numeral.read cs = some (n, left)) :
    ∃ c more, cs = c :: more ∧ isBlank c = false ∧
      c ∉ ['"', '[', ']', '\x7b', 'n', 't', 'f'] := by
  obtain ⟨c, more, rfl, other⟩ := Numeral.head_of_read h
  have solid : isBlank c = false := by
    have space := other ' ' (by decide) (by decide)
    have newline := other '\n' (by decide) (by decide)
    have tab := other '\t' (by decide) (by decide)
    have carriage := other '\r' (by decide) (by decide)
    simp [isBlank, space, newline, tab, carriage]
  refine ⟨c, more, rfl, solid, fun member => ?_⟩
  have others : ∀ d ∈ ['"', '[', ']', '\x7b', 'n', 't', 'f'], d ≠ '-' ∧ d.isDigit = false := by
    simp [Char.isDigit]
  exact other c (others c member).1 (others c member).2 rfl

theorem readValue_numeral {cs left : List Char} {n : Numeral}
    (h : Numeral.read cs = some (n, left)) (fuel : Nat) :
    readValue (fuel + 1) cs = (ofNumeral n, some left) := by
  obtain ⟨c, more, rfl, solid, other⟩ := head_of_numeral h
  simp only [List.mem_cons, List.not_mem_nil, not_or] at other
  unfold readValue
  rw [skipBlanks_of_not_blank solid]
  simp only [other, if_false, h]
  cases n <;> rfl

theorem readValue_text (s : String) (fuel : Nat) (rest : List Char) :
    readValue (fuel + 1) (Json.renderText s ++ rest) = (.text s, some rest) := by
  have text : Json.renderText s ++ rest =
      '"' :: (s.toList.flatMap Json.escapeChar ++ '"' :: rest) := by
    simp [Json.renderText]
  rw [text]
  unfold readValue
  rw [skipBlanks_of_not_blank (by decide)]
  dsimp only
  rw [if_pos rfl, takeText_render]

/-- A legible number is read as it, whatever follows. -/
theorem read_real {d : Double} (h : (Json.real d).Legible) {rest : List Char} (ends : Ends rest) :
    Numeral.read (Json.renderChars (.real d) ++ rest) = some (.real d, rest) := by
  have shown : Json.renderChars (.real d) = d.text.toList := by
    rw [Json.renderChars, if_pos h.1]
  rw [shown, Numeral.read_append ends, h.2]
  rfl

theorem read_whole {i : Int} (h : (Json.whole i).Legible) {rest : List Char} (ends : Ends rest) :
    Numeral.read (Json.renderChars (.whole i) ++ rest) = some (.whole i, rest) := by
  have shown : Json.renderChars (.whole i) = i.repr.toList := by
    rw [Json.renderChars]
  rw [shown, Numeral.read_append ends, Numeral.read_repr h]
  rfl

/-- The text of a value starts with a character that is no blank and no closing bracket. -/
theorem head_renderChars {v : Json} (h : v.Legible) :
    ∃ c more, Json.renderChars v = c :: more ∧ isBlank c = false ∧ c ≠ ']' := by
  have numeral {n : Numeral} {left : List Char}
      (hn : Numeral.read (Json.renderChars v ++ []) = some (n, left)) :
      ∃ c more, Json.renderChars v = c :: more ∧ isBlank c = false ∧ c ≠ ']' := by
    rw [List.append_nil] at hn
    obtain ⟨c, more, same, solid, other⟩ := head_of_numeral hn
    exact ⟨c, more, same, solid, fun bracket => other (by simp [bracket])⟩
  cases v with
  | null => exact ⟨'n', _, rfl, by decide, by decide⟩
  | bool b =>
    cases b with
    | true => exact ⟨'t', _, rfl, by decide, by decide⟩
    | false => exact ⟨'f', _, rfl, by decide, by decide⟩
  | whole i => exact numeral (read_whole h ends_nil)
  | real d => exact numeral (read_real h ends_nil)
  | text s => exact ⟨'"', _, rfl, by decide, by decide⟩
  | list items => cases items <;> exact ⟨'[', _, rfl, by decide, by decide⟩
  | object fields => cases fields <;> exact ⟨'\x7b', _, rfl, by decide, by decide⟩

/-- The key of a field is read, and then its value. -/
theorem readFields_key (key : String) (fuel : Nat) (cs : List Char) :
    readFields (fuel + 1) (Json.renderText key ++ ':' :: cs) =
      match (readValue fuel cs).2.map skipBlanks with
      | some (',' :: rest) =>
        ((some key, (readValue fuel cs).1) :: (readFields fuel rest).1, (readFields fuel rest).2)
      | some ('\x7d' :: rest) => ([(some key, (readValue fuel cs).1)], some rest)
      | _ => ([(some key, (readValue fuel cs).1)], none) := by
  have text : Json.renderText key ++ ':' :: cs =
      '"' :: (key.toList.flatMap Json.escapeChar ++ '"' :: ':' :: cs) := by
    simp [Json.renderText]
  rw [text]
  rw [readFields, skipBlanks_of_not_blank (by decide)]
  simp only [takeText_render]
  rw [skipBlanks_of_not_blank (by decide)]
  rfl

theorem ends_renderItems (items : List Json) (rest : List Char) :
    Ends (Json.renderItems items ++ rest) := by
  cases items with
  | nil => exact ends_cons (.inr (.inl rfl)) _
  | cons item items => exact ends_cons (.inl rfl) _

theorem ends_renderFields (fields : List (String × Json)) (rest : List Char) :
    Ends (Json.renderFields fields ++ rest) := by
  cases fields with
  | nil => exact ends_cons (.inr (.inr rfl)) _
  | cons field fields => exact ends_cons (.inl rfl) _

mutual

/-- **The text of a value is read as the value**, up to where it ends. -/
theorem readValue_render : ∀ (v : Json), v.Legible → ∀ (fuel : Nat) (rest : List Char),
    (Json.renderChars v).length ≤ fuel → Ends rest →
      readValue fuel (Json.renderChars v ++ rest) = (v.toTree, some rest)
  | v, legible, 0, _, enough, _ => by
    obtain ⟨c, more, same, -, -⟩ := head_renderChars legible
    rw [same] at enough
    exact absurd enough (Nat.not_succ_le_zero _)
  | .null, _, _ + 1, _, _, _ => rfl
  | .bool true, _, _ + 1, _, _, _ => rfl
  | .bool false, _, _ + 1, _, _, _ => rfl
  | .whole _, legible, fuel + 1, _, _, ends => readValue_numeral (read_whole legible ends) fuel
  | .real _, legible, fuel + 1, _, _, ends => readValue_numeral (read_real legible ends) fuel
  | .text s, _, fuel + 1, rest, _, _ => readValue_text s fuel rest
  | .list [], _, _ + 1, _, _, _ => rfl
  | .list (item :: items), legible, fuel + 1, rest, enough, _ => by
    have text : Json.renderChars (.list (item :: items)) ++ rest =
        '[' :: (Json.renderChars item ++ (Json.renderItems items ++ rest)) := by
      simp [Json.renderChars]
    have fits : (Json.renderChars item ++ Json.renderItems items).length ≤ fuel := by
      rw [Json.renderChars] at enough
      exact Nat.le_of_succ_le_succ enough
    have inner := readItems_render item items legible fuel rest fits
    obtain ⟨c, more, same, solid, open_⟩ := head_renderChars (v := item) legible.1
    rw [same, List.cons_append] at inner
    rw [text, same, List.cons_append]
    unfold readValue
    rw [skipBlanks_of_not_blank (by decide)]
    dsimp only
    rw [if_neg (by decide), if_pos rfl, skipBlanks_of_not_blank solid]
    split
    · rename_i closed
      exact absurd (List.cons.inj closed).1 open_
    · rw [inner]
      rfl
  | .object [], _, _ + 1, _, _, _ => rfl
  | .object ((key, value) :: fields), legible, fuel + 1, rest, enough, _ => by
    have text : Json.renderChars (.object ((key, value) :: fields)) ++ rest =
        '\x7b' :: (Json.renderText key
          ++ ':' :: (Json.renderChars value ++ (Json.renderFields fields ++ rest))) := by
      simp [Json.renderChars]
    have fits : (Json.renderText key
        ++ ':' :: (Json.renderChars value ++ Json.renderFields fields)).length ≤ fuel := by
      rw [Json.renderChars] at enough
      exact Nat.le_of_succ_le_succ enough
    have inner := readFields_render key value fields legible fuel rest fits
    rw [text]
    unfold readValue
    rw [skipBlanks_of_not_blank (by decide)]
    dsimp only
    rw [if_neg (by decide), if_neg (by decide), if_pos rfl]
    rw [Json.renderText, List.cons_append] at inner ⊢
    rw [skipBlanks_of_not_blank (by decide)]
    split
    · rename_i closed
      exact absurd (List.cons.inj closed).1 (by decide)
    · rw [inner]
      rfl

theorem readItems_render : ∀ (item : Json) (items : List Json),
    Json.LegibleItems (item :: items) → ∀ (fuel : Nat) (rest : List Char),
      (Json.renderChars item ++ Json.renderItems items).length ≤ fuel →
        readItems fuel (Json.renderChars item ++ (Json.renderItems items ++ rest)) =
          (Json.toTrees (item :: items), some rest)
  | item, items, legible, 0, _, enough => by
    obtain ⟨c, more, same, -, -⟩ := head_renderChars legible.1
    rw [same] at enough
    exact absurd enough (Nat.not_succ_le_zero _)
  | item, [], legible, fuel + 1, rest, enough => by
    have fits : (Json.renderChars item).length ≤ fuel := by
      rw [Json.renderItems, List.length_append] at enough
      exact Nat.le_of_succ_le_succ enough
    unfold readItems
    rw [readValue_render item legible.1 fuel _ fits (ends_renderItems [] rest)]
    rfl
  | item, next :: items, legible, fuel + 1, rest, enough => by
    have lengths : (Json.renderChars item).length
        + ((Json.renderChars next ++ Json.renderItems items).length + 1) ≤ fuel + 1 := by
      rw [Json.renderItems, List.length_append] at enough
      exact enough
    obtain ⟨c, more, same, -, -⟩ := head_renderChars legible.1
    have pos : 0 < (Json.renderChars item).length := by
      rw [same]
      exact Nat.succ_pos _
    have text : Json.renderItems (next :: items) ++ rest =
        ',' :: (Json.renderChars next ++ (Json.renderItems items ++ rest)) := by
      simp [Json.renderItems]
    have more := readItems_render next items legible.2 fuel rest (by omega)
    unfold readItems
    rw [readValue_render item legible.1 fuel _ (by omega) (ends_renderItems (next :: items) rest),
      text]
    dsimp only [Option.map_some]
    rw [skipBlanks_of_not_blank (by decide)]
    simp only [more]
    rfl

theorem readFields_render : ∀ (key : String) (value : Json) (fields : List (String × Json)),
    Json.LegibleFields ((key, value) :: fields) → ∀ (fuel : Nat) (rest : List Char),
      (Json.renderText key
        ++ ':' :: (Json.renderChars value ++ Json.renderFields fields)).length ≤ fuel →
        readFields fuel (Json.renderText key
          ++ ':' :: (Json.renderChars value ++ (Json.renderFields fields ++ rest))) =
          (Json.toFieldTrees ((key, value) :: fields), some rest)
  | _, _, _, _, 0, _, enough => by
    rw [Json.renderText] at enough
    exact absurd enough (Nat.not_succ_le_zero _)
  | key, value, [], legible, fuel + 1, rest, enough => by
    have fits : (Json.renderChars value).length ≤ fuel := by
      simp only [Json.renderText, List.length_append, List.length_cons] at enough
      omega
    rw [readFields_key, readValue_render value legible.1 fuel _ fits (ends_renderFields [] rest)]
    rfl
  | key, value, (next, other) :: fields, legible, fuel + 1, rest, enough => by
    have fits : (Json.renderChars value).length ≤ fuel ∧ (Json.renderText next
        ++ ':' :: (Json.renderChars other ++ Json.renderFields fields)).length ≤ fuel := by
      rw [Json.renderFields] at enough
      simp only [Json.renderText, List.length_append, List.length_cons] at enough ⊢
      omega
    have text : Json.renderFields ((next, other) :: fields) ++ rest = ',' :: (Json.renderText next
        ++ ':' :: (Json.renderChars other ++ (Json.renderFields fields ++ rest))) := by
      simp [Json.renderFields]
    have more := readFields_render next other fields legible.2 fuel rest fits.2
    have ends := ends_renderFields ((next, other) :: fields) rest
    rw [readFields_key, readValue_render value legible.1 fuel _ fits.1 ends, text]
    dsimp only [Option.map_some]
    rw [skipBlanks_of_not_blank (by decide)]
    simp only [more]
    rfl

end

/-- **The text of a value is read as the value**, with nothing after it. -/
theorem parse_render {v : Json} (h : v.Legible) : parse v.render = (v.toTree, true) := by
  have whole := readValue_render v h (2 * (Json.renderChars v).length + 2) [] (by omega) ends_nil
  rw [List.append_nil] at whole
  unfold parse Json.render
  rw [String.toList_ofList]
  simp only [whole]
  rfl

end Tree

/-- A decoder takes from the text of a value what it takes from the tree of the value. -/
theorem Decoder.fromText_render {α : Type} {v : Json} (h : v.Legible) (d : Decoder α) :
    d.fromText v.render = d (.text Source.maxLevels) v.toTree := by
  unfold Decoder.fromText
  rw [Tree.parse_render h]
  dsimp only
  cases d (.text Source.maxLevels) v.toTree <;> rfl

/-- What is read of the text of a value is its sorted form. -/
theorem Json.parse_render {v : Json} (h : v.Legible) (shallow : v.depth ≤ Source.maxLevels) :
    Json.parse v.render = .ok v.sorted := by
  rw [Json.parse, Decoder.fromText_render h]
  exact Decoder.any_toTree shallow

end CloudLifecycle
