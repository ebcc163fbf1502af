import CloudLifecycle.Proofs.Url.Below

/-!
# Names in a path

A text that is put into the path of a URL may end the path, lead up in it, or lose characters.
None of this happens to a `Literal` one: what of the URL stands before it can be read alone, and
the text extends its path (`Url.exists_extend_of_parse`).  What is escaped there can be read again
(`Url.percentDecode_escape`), so different texts make different paths (`Url.escape_inj`).
-/

set_option autoImplicit false

namespace CloudLifecycle.Url

/-! ## Escaped texts -/

section Escapes

variable {escaped : String} {cs ds : List Char}

/-- What is escaped can be read again, unless the text has the mark of an escape itself. -/
theorem percentDecode_escape (mark : '%' ∉ cs) :
    Text.percentDecode (escape escaped cs).toList = Text.utf8 (String.ofList cs) := by
  have other : ∀ b ∈ Text.utf8 (String.ofList cs), b.toNat < 128 →
      keeping escaped (Char.ofNat b.toNat) → Char.ofNat b.toNat ≠ '%' := by
    intro b hb ascii _ same
    rw [Text.utf8, String.toList_ofList] at hb
    obtain ⟨c, hc, own⟩ := List.mem_flatMap.1 hb
    rw [← Text.eq_of_mem_utf8EncodeChar own ascii] at same
    exact mark (same ▸ hc)
  have read := Text.percentDecode_percentEncodeBytes other []
  rw [List.append_nil, Text.percentDecode, List.append_nil] at read
  rw [escape, String.toList_ofList, read]

/-- Texts without the mark of an escape are told apart when they are escaped. -/
theorem escape_inj (hc : '%' ∉ cs) (hd : '%' ∉ ds) (h : escape escaped cs = escape escaped ds) :
    cs = ds := by
  have decoded : Text.percentDecode (escape escaped cs).toList = Text.utf8 (String.ofList ds) := by
    rw [h, percentDecode_escape hd]
  have bytes := (percentDecode_escape hc).symm.trans decoded
  have read := congrArg Text.decode? bytes
  rw [Text.decode?_utf8, Text.decode?_utf8] at read
  exact String.ofList_inj.1 (Option.some.inj read)

end Escapes

/-! ## Literal texts -/

/-- A character that a path has for itself only, as it is or escaped. -/
def isLiteralChar (c : Char) : Bool := !"\\%?#\t\n\r".toList.contains c

/-- The text stands for itself in a path: each character does, and no segment is one point or
two. -/
structure Literal (cs : List Char) : Prop where
  chars : cs.all isLiteralChar = true
  here : ['.'] ∉ segments true cs
  above : ['.', '.'] ∉ segments true cs

variable {cs ts : List Char}

theorem Literal.not_mem (h : Literal cs) {d : Char} (other : isLiteralChar d = false) : d ∉ cs := by
  intro member
  rw [List.all_eq_true.1 h.chars d member] at other
  cases other

theorem Literal.descends (h : Literal cs) : Descends cs where
  unmarked c hc := by
    cases mark : isMark c with
    | false => rfl
    | true =>
      simp only [isMark, Bool.or_eq_true, decide_eq_true_eq] at mark
      rcases mark with rfl | rfl
      · exact absurd hc (h.not_mem rfl)
      · exact absurd hc (h.not_mem rfl)
  slashed := h.not_mem rfl
  down segment hs := by
    refine stepOf_of_not_mem (fun mark => ?_) ?_ ?_
    · exact h.not_mem (d := '%') rfl (mem_of_mem_segments hs mark).1
    · rintro rfl
      exact h.here hs
    · rintro rfl
      exact h.above hs

theorem Descends.append_slash (hc : Descends cs) (ht : Descends ts) :
    Descends (cs ++ '/' :: ts) where
  unmarked := unmarked_append_iff.2 ⟨hc.unmarked, unmarked_cons_iff.2 ⟨rfl, ht.unmarked⟩⟩
  slashed := by simp [hc.slashed, ht.slashed]
  down := by
    rw [segments_append_slash]
    exact List.forall_mem_append.2 ⟨hc.down, ht.down⟩

theorem Literal.stays_append (h : Literal cs) (stays : Stays ts) (ne : ts ≠ []) :
    Stays (cs ++ ts) where
  tab := by simp [h.not_mem (d := '\t') rfl, stays.tab]
  lineFeed := by simp [h.not_mem (d := '\n') rfl, stays.lineFeed]
  carriageReturn := by simp [h.not_mem (d := '\r') rfl, stays.carriageReturn]
  last := by
    rw [← getLast?_of_suffix (List.suffix_append cs ts) ne]
    exact stays.last

/-! ## What stands before a text -/

section Before

variable {s t : String} {x : Char} {url : Url}

/-- The text ends with this character, which can be seen and is neither a slash nor a colon. -/
structure EndsInside (s : String) (x : Char) : Prop where
  last : s.toList.getLast? = some x
  visible : 0x20 < x.toNat
  inner : isSlash true x = false
  colon : x ≠ ':'

/-- What ends in another character and a slash has both behind each colon. -/
theorem exists_append_of_suffix {rest : List Char} (suffix : ':' :: rest <:+ cs ++ ['/'])
    (last : cs.getLast? = some x) (colon : x ≠ ':') : ∃ front, rest = front ++ [x, '/'] := by
  obtain ⟨before, rfl⟩ := List.getLast?_eq_some_iff.1 last
  obtain ⟨front, whole⟩ := suffix
  rw [List.append_assoc, List.singleton_append] at whole
  rcases List.append_eq_append_iff.1 whole with ⟨inside, -, same⟩ | ⟨inside, -, same⟩
  · cases inside with
    | nil => exact absurd (List.cons.inj same).1.symm colon
    | cons c inside => exact ⟨inside, (List.cons.inj same).2⟩
  · cases inside with
    | nil => exact absurd (List.cons.inj same).1 colon
    | cons c inside =>
      have slash : ['/'] = inside ++ ':' :: rest := (List.cons.inj same).2
      have colon : ':' ∈ ['/'] := slash ▸ List.mem_append_right inside List.mem_cons_self
      exact absurd colon (by decide)

/-- If a URL is read whose host comes before a slash, it is read without what follows the slash,
too. -/
theorem exists_parse_of_append (h : parse (s ++ "/" ++ t) = .ok url)
    (special : isSpecial url.scheme) (web : url.scheme ≠ "file") (inside : EndsInside s x)
    (stays : Stays t.toList) :
    ∃ base, parse (s ++ "/") = .ok base ∧ base.scheme = url.scheme := by
  have slash : (s ++ "/").toList.getLast? = some '/' := by simp [String.toList_append]
  obtain ⟨rest, found, read⟩ :=
    splitScheme_of_parse_append h special web slash (by decide) (by decide) stays
  have word : Words "/".toList := words_of_all rfl
  obtain ⟨whole, ends⟩ :=
    cleaned_append (stays_of_visible word.visible) inside.last inside.visible
  have suffix := (suffix_of_splitScheme found).1
  rw [whole] at suffix
  obtain ⟨front, rfl⟩ := exists_append_of_suffix suffix ends inside.colon
  -- The slashes after the scheme end before `x`, whatever follows it.
  have drop (ts : List Char) : (front ++ [x, '/'] ++ ts).dropWhile (isSlash true) =
      front.dropWhile (isSlash true) ++ [x, '/'] ++ ts := by
    rw [List.append_assoc, List.cons_append, dropWhile_append_cons inside.inner, List.append_assoc]
    rfl
  have begun := drop []
  rw [List.append_nil, List.append_nil] at begun
  rw [drop, ← begun] at read
  have filled : (front ++ [x, '/']).dropWhile (isSlash true) ≠ [] := by
    rw [begun]
    exact List.append_ne_nil_of_right_ne_nil _ (List.cons_ne_nil x ['/'])
  obtain ⟨a, behind, -, -, -, -, more⟩ :=
    finish_of_splitScheme found filled read special web slash (by decide) (by decide)
  have alone := more "" (stays_of_visible nofun)
  rw [String.append_empty] at alone
  exact ⟨_, alone, rfl⟩

/-- **Texts in a path.**  If a URL is read that has an unmarked text and a slash before a text which
leads down, it is the URL of what stands before the text with a longer path. -/
theorem exists_extend_of_parse (h : parse (s ++ "/" ++ t) = .ok url)
    (special : isSpecial url.scheme) (web : url.scheme ≠ "file") (inside : EndsInside s x)
    (unmarked : Unmarked s.toList) (descends : Descends t.toList) (stays : Stays t.toList) :
    ∃ base, parse (s ++ "/") = .ok base ∧ url = base.extend (escape pathEscapes t.toList) := by
  obtain ⟨base, parsed, same⟩ := exists_parse_of_append h special web inside stays
  rw [← same] at special web
  have slash : (s ++ "/").toList.getLast? = some '/' := by simp [String.toList_append]
  have marks : Unmarked (s ++ "/").toList := by
    rw [String.toList_append]
    exact unmarked_append_iff.2 ⟨unmarked, by decide⟩
  obtain ⟨a, whole, -, within, own, -⟩ := finish_of_parse parsed special web slash
  have clean := marks.subset within
  rw [finish_of_unmarked (clean.not_mem rfl) (clean.not_mem rfl)] at own
  have below := parse_descends parsed special web slash descends stays (own ▸ rfl) (own ▸ rfl)
  exact ⟨base, parsed, Except.ok.inj (h.symm.trans below)⟩

end Before

end CloudLifecycle.Url
