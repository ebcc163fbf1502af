import CloudLifecycle.Http.Client
import CloudLifecycle.Proofs.Url.Marks

/-!
# URLs below another one

A URL that ends in a slash and has neither query nor fragment stands for all that is below it: a
text behind it that leads down only extends the path (`Url.parse_descends`).  So does a text of
words and slashes (`Url.parse_append`): words are made of letters, digits, hyphens and underscores,
so nothing in them is escaped and no segment of them goes up.  A request for such a URL is the one
for the first with the longer path (`Http.prepare_append`), as long as its URL is not too long.
-/

set_option autoImplicit false

namespace CloudLifecycle.Url

section Lists

variable {α : Type} {p : α → Bool} {cs ts : List α} {x : α}

theorem getLast?_of_suffix {l : List α} (h : l <:+ cs) (ne : l ≠ []) :
    l.getLast? = cs.getLast? := by
  obtain ⟨front, rfl⟩ := h
  rw [List.getLast?_append, List.getLast?_eq_some_getLast ne]
  rfl

/-- What stops in the first part stops in the same place if more follows. -/
theorem dropWhile_append_of_ne (h : cs.dropWhile p ≠ []) :
    (cs ++ ts).dropWhile p = cs.dropWhile p ++ ts := by
  rw [List.dropWhile_append, if_neg (by simpa using h)]

theorem takeWhile_append_of_ne (h : cs.dropWhile p ≠ []) :
    (cs ++ ts).takeWhile p = cs.takeWhile p := by
  induction cs with
  | nil => exact absurd rfl h
  | cons c cs ih =>
    rw [List.cons_append, List.takeWhile_cons, List.takeWhile_cons]
    rw [List.dropWhile_cons] at h
    split
    · rename_i go
      rw [if_pos go] at h
      rw [ih h]
    · rfl

/-- What stops at a character drops only what comes before it. -/
theorem dropWhile_append_cons (stop : p x = false) :
    (cs ++ x :: ts).dropWhile p = cs.dropWhile p ++ x :: ts := by
  rw [List.dropWhile_append]
  split
  · rename_i none
    rw [List.isEmpty_iff.1 none, List.dropWhile_cons_of_neg (by simp [stop]), List.nil_append]
  · rfl

theorem dropWhile_ne_of_getLast? (last : cs.getLast? = some x) (stop : p x = false) :
    cs.dropWhile p ≠ [] := by
  intro all
  have go := List.dropWhile_eq_nil_iff.1 all x (List.mem_of_getLast? last)
  rw [stop] at go
  cases go

theorem reverse_dropWhile_reverse (last : cs.getLast? = some x) (stop : p x = false) :
    (cs.reverse.dropWhile p).reverse = cs := by
  obtain ⟨front, rfl⟩ := List.getLast?_eq_some_iff.1 last
  rw [List.reverse_append, List.reverse_singleton, List.singleton_append, List.dropWhile_cons,
    if_neg (by simp [stop]), List.reverse_cons, List.reverse_reverse]

end Lists

/-! ## Words -/

/-- A character of a word: a letter, a digit, a hyphen or an underscore. -/
def isWordChar (c : Char) : Bool := c.isAlphanum || c = '-' || c = '_'

/-- The text is made of words with slashes between them. -/
def Words (cs : List Char) : Prop := ∀ c ∈ cs, isWordChar c ∨ c = '/'

theorem words_of_all {cs : List Char} (h : cs.all (fun c => isWordChar c || c = '/') = true) :
    Words cs := by
  intro c hc
  simpa using List.all_eq_true.1 h c hc

theorem toNat_of_isWordChar {c : Char} (h : isWordChar c) : 0x20 < c.toNat ∧ c.toNat < 0x7F := by
  simp only [isWordChar, Bool.or_eq_true, decide_eq_true_eq] at h
  rcases h with (h | rfl) | rfl
  · exact Text.toNat_of_isAlphanum h
  · decide
  · decide

/-- A character of a word is none that is not. -/
theorem ne_of_isWordChar {c d : Char} (h : isWordChar c) (other : isWordChar d = false) :
    c ≠ d := by
  rintro rfl
  rw [h] at other
  cases other

/-- A text of words and slashes has no other character. -/
theorem Words.ne {cs : List Char} (h : Words cs) {c d : Char} (hc : c ∈ cs)
    (other : isWordChar d = false) (slash : d ≠ '/') : c ≠ d := by
  rcases h c hc with word | rfl
  · exact ne_of_isWordChar word other
  · exact slash.symm

/-- A text of words and slashes can be seen. -/
theorem Words.visible {cs : List Char} (h : Words cs) : ∀ c ∈ cs, 0x20 < c.toNat := by
  intro c hc
  rcases h c hc with word | rfl
  · exact (toNat_of_isWordChar word).1
  · decide

theorem keeping_word {c : Char} (h : isWordChar c) : keeping pathEscapes c = true := by
  have range := toNat_of_isWordChar h
  have others : pathEscapes.toList.any isWordChar = false := rfl
  have free : c ∉ pathEscapes.toList := fun member => List.any_eq_false.1 others c member h
  have above : 0x20 ≤ c.toNat := by omega
  have below : c.toNat ≠ 0x7F := by omega
  simp [keeping, above, below, free]

/-- Two texts are escaped like one. -/
theorem escape_append (escaped : String) (cs ds : List Char) :
    escape escaped (cs ++ ds) = escape escaped cs ++ escape escaped ds := by
  simp [escape, Text.utf8, Text.percentEncodeBytes, List.flatMap_append]

/-- Characters that stay are not escaped. -/
theorem escape_of_keeping {escaped : String} {cs : List Char}
    (h : ∀ c ∈ cs, c.toNat < 0x7F ∧ keeping escaped c = true) :
    escape escaped cs = String.ofList cs := by
  have byte {c : Char} (hc : c.toNat < 0x7F) :
      String.utf8EncodeChar c = [UInt8.ofNat c.toNat] := by
    have low : c.toNat ≤ 127 := by omega
    unfold String.utf8EncodeChar
    simp [low]
  unfold escape
  congr 1
  unfold Text.utf8 Text.percentEncodeBytes
  rw [String.toList_ofList, List.flatMap_assoc]
  induction cs with
  | nil => rfl
  | cons c cs ih =>
    obtain ⟨⟨low, kept⟩, more⟩ := List.forall_mem_cons.1 h
    rw [List.flatMap_cons, ih more, byte low]
    have self : (UInt8.ofNat c.toNat).toNat = c.toNat := Text.toNat_ofNat (by omega)
    have own : Char.ofNat c.toNat = c := Char.ofNat_toNat c
    simp [self, own, kept, show c.toNat < 128 by omega]

/-- Nothing in words is escaped. -/
theorem Words.escape {cs : List Char} (h : Words cs) :
    escape pathEscapes cs = String.ofList cs := by
  refine escape_of_keeping fun c hc => ?_
  rcases h c hc with word | rfl
  · exact ⟨(toNat_of_isWordChar word).2, keeping_word word⟩
  · decide

/-- Without the mark of an escape a segment leads down, unless it is one point or two. -/
theorem stepOf_of_not_mem {cs : List Char} (mark : '%' ∉ cs) (one : cs ≠ ['.'])
    (two : cs ≠ ['.', '.']) : stepOf cs = .down cs := by
  have plain : plainDots cs = cs := by
    clear one two
    induction cs with
    | nil => rfl
    | cons c cs ih =>
      obtain ⟨other, more⟩ := not_or.1 (mt List.mem_cons.2 mark)
      unfold plainDots
      split
      · rename_i same
        exact absurd (List.cons.inj same).1.symm other
      · rename_i same
        exact absurd (List.cons.inj same).1.symm other
      · rename_i same
        rw [← (List.cons.inj same).1, ← (List.cons.inj same).2, ih more]
      · rename_i same
        cases same
  unfold stepOf
  rw [plain]
  split
  · exact absurd rfl one
  · exact absurd rfl two
  · rfl

/-- A word is no point and has no escaped one. -/
theorem stepOf_word {cs : List Char} (h : ∀ c ∈ cs, isWordChar c) : stepOf cs = .down cs := by
  have other {c : Char} (hc : isWordChar c = false) : c ∉ cs := by
    intro member
    rw [h c member] at hc
    cases hc
  refine stepOf_of_not_mem (other (by decide)) ?_ ?_
  · rintro rfl
    exact other (c := '.') (by decide) List.mem_cons_self
  · rintro rfl
    exact other (c := '.') (by decide) List.mem_cons_self

/-! ## Paths -/

/-- What stands after a segment that is not the last one. -/
def settle (enter : List String → List Char → String) (done : List String) (segment : List Char) :
    List String :=
  match stepOf segment with
  | .up => parent done
  | .stay => done
  | .down segment => enter done segment :: done

section Walk

variable {enter : List String → List Char → String} {done : List String}
  {front rest : List (List Char)}

theorem walk_cons (segment : List Char) (h : rest ≠ []) :
    walk enter (segment :: rest) done = walk enter rest (settle enter done segment) := by
  cases rest with
  | nil => exact absurd rfl h
  | cons next rest =>
    rw [walk, settle]
    · split <;> simp [*]
    · exact fun none => nomatch none

/-- Segments are followed one after another. -/
theorem walk_append (h : rest ≠ []) :
    walk enter (front ++ rest) done = walk enter rest (front.foldl (settle enter) done) := by
  induction front generalizing done with
  | nil => rfl
  | cons segment front ih =>
    rw [List.cons_append, walk_cons segment (by simp [h]), ih, List.foldl_cons]

/-- Segments that lead down are entered one below the other. -/
theorem walk_down (down : ∀ segment ∈ rest, stepOf segment = .down segment) (h : rest ≠ []) :
    walk enter rest done = rest.foldl (fun done segment => enter done segment :: done) done := by
  induction rest generalizing done with
  | nil => exact absurd rfl h
  | cons segment rest ih =>
    obtain ⟨first, more⟩ := List.forall_mem_cons.1 down
    cases rest with
    | nil =>
      rw [walk, first]
      rfl
    | cons next rest =>
      have entered : settle enter done segment = enter done segment :: done := by
        rw [settle, first]
      rw [walk_cons segment (by simp), entered, ih more (by simp)]
      rfl

end Walk

theorem segments_ne_nil (special : Bool) (cs : List Char) : segments special cs ≠ [] := by
  cases cs with
  | nil => simp [segments]
  | cons c cs =>
    unfold segments
    split
    · simp
    · split <;> simp

/-- A slash ends a segment. -/
theorem segments_append_slash (special : Bool) (cs ts : List Char) :
    segments special (cs ++ '/' :: ts) = segments special cs ++ segments special ts := by
  have slash : isSlash special '/' = true := by simp [isSlash]
  induction cs with
  | nil => simp [segments, slash]
  | cons c cs ih =>
    rw [List.cons_append, segments, segments, ih]
    split
    · rfl
    · cases found : segments special cs with
      | nil => exact absurd found (segments_ne_nil special cs)
      | cons segment more => rfl

/-- Without backslashes the segments are the text again, each behind its slash. -/
theorem flatMap_segments {ts : List Char} (plain : '\\' ∉ ts) :
    (segments true ts).flatMap (fun segment => '/' :: segment) = '/' :: ts := by
  induction ts with
  | nil => rfl
  | cons c ts ih =>
    obtain ⟨other, more⟩ := not_or.1 (mt List.mem_cons.2 plain)
    have joined := ih more
    rw [segments]
    split
    · rename_i slash
      obtain rfl : c = '/' := by simpa [isSlash, Ne.symm other] using slash
      rw [List.flatMap_cons, joined]
      rfl
    · cases found : segments true ts with
      | nil => exact absurd found (segments_ne_nil true ts)
      | cons segment more =>
        rw [found, List.flatMap_cons] at joined
        rw [List.flatMap_cons]
        exact congrArg (fun rest => '/' :: c :: rest) (List.cons.inj joined).2

/-- The characters of a segment are those of the text, without slashes. -/
theorem mem_of_mem_segments {special : Bool} {ts segment : List Char} {c : Char}
    (h : segment ∈ segments special ts) (hc : c ∈ segment) :
    c ∈ ts ∧ isSlash special c = false := by
  induction ts generalizing segment with
  | nil =>
    obtain rfl := List.mem_singleton.1 h
    cases hc
  | cons d ts ih =>
    rw [segments] at h
    split at h
    · rcases List.mem_cons.1 h with rfl | h
      · cases hc
      · exact (ih h hc).imp_left (List.mem_cons_of_mem d)
    · rename_i inside
      cases found : segments special ts with
      | nil => exact absurd found (segments_ne_nil special ts)
      | cons first more =>
        rw [found] at h ih
        rcases List.mem_cons.1 h with rfl | h
        · rcases List.mem_cons.1 hc with rfl | hc
          · exact ⟨List.mem_cons_self, Bool.eq_false_iff.2 inside⟩
          · exact (ih List.mem_cons_self hc).imp_left (List.mem_cons_of_mem d)
        · exact (ih (List.mem_cons_of_mem _ h) hc).imp_left (List.mem_cons_of_mem d)

/-- The text belongs to the path that it follows, and leads down from there: no mark ends the path,
no slash is a backslash, and each segment leads down. -/
structure Descends (ts : List Char) : Prop where
  unmarked : Unmarked ts
  slashed : '\\' ∉ ts
  down : ∀ segment ∈ segments true ts, stepOf segment = .down segment

theorem descends_nil : Descends [] where
  unmarked := unmarked_nil
  slashed := nofun
  down := List.forall_mem_singleton.2 rfl

theorem Words.descends {ts : List Char} (h : Words ts) : Descends ts where
  unmarked c hc := by
    rcases h c hc with word | rfl
    · exact isMark_eq_false (by decide) (by decide) word
    · decide
  slashed member := h.ne member (by decide) (by decide) rfl
  down segment hs := by
    refine stepOf_word fun c hc => ?_
    obtain ⟨member, inside⟩ := mem_of_mem_segments hs hc
    refine (h c member).resolve_right ?_
    rintro rfl
    cases inside

theorem escape_slash (cs : List Char) :
    escape pathEscapes ('/' :: cs) = "/" ++ escape pathEscapes cs :=
  escape_append pathEscapes ['/'] cs

theorem joinSegments_cons (segment : String) (done : List String) :
    joinSegments (segment :: done) = joinSegments done ++ "/" ++ segment := by
  have folded (done : List String) (behind : String) :
      done.foldl (fun path segment => "/" ++ segment ++ path) behind =
        joinSegments done ++ behind := by
    induction done generalizing behind with
    | nil => rw [joinSegments, List.foldl_nil, List.foldl_nil, String.empty_append]
    | cons next done ih =>
      rw [joinSegments, List.foldl_cons, List.foldl_cons, ih, ih]
      simp only [String.append_assoc, String.append_empty]
  rw [joinSegments, List.foldl_cons, folded]
  simp only [String.append_assoc, String.append_empty]

/-- A path goes on with the segments. -/
theorem joinSegments_foldl (rest : List (List Char)) (done : List String) :
    joinSegments (rest.foldl (fun done segment => escape pathEscapes segment :: done) done) =
      joinSegments done ++ escape pathEscapes (rest.flatMap fun segment => '/' :: segment) := by
  induction rest generalizing done with
  | nil => exact (String.append_empty).symm
  | cons segment rest ih =>
    rw [List.foldl_cons, ih, joinSegments_cons, List.flatMap_cons, List.cons_append, escape_slash,
      escape_append]
    simp only [String.append_assoc]

theorem joinSegments_walk {ts : List Char} (h : Descends ts) (done : List String) :
    joinSegments (walk (fun _ => escape pathEscapes) (segments true ts) done) =
      joinSegments done ++ "/" ++ escape pathEscapes ts := by
  rw [walk_down h.down (segments_ne_nil true ts), joinSegments_foldl, flatMap_segments h.slashed,
    escape_slash, String.append_assoc]

/-- A path that ends in a slash goes on with the text behind it. -/
theorem pathOf_append {ts : List Char} (h : Descends ts) (cs : List Char) :
    pathOf true (cs ++ '/' :: ts) = pathOf true (cs ++ ['/']) ++ escape pathEscapes ts := by
  have empty : escape pathEscapes [] = "" := rfl
  unfold pathOf
  rw [segments_append_slash, segments_append_slash, walk_append (segments_ne_nil true ts),
    walk_append (segments_ne_nil true []), joinSegments_walk h, joinSegments_walk descends_nil]
  simp only [String.append_assoc, empty, String.empty_append]

theorem pathAfterHost_append {cs ts : List Char} (h : Descends ts) (last : cs.getLast? = some '/') :
    pathAfterHost true (cs ++ ts) = pathAfterHost true cs ++ escape pathEscapes ts := by
  obtain ⟨front, rfl⟩ := List.getLast?_eq_some_iff.1 last
  have slash : isSlash true '/' = true := rfl
  have empty : escape pathEscapes [] = "" := rfl
  rw [List.append_assoc, List.singleton_append]
  cases front with
  | nil =>
    rw [List.nil_append, List.nil_append, pathAfterHost, pathAfterHost, if_pos slash, if_pos slash,
      pathOf, pathOf, joinSegments_walk h, joinSegments_walk descends_nil]
    simp only [String.append_assoc, empty, String.empty_append]
  | cons c front =>
    rw [List.cons_append, List.cons_append, pathAfterHost, pathAfterHost]
    split
    · exact pathOf_append h front
    · exact pathOf_append h (c :: front)

/-! ## Query and fragment -/

theorem splitMark_of_not_mem {mark : Char} {cs : List Char} (h : mark ∉ cs) :
    splitMark mark cs = (cs, none) := by
  have all : cs.dropWhile (· ≠ mark) = [] := by
    refine List.dropWhile_eq_nil_iff.2 fun c hc => ?_
    simpa using ne_of_mem_of_not_mem hc h
  rw [splitMark, all]

theorem splitMark_append {mark : Char} {cs : List Char} (h : mark ∉ cs) (rest : List Char) :
    splitMark mark (cs ++ mark :: rest) = (cs, some rest) := by
  have others : ∀ c ∈ cs, (decide (c ≠ mark)) = true := by
    intro c hc
    simpa using ne_of_mem_of_not_mem hc h
  unfold splitMark
  rw [List.dropWhile_append_of_pos others, List.takeWhile_append_of_pos others]
  simp

/-- What stands behind a mark is split off at the first one. -/
theorem splitMark_elim {mark : Char} {cs : List Char} (h : mark ∉ cs)
    (behind : Option (List Char)) :
    splitMark mark (cs ++ behind.elim [] (mark :: ·)) = (cs, behind) := by
  cases behind with
  | none => rw [Option.elim_none, List.append_nil, splitMark_of_not_mem h]
  | some rest => rw [Option.elim_some, splitMark_append h]

/-- A part of a text behind its mark, as characters. -/
theorem toList_elim (text : String) (mark : Char) (single : text.toList = [mark])
    (part : Option String) :
    (part.elim "" (text ++ ·)).toList = (part.map String.toList).elim [] (mark :: ·) := by
  cases part with
  | none => rfl
  | some s =>
    rw [Option.elim_some, String.toList_append, single, Option.map_some, Option.elim_some,
      List.singleton_append]

theorem forall_mem_elim {P : Char → Prop} {mark : Char} {part : Option (List Char)} (own : P mark)
    (h : ∀ cs ∈ part, ∀ c ∈ cs, P c) : ∀ c ∈ part.elim [] (mark :: ·), P c := by
  cases part with
  | none => exact fun c none => nomatch none
  | some cs => exact List.forall_mem_cons.2 ⟨own, h cs rfl⟩

theorem not_mem_of_splitMark {mark : Char} {cs : List Char} (h : (splitMark mark cs).2 = none) :
    mark ∉ cs := by
  intro member
  unfold splitMark at h
  split at h
  · cases h
  · rename_i all
    simpa using List.dropWhile_eq_nil_iff.1 all mark member

/-- Without a query and a fragment there is no mark. -/
theorem not_mem_of_finish {scheme : String} {a : Authority} {readPath : List Char → String}
    {cs : List Char} (query : (finish scheme a readPath cs).query = none)
    (fragment : (finish scheme a readPath cs).fragment = none) : '#' ∉ cs ∧ '?' ∉ cs := by
  have hash : '#' ∉ cs := not_mem_of_splitMark (Option.map_eq_none_iff.1 fragment)
  have query : (splitMark '?' (splitMark '#' cs).1).2 = none := Option.map_eq_none_iff.1 query
  rw [splitMark_of_not_mem hash] at query
  exact ⟨hash, not_mem_of_splitMark query⟩

/-- Without marks all that follows the host is the path. -/
theorem finish_of_unmarked {scheme : String} {a : Authority} {readPath : List Char → String}
    {cs : List Char} (hash : '#' ∉ cs) (mark : '?' ∉ cs) : finish scheme a readPath cs =
      ⟨scheme, a.username, a.password, a.host, a.port, readPath cs, none, none⟩ := by
  simp only [finish, splitMark_of_not_mem hash, splitMark_of_not_mem mark, Option.map_none]

/-- Behind a URL without query and fragment an unmarked text belongs to the path. -/
theorem finish_append {scheme : String} {a : Authority} {readPath : List Char → String}
    {cs ts : List Char} (h : Unmarked ts) (query : (finish scheme a readPath cs).query = none)
    (fragment : (finish scheme a readPath cs).fragment = none) :
    (finish scheme a readPath cs).path = readPath cs ∧
      finish scheme a readPath (cs ++ ts) =
        { finish scheme a readPath cs with path := readPath (cs ++ ts) } := by
  obtain ⟨hash, mark⟩ := not_mem_of_finish query fragment
  have hashes : '#' ∉ cs ++ ts := by simp [hash, h.not_mem (c := '#') rfl]
  have marks : '?' ∉ cs ++ ts := by simp [mark, h.not_mem (c := '?') rfl]
  rw [finish_of_unmarked hash mark, finish_of_unmarked hashes marks]
  exact ⟨rfl, rfl⟩

/-! ## Scheme and authority -/

/-- Nothing of the text is dropped at the end of a URL. -/
structure Stays (ts : List Char) : Prop where
  tab : '\t' ∉ ts
  lineFeed : '\n' ∉ ts
  carriageReturn : '\r' ∉ ts
  last : ∀ c ∈ ts.getLast?, 0x20 < c.toNat

/-- Nothing is dropped in a text that can be seen. -/
theorem stays_of_visible {cs : List Char} (h : ∀ c ∈ cs, 0x20 < c.toNat) : Stays cs := by
  have other {d : Char} (low : d.toNat ≤ 0x20) : d ∉ cs := fun member =>
    absurd (h d member) (by omega)
  exact ⟨other (by decide), other (by decide), other (by decide),
    fun c hc => h c (List.mem_of_getLast? hc)⟩

theorem Stays.filter {cs : List Char} (h : Stays cs) :
    cs.filter (fun c => c ≠ '\t' && c ≠ '\n' && c ≠ '\r') = cs := by
  refine List.filter_eq_self.2 fun c hc => ?_
  simp [ne_of_mem_of_not_mem hc h.tab, ne_of_mem_of_not_mem hc h.lineFeed,
    ne_of_mem_of_not_mem hc h.carriageReturn]

theorem cleaned_sublist (s : String) : List.Sublist (cleaned s) s.toList := by
  have inner (cs : List Char) (p : Char → Bool) :
      List.Sublist (cs.reverse.dropWhile p).reverse cs := by
    rw [← List.reverse_sublist, List.reverse_reverse]
    exact List.dropWhile_sublist _
  exact (List.filter_sublist.trans (inner _ _)).trans (List.dropWhile_sublist _)

/-- A text of which nothing is dropped is kept behind a URL that can be seen at its end. -/
theorem cleaned_append {s t : String} {x : Char} (h : Stays t.toList)
    (last : s.toList.getLast? = some x) (visible : 0x20 < x.toNat) :
    cleaned (s ++ t) = cleaned s ++ t.toList ∧ (cleaned s).getLast? = some x := by
  have stop : (fun c : Char => decide (c.toNat ≤ 0x20)) x = false := by simpa using visible
  have begun := dropWhile_ne_of_getLast? (p := fun c : Char => c.toNat ≤ 0x20) last stop
  unfold cleaned
  rw [String.toList_append, dropWhile_append_of_ne begun]
  have ends := (getLast?_of_suffix (List.dropWhile_suffix _) begun).trans last
  generalize s.toList.dropWhile (fun c : Char => c.toNat ≤ 0x20) = start at ends
  have whole : ∃ c, (start ++ t.toList).getLast? = some c ∧ 0x20 < c.toNat := by
    rw [List.getLast?_append, ends]
    cases found : t.toList.getLast? with
    | none => exact ⟨x, rfl, visible⟩
    | some c => exact ⟨c, rfl, h.last c found⟩
  obtain ⟨c, final, above⟩ := whole
  have kept : (fun c : Char => decide (c.toNat ≤ 0x20)) c = false := by simpa using above
  simp only [reverse_dropWhile_reverse (p := fun c : Char => c.toNat ≤ 0x20) final kept,
    reverse_dropWhile_reverse (p := fun c : Char => c.toNat ≤ 0x20) ends stop,
    List.filter_append, h.filter, true_and]
  obtain ⟨front, rfl⟩ := List.getLast?_eq_some_iff.1 ends
  have own : [x].filter (fun c => c ≠ '\t' && c ≠ '\n' && c ≠ '\r') = [x] :=
    (stays_of_visible (List.forall_mem_singleton.2 visible)).filter
  rw [List.filter_append, own, List.getLast?_concat]

/-- A scheme that has ended is the same if more follows. -/
theorem splitScheme_append {cs : List Char} (stop : cs.dropWhile isSchemeChar ≠ [])
    (ts : List Char) :
    splitScheme (cs ++ ts) = (splitScheme cs).map (Prod.map id (· ++ ts)) := by
  cases cs with
  | nil => exact absurd rfl stop
  | cons first cs =>
    simp only [splitScheme, List.cons_append]
    rw [← List.cons_append, dropWhile_append_of_ne stop, takeWhile_append_of_ne stop]
    split
    · cases found : (first :: cs).dropWhile isSchemeChar with
      | nil => exact absurd found stop
      | cons c behind =>
        rw [List.cons_append]
        split
        · rename_i same
          obtain ⟨rfl, rfl⟩ := List.cons.inj same
          rfl
        · rename_i other
          split
          · rename_i same
            exact absurd (congrArg (· ++ ts) same) (other _)
          · rfl
    · rfl

/-- The scheme ends with a colon. -/
theorem suffix_of_splitScheme {cs rest : List Char} {scheme : String}
    (h : splitScheme cs = some (scheme, rest)) :
    ':' :: rest <:+ cs ∧ cs.dropWhile isSchemeChar ≠ [] := by
  unfold splitScheme at h
  split at h
  · cases h
  · split at h
    · split at h
      · rename_i behind found
        obtain ⟨-, rfl⟩ := Prod.mk.inj (Option.some.inj h)
        exact ⟨found ▸ List.dropWhile_suffix _, by simp [found]⟩
      · cases h
    · cases h

/-- What follows the scheme ends as the whole text does. -/
theorem getLast?_of_splitScheme {cs rest : List Char} {scheme : String} {x : Char}
    (h : splitScheme cs = some (scheme, rest)) (last : cs.getLast? = some x) (other : x ≠ ':') :
    rest.getLast? = some x := by
  have own := (getLast?_of_suffix (suffix_of_splitScheme h).1 (List.cons_ne_nil ':' rest)).trans
    last
  cases rest with
  | nil => exact absurd (Option.some.inj own).symm other
  | cons c rest => exact own

theorem scheme_of_afterSlashes {scheme : String} {cs : List Char} {url : Url}
    (h : afterSlashes scheme cs = .ok url) : url.scheme = scheme := by
  unfold afterSlashes at h
  cases read : readAuthority scheme
      (cs.dropWhile fun c => !endsAuthority (isSpecial scheme) c).isEmpty
      (cs.takeWhile fun c => !endsAuthority (isSpecial scheme) c) with
  | error e =>
    simp only [read] at h
    cases h
  | ok found =>
    simp only [read] at h
    rw [← Except.ok.inj h]
    rfl

theorem scheme_of_readFile {cs : List Char} {url : Url} (h : readFile cs = .ok url) :
    url.scheme = "file" := by
  have finished {a : Authority} {readPath : List Char → String} {cs : List Char}
      (h : Except.ok (ε := UrlError) (finish "file" a readPath cs) = .ok url) :
      url.scheme = "file" := by
    rw [← Except.ok.inj h]
    rfl
  unfold readFile at h
  split at h
  · split at h
    · rename_i rest _
      dsimp only at h
      split at h
      · exact finished h
      · cases host : fileHost (rest.takeWhile fun c => !endsAuthority true c) with
        | error e =>
          rw [host] at h
          cases h
        | ok host =>
          rw [host] at h
          exact finished h
    · exact finished h
  · exact finished h

theorem scheme_of_readOther {scheme : String} {cs : List Char} {url : Url}
    (h : readOther scheme cs = .ok url) : url.scheme = scheme := by
  unfold readOther at h
  split at h
  · exact scheme_of_afterSlashes h
  · rw [← Except.ok.inj h]
    rfl
  · rw [← Except.ok.inj h]
    rfl

/-- A URL with a special scheme, but no file, is read behind the slashes after its scheme. -/
theorem afterSlashes_of_parse {s : String} {url : Url} (h : parse s = .ok url)
    (special : isSpecial url.scheme) (web : url.scheme ≠ "file") :
    ∃ rest, splitScheme (cleaned s) = some (url.scheme, rest) ∧
      afterSlashes url.scheme (rest.dropWhile (isSlash true)) = .ok url := by
  unfold parse at h
  split at h
  · cases h
  · rename_i scheme rest found
    split at h
    · exact absurd (scheme_of_readFile h) web
    · split at h
      · obtain rfl := scheme_of_afterSlashes h
        exact ⟨rest, found, h⟩
      · rename_i other
        rw [scheme_of_readOther h] at special
        exact absurd special other

/-- The scheme is found in a text that ends with a mark, whatever follows it. -/
theorem splitScheme_of_parse_append {s t : String} {x : Char} {url : Url}
    (h : parse (s ++ t) = .ok url) (special : isSpecial url.scheme) (web : url.scheme ≠ "file")
    (last : s.toList.getLast? = some x) (visible : 0x20 < x.toNat)
    (other : isSchemeChar x = false) (stays : Stays t.toList) :
    ∃ rest, splitScheme (cleaned s) = some (url.scheme, rest) ∧
      afterSlashes url.scheme ((rest ++ t.toList).dropWhile (isSlash true)) = .ok url := by
  obtain ⟨rest, split, read⟩ := afterSlashes_of_parse h special web
  obtain ⟨kept, final⟩ := cleaned_append stays last visible
  rw [kept, splitScheme_append (dropWhile_ne_of_getLast? final other)] at split
  obtain ⟨⟨scheme, before⟩, found, same⟩ := Option.map_eq_some_iff.1 split
  obtain ⟨rfl, rfl⟩ := Prod.mk.inj same
  exact ⟨before, found, read⟩

/-- What follows the end of the host is read with the path, whatever it is. -/
theorem afterSlashes_append {scheme : String} {cs us : List Char} {x : Char} {url : Url}
    (h : afterSlashes scheme (cs ++ us) = .ok url) (special : isSpecial scheme)
    (last : cs.getLast? = some x) (stop : endsAuthority true x = true) :
    ∃ a whole, a.Read scheme ∧ whole.getLast? = some x ∧ whole <:+ cs ∧
      ∀ ts, afterSlashes scheme (cs ++ ts) =
        .ok (finish scheme a (pathAfterHost true) (whole ++ ts)) := by
  have begun := dropWhile_ne_of_getLast? (p := fun c => !endsAuthority true c) last (by simp [stop])
  have ends := (getLast?_of_suffix (List.dropWhile_suffix _) begun).trans last
  have parts := List.takeWhile_append_dropWhile (p := fun c => !endsAuthority true c) (l := cs)
  unfold afterSlashes at h ⊢
  simp only [special] at h ⊢
  simp only [dropWhile_append_of_ne begun, takeWhile_append_of_ne begun] at h ⊢
  generalize cs.dropWhile (fun c => !endsAuthority true c) = rest at h begun ends parts ⊢
  have filled (ts : List Char) : (rest ++ ts).isEmpty = false := by simp [begun]
  simp only [filled] at h ⊢
  cases read : readAuthority scheme false (cs.takeWhile fun c => !endsAuthority true c) with
  | error e =>
    rw [read] at h
    cases h
  | ok found =>
    obtain ⟨a, start⟩ := found
    obtain ⟨own, front, before⟩ := readAuthority_eq_ok read
    refine ⟨a, start ++ rest, own, ?_, ⟨front, ?_⟩, fun ts => ?_⟩
    · rw [List.getLast?_append, ends]
      rfl
    · rw [← List.append_assoc, before, parts]
    · rw [List.append_assoc]
      rfl

/-- A text behind a URL whose host has ended is read with its path, query or fragment, as long as
nothing of it is dropped. -/
theorem finish_of_splitScheme {s u : String} {rest : List Char} {x : Char} {url : Url}
    (split : splitScheme (cleaned s) = some (url.scheme, rest))
    (begun : rest.dropWhile (isSlash true) ≠ [])
    (read : afterSlashes url.scheme (rest.dropWhile (isSlash true) ++ u.toList) = .ok url)
    (special : isSpecial url.scheme) (web : url.scheme ≠ "file")
    (last : s.toList.getLast? = some x) (visible : 0x20 < x.toNat)
    (stop : endsAuthority true x = true) :
    ∃ a whole, a.Read url.scheme ∧ whole.getLast? = some x ∧ List.Sublist whole s.toList ∧
      url = finish url.scheme a (pathAfterHost true) (whole ++ u.toList) ∧
      ∀ t : String, Stays t.toList →
        parse (s ++ t) = .ok (finish url.scheme a (pathAfterHost true) (whole ++ t.toList)) := by
  have final := (cleaned_append (stays_of_visible nofun : Stays "".toList) last visible).2
  obtain ⟨suffix, colon⟩ := suffix_of_splitScheme split
  have inner := (List.suffix_cons ':' rest).trans suffix
  have ends := getLast?_of_splitScheme split final (by rintro rfl; cases stop)
  have finals := (getLast?_of_suffix (List.dropWhile_suffix (isSlash true)) begun).trans ends
  obtain ⟨a, whole, own, sameLast, within, more⟩ := afterSlashes_append read special finals stop
  refine ⟨a, whole, own, sameLast, ?_, Except.ok.inj (read.symm.trans (more _)),
    fun t stays => ?_⟩
  · have behind := within.trans ((List.dropWhile_suffix (isSlash true)).trans inner)
    exact behind.sublist.trans (cleaned_sublist s)
  · unfold parse
    simp only [(cleaned_append stays last visible).1, splitScheme_append colon, split,
      Option.map_some, Prod.map_apply, id_eq, if_neg web, special, if_true]
    rw [dropWhile_append_of_ne begun, more]

/-- A text behind a URL that ends in a slash is read with its path, as long as nothing of it is
dropped. -/
theorem finish_of_parse {s : String} {url : Url} (h : parse s = .ok url)
    (special : isSpecial url.scheme) (web : url.scheme ≠ "file")
    (last : s.toList.getLast? = some '/') :
    ∃ a whole, whole.getLast? = some '/' ∧ whole ⊆ s.toList ∧
      url = finish url.scheme a (pathAfterHost true) whole ∧ ∀ t : String, Stays t.toList →
        parse (s ++ t) = .ok (finish url.scheme a (pathAfterHost true) (whole ++ t.toList)) := by
  obtain ⟨rest, split, read⟩ := afterSlashes_of_parse h special web
  -- The host comes behind the slashes, so the URL does not end with them.
  have begun : rest.dropWhile (isSlash true) ≠ [] := by
    intro none
    have hostless : readAuthority url.scheme true [] = .error .emptyHost := by
      simp [readAuthority, splitAtLast, splitHost, special]
      rfl
    rw [none, afterSlashes] at read
    simp only [List.dropWhile_nil, List.takeWhile_nil, List.isEmpty_nil, hostless] at read
    cases read
  rw [← List.append_nil (rest.dropWhile (isSlash true))] at read
  obtain ⟨a, whole, -, slash, within, own, more⟩ :=
    finish_of_splitScheme (u := "") split begun read special web last (by decide) (by decide)
  rw [String.toList_empty, List.append_nil] at own
  exact ⟨a, whole, slash, within.subset, own, more⟩

/-- The URL with another path and another query. -/
def leading (url : Url) (path : String) (query : Option String) : Url := { url with path, query }

/-- The URL with a longer path. -/
def extend (url : Url) (t : String) : Url := { url with path := url.path ++ t }

/-- **URLs below another one.**  A text that leads down behind a URL that ends in a slash extends
its path. -/
theorem parse_descends {s t : String} {url : Url} (h : parse s = .ok url)
    (special : isSpecial url.scheme) (web : url.scheme ≠ "file")
    (last : s.toList.getLast? = some '/') (descends : Descends t.toList) (stays : Stays t.toList)
    (query : url.query = none) (fragment : url.fragment = none) :
    parse (s ++ t) = .ok (url.extend (escape pathEscapes t.toList)) := by
  obtain ⟨a, whole, slash, -, own, more⟩ := finish_of_parse h special web last
  rw [own] at query fragment
  obtain ⟨path, below⟩ := finish_append descends.unmarked query fragment
  rw [more t stays, below, pathAfterHost_append descends slash, extend, own, path]
  rfl

/-- Words behind a URL that ends in a slash extend its path by themselves. -/
theorem parse_append {s t : String} {url : Url} (h : parse s = .ok url)
    (special : isSpecial url.scheme) (web : url.scheme ≠ "file")
    (last : s.toList.getLast? = some '/') (words : Words t.toList) (query : url.query = none)
    (fragment : url.fragment = none) :
    parse (s ++ t) = .ok (url.extend t) := by
  rw [parse_descends h special web last words.descends (stays_of_visible words.visible) query
    fragment, words.escape, String.ofList_toList]

end CloudLifecycle.Url

namespace CloudLifecycle.Http

/-- What leaves a URL with the credentials is no other part of it. -/
theorem takeCredentials_fst (url : Url) :
    (takeCredentials url).1.scheme = url.scheme ∧ (takeCredentials url).1.path = url.path ∧
      (takeCredentials url).1.query = url.query ∧
      (takeCredentials url).1.fragment = url.fragment := by
  unfold takeCredentials
  cases credentials? url <;> exact ⟨rfl, rfl, rfl, rfl⟩

/-- A request can be prepared for a URL with a host that can be sent without its credentials. -/
theorem prepare_eq_ok_iff {method : HttpMethod} {s : String} {authorization : Option String}
    {body : String} {request : HttpRequest} :
    prepare method s authorization body = .ok request ↔
      ∃ full, Url.parse s = .ok full ∧ full.hostText?.isNone = false ∧
        isSendable (takeCredentials full).1 = true ∧ request = ⟨method, (takeCredentials full).1,
          authorization.or (takeCredentials full).2, body⟩ := by
  unfold prepare
  cases Url.parse s with
  | error e => exact iff_of_false (fun h => nomatch h) fun ⟨_, impossible, _⟩ => nomatch impossible
  | ok full =>
    dsimp only
    constructor
    · intro h
      split at h
      · cases h
      · rename_i hosted
        split at h
        · rename_i sendable
          exact ⟨full, rfl, Bool.eq_false_iff.2 hosted, sendable, (Except.ok.inj h).symm⟩
        · cases h
    · rintro ⟨_, same, hosted, sendable, rfl⟩
      obtain rfl := Except.ok.inj same
      simp only [hosted, sendable, Bool.false_eq_true, if_false, if_true]

/-- Requests are sent to the web only. -/
theorem scheme_of_isSendable {full : Url} (h : isSendable (takeCredentials full).1 = true) :
    Url.isSpecial full.scheme ∧ full.scheme ≠ "file" := by
  have kind : full.scheme = "http" ∨ full.scheme = "https" := by
    simp only [isSendable, Bool.and_eq_true, (takeCredentials_fst full).1] at h
    simpa using h.1.1
  rcases kind with kind | kind <;> rw [kind] <;> decide

/-- Credentials are found before the path. -/
theorem takeCredentials_leading (url : Url) (path : String) (query : Option String) :
    takeCredentials (url.leading path query) =
      ((takeCredentials url).1.leading path query, (takeCredentials url).2) := by
  have same : credentials? (url.leading path query) = credentials? url := rfl
  unfold takeCredentials
  rw [same]
  cases credentials? url <;> rfl

/-- A URL that can be sent can be sent with another path and query, as far as the length goes. -/
theorem isSendable_leading {url : Url} (h : isSendable url = true) (path : String)
    (query : Option String) : isSendable (url.leading path query) =
      decide ((url.leading path query).text.utf8ByteSize ≤ maxLength) := by
  have same : (url.leading path query).hostText? = url.hostText? := rfl
  have scheme : (url.leading path query).scheme = url.scheme := rfl
  simp only [isSendable, Bool.and_eq_true] at h
  unfold isSendable
  rw [same, scheme, h.1.1, h.1.2]
  rfl

/-- **Requests for URLs on one host.**  If a request can be made for a URL, it can be made for a
text that is read as the same URL with another path and query, unless this one is too long. -/
theorem prepare_leading {s t : String} {request : HttpRequest} {path : String}
    {query : Option String} (h : prepare .get s none "" = .ok request)
    (read : ∀ full, Url.parse s = .ok full → Url.isSpecial full.scheme → full.scheme ≠ "file" →
      full.path = request.url.path → full.query = request.url.query →
      full.fragment = request.url.fragment → Url.parse t = .ok (full.leading path query))
    (method : HttpMethod) (authorization : Option String) (body : String) :
    prepare method t authorization body =
      if (request.url.leading path query).text.utf8ByteSize ≤ maxLength then
        .ok ⟨method, request.url.leading path query, authorization.or request.authorization, body⟩
      else .error (.unusable (request.url.leading path query)) := by
  obtain ⟨full, parsed, hosted, sendable, rfl⟩ := prepare_eq_ok_iff.1 h
  obtain ⟨-, samePath, sameQuery, sameFragment⟩ := takeCredentials_fst full
  obtain ⟨special, web⟩ := scheme_of_isSendable sendable
  have leads := read full parsed special web samePath.symm sameQuery.symm sameFragment.symm
  have host : (full.leading path query).hostText?.isNone = false := hosted
  unfold prepare
  simp only [leads, host, takeCredentials_leading, isSendable_leading sendable, decide_eq_true_eq,
    Bool.false_eq_true, if_false, Option.none_or]

/-- **Requests below a URL.**  If a request can be made for a URL that ends in a slash and has
neither query nor fragment, it can be made for all that is below it, unless the URL is too long. -/
theorem prepare_append {s t : String} {request : HttpRequest}
    (h : prepare .get s none "" = .ok request) (last : s.toList.getLast? = some '/')
    (words : Url.Words t.toList) (query : request.url.query = none)
    (fragment : request.url.fragment = none) (method : HttpMethod) (authorization : Option String)
    (body : String) :
    prepare method (s ++ t) authorization body =
      if (request.url.extend t).text.utf8ByteSize ≤ maxLength then
        .ok ⟨method, request.url.extend t, authorization.or request.authorization, body⟩
      else .error (.unusable (request.url.extend t)) := by
  have longer (url : Url) : url.extend t = url.leading (url.path ++ t) url.query := rfl
  rw [longer]
  refine prepare_leading h (fun full parsed special web path ownQuery ownFragment => ?_) method
    authorization body
  rw [Url.parse_append parsed special web last words (ownQuery.trans query)
    (ownFragment.trans fragment), longer, path, ownQuery]

end CloudLifecycle.Http
