import CloudLifecycle.Proofs.Url.Queried
import Mathlib.Data.List.Basic

/-!
# URLs are read from their text again

A URL of the web is held in its normal form: what is escaped in a part is not escaped again
(`Url.kept_escape`), no segment of its path goes up (`Url.pathAfterHost_pathAfterHost`), and user,
host and port end where they ended before.  So its text is read as the same URL, as long as the
host can be read from its own text (`Url.Normal.parse_text`).
-/

set_option autoImplicit false

namespace CloudLifecycle

open Text (escapeByte hexDigit)

/-- A number is read from its decimal digits. -/
theorem Text.digitsValue?_toDigits (n : Nat) : digitsValue? 10 (Nat.toDigits 10 n) = some n := by
  have digit : ∀ d : Fin 10, hexValue? (Nat.digitChar d) = some d.val := by decide
  induction n using Nat.strongRecOn with
  | ind n ih =>
    by_cases small : n < 10
    · rw [Nat.toDigits_of_lt_base small, digitsValue?]
      simp [digit ⟨n, small⟩, small]
    · have rest : n % 10 < 10 := Nat.mod_lt n (by decide)
      have front := ih (n / 10) (Nat.div_lt_self (by omega) (by decide))
      have whole : n / 10 * 10 + n % 10 = n := by omega
      rw [Nat.toDigits_of_base_le (by decide) (by omega)]
      unfold digitsValue? at front ⊢
      rw [List.foldlM_append, front]
      simp [digit ⟨n % 10, rest⟩, rest, whole]

namespace Url

/-! ## Escaped parts -/

/-- The character stays in a part. -/
def IsKept (escaped : String) (c : Char) : Prop := c.toNat < 0x7F ∧ keeping escaped c = true

instance (escaped : String) (c : Char) : Decidable (IsKept escaped c) :=
  inferInstanceAs (Decidable (_ ∧ _))

/-- The text has only characters that stay. -/
def Kept (escaped : String) (cs : List Char) : Prop := ∀ c ∈ cs, IsKept escaped c

/-- Escapes are made of characters that stay, and blanks are escaped. -/
structure Closed (escaped : String) : Prop where
  mark : keeping escaped '%' = true
  digits : ∀ n : Fin 16, keeping escaped (hexDigit n) = true
  blank : keeping escaped ' ' = false

theorem closed_userinfo : Closed userinfoEscapes := ⟨by decide, by decide, by decide⟩

theorem closed_path : Closed pathEscapes := ⟨by decide, by decide, by decide⟩

theorem closed_query : Closed specialQueryEscapes := ⟨by decide, by decide, by decide⟩

theorem closed_fragment : Closed fragmentEscapes := ⟨by decide, by decide, by decide⟩

section Escape

variable {escaped : String} {cs ds : List Char} {c d : Char}

theorem toNat_ofNat_lt {n : Nat} (h : n < 128) : (Char.ofNat n).toNat < 128 := by
  have all : ∀ n : Fin 128, (Char.ofNat n).toNat < 128 := by decide
  exact all ⟨n, h⟩

theorem isKept_of_keeping (low : c.toNat < 128) (kept : keeping escaped c = true) :
    IsKept escaped c := by
  have delete : c.toNat ≠ 0x7F := by
    simp only [keeping, Bool.and_eq_true, decide_eq_true_eq] at kept
    exact kept.1.2
  exact ⟨by omega, kept⟩

theorem Kept.escape (h : Kept escaped cs) : escape escaped cs = String.ofList cs :=
  escape_of_keeping h

/-- A character that is escaped is not in a text of characters that stay. -/
theorem Kept.not_mem (h : Kept escaped cs) (other : keeping escaped c = false) : c ∉ cs := by
  intro member
  rw [(h c member).2] at other
  cases other

theorem Kept.visible (h : Kept escaped cs) (closed : Closed escaped) :
    ∀ c ∈ cs, 0x20 < c.toNat := by
  intro c hc
  have least : 0x20 ≤ c.toNat := by
    have kept := (h c hc).2
    simp only [keeping, Bool.and_eq_true, decide_eq_true_eq] at kept
    exact kept.1.1
  have other : c.toNat ≠ ' '.toNat := by
    intro same
    rw [Char.toNat_inj] at same
    exact h.not_mem closed.blank (same ▸ hc)
  exact Nat.lt_of_le_of_ne least other.symm

theorem escape_cons_of_isKept (h : IsKept escaped c) (cs : List Char) :
    (escape escaped (c :: cs)).toList = c :: (escape escaped cs).toList := by
  rw [← List.singleton_append, escape_append, escape_of_keeping (List.forall_mem_singleton.2 h)]
  simp

/-- The bytes of a character that does not stay are escaped. -/
theorem escape_cons_of_not_isKept (h : ¬IsKept escaped c) :
    ∃ bytes : List UInt8, bytes ≠ [] ∧
      (∀ b ∈ bytes, b.toNat < 128 → ¬IsKept escaped (Char.ofNat b.toNat)) ∧
      ∀ cs, (escape escaped (c :: cs)).toList =
        bytes.flatMap escapeByte ++ (escape escaped cs).toList := by
  have own {b : UInt8} (hb : b ∈ String.utf8EncodeChar c) (low : b.toNat < 128) :
      ¬IsKept escaped (Char.ofNat b.toNat) := by
    rw [← Text.eq_of_mem_utf8EncodeChar hb low]
    exact h
  refine ⟨String.utf8EncodeChar c, ?_, fun b hb => own hb, fun cs => ?_⟩
  · have size := String.length_utf8EncodeChar c
    intro none
    rw [none] at size
    exact absurd size.symm (Nat.ne_of_gt c.utf8Size_pos)
  · have single : (escape escaped [c]).toList = (String.utf8EncodeChar c).flatMap escapeByte := by
      rw [escape, String.toList_ofList, Text.utf8, String.toList_ofList, List.flatMap_singleton]
      refine List.flatMap_congr fun b hb => if_neg fun kept => ?_
      simp only [Bool.and_eq_true, decide_eq_true_eq] at kept
      exact own hb kept.1 (isKept_of_keeping (toNat_ofNat_lt kept.1) kept.2)
    rw [← List.singleton_append, escape_append, String.toList_append, single]

/-- What begins with no escape begins with a character that stayed. -/
theorem exists_of_escape_eq_cons (h : (escape escaped cs).toList = d :: ds) (plain : d ≠ '%') :
    ∃ rest, cs = d :: rest ∧ (escape escaped rest).toList = ds := by
  cases cs with
  | nil => cases h
  | cons c cs =>
    by_cases kept : IsKept escaped c
    · rw [escape_cons_of_isKept kept] at h
      obtain ⟨rfl, rfl⟩ := List.cons.inj h
      exact ⟨cs, rfl, rfl⟩
    · obtain ⟨bytes, filled, -, whole⟩ := escape_cons_of_not_isKept kept
      obtain ⟨b, bytes, rfl⟩ := List.exists_cons_of_ne_nil filled
      rw [whole] at h
      exact absurd (List.cons.inj h).1.symm plain

theorem eq_nil_of_escape (h : (escape escaped cs).toList = []) : cs = [] := by
  cases cs with
  | nil => rfl
  | cons c cs =>
    by_cases kept : IsKept escaped c
    · rw [escape_cons_of_isKept kept] at h
      cases h
    · obtain ⟨bytes, filled, -, whole⟩ := escape_cons_of_not_isKept kept
      obtain ⟨b, bytes, rfl⟩ := List.exists_cons_of_ne_nil filled
      rw [whole] at h
      cases h

/-- A character of an escaped text stayed, or belongs to an escape. -/
theorem mem_escape (h : c ∈ (escape escaped cs).toList) :
    (c ∈ cs ∧ IsKept escaped c) ∨ c = '%' ∨ ∃ n : Fin 16, c = hexDigit n := by
  rw [escape, String.toList_ofList] at h
  obtain ⟨b, hb, h⟩ := List.mem_flatMap.1 h
  have bound : b.toNat < 256 := b.toNat_lt
  split at h
  · rename_i kept
    obtain rfl := List.mem_singleton.1 h
    simp only [Bool.and_eq_true, decide_eq_true_eq] at kept
    rw [Text.utf8, String.toList_ofList] at hb
    obtain ⟨d, hd, own⟩ := List.mem_flatMap.1 hb
    obtain rfl := Text.eq_of_mem_utf8EncodeChar own kept.1
    exact .inl ⟨hd, isKept_of_keeping (toNat_ofNat_lt kept.1) kept.2⟩
  · simp only [escapeByte, List.mem_cons, List.not_mem_nil, or_false] at h
    rcases h with rfl | rfl | rfl
    · exact .inr (.inl rfl)
    · exact .inr (.inr ⟨⟨b.toNat / 16, by omega⟩, rfl⟩)
    · exact .inr (.inr ⟨⟨b.toNat % 16, by omega⟩, rfl⟩)

/-- **What is escaped is not escaped again.**  An escaped text has only characters that stay. -/
theorem kept_escape (closed : Closed escaped) (cs : List Char) :
    Kept escaped (escape escaped cs).toList := by
  intro c hc
  rcases mem_escape hc with ⟨-, kept⟩ | rfl | ⟨n, rfl⟩
  · exact kept
  · exact isKept_of_keeping (by decide) closed.mark
  · have low : ∀ n : Fin 16, (hexDigit n).toNat < 128 := by decide
    exact isKept_of_keeping (low n) (closed.digits n)

end Escape

/-! ## Segments -/

section Segments

variable {cs ds : List Char}

theorem plainDots_cons_of_ne {c : Char} (h : c ≠ '%') (cs : List Char) :
    plainDots (c :: cs) = c :: plainDots cs := by
  rw [plainDots]
  · rintro rest rfl
    exact absurd rfl h
  · rintro rest rfl
    exact absurd rfl h

/-- A mark stays where no point is escaped. -/
theorem plainDots_mark (h : ∀ d rest, d = 'e' ∨ d = 'E' → cs ≠ '2' :: d :: rest) :
    plainDots ('%' :: cs) = '%' :: plainDots cs := by
  rw [plainDots]
  · rintro rest - rfl
    exact h 'e' rest (.inl rfl) rfl
  · rintro rest - rfl
    exact h 'E' rest (.inr rfl) rfl

/-- An escaped byte that is no point stays. -/
theorem plainDots_escapeByte {b : UInt8} (other : b ≠ 0x2E) (cs : List Char) :
    plainDots (escapeByte b ++ cs) = escapeByte b ++ plainDots cs := by
  have bound : b.toNat < 256 := b.toNat_lt
  have digit : ∀ n : Fin 16, hexDigit n ≠ '%' ∧ hexDigit n ≠ 'e' ∧
      (hexDigit n = '2' → n = 2) ∧ (hexDigit n = 'E' → n = 14) := by decide
  have high := digit ⟨b.toNat / 16, by omega⟩
  have low := digit ⟨b.toNat % 16, by omega⟩
  show plainDots ('%' :: hexDigit (b.toNat / 16) :: hexDigit (b.toNat % 16) :: cs) = _
  rw [plainDots_mark, plainDots_cons_of_ne high.1, plainDots_cons_of_ne low.1]
  · rfl
  · rintro d rest e same
    obtain ⟨two, more⟩ := List.cons.inj same
    obtain ⟨rfl, -⟩ := List.cons.inj more
    have first := congrArg Fin.val (high.2.2.1 two)
    have second := congrArg Fin.val (low.2.2.2 (e.resolve_left low.2.1))
    refine other (UInt8.toNat_inj.1 ?_)
    show b.toNat = 46
    simp only at first second
    omega

theorem plainDots_flatMap {bytes : List UInt8} (other : ∀ b ∈ bytes, b ≠ 0x2E) (cs : List Char) :
    plainDots (bytes.flatMap escapeByte ++ cs) = bytes.flatMap escapeByte ++ plainDots cs := by
  induction bytes with
  | nil => rfl
  | cons b bytes ih =>
    obtain ⟨first, others⟩ := List.forall_mem_cons.1 other
    rw [List.flatMap_cons, List.append_assoc, plainDots_escapeByte first, ih others,
      List.append_assoc]

/-- Behind a mark there is an escaped point only if there was one before. -/
theorem escape_ne_point (h : ∀ d rest, d = 'e' ∨ d = 'E' → cs ≠ '2' :: d :: rest) (d : Char)
    (rest : List Char) (e : d = 'e' ∨ d = 'E') :
    (escape pathEscapes cs).toList ≠ '2' :: d :: rest := by
  intro whole
  have plain : d ≠ '%' := by rcases e with rfl | rfl <;> decide
  obtain ⟨after, rfl, more⟩ := exists_of_escape_eq_cons whole (by decide)
  obtain ⟨behind, rfl, -⟩ := exists_of_escape_eq_cons more plain
  exact h d behind e rfl

/-- Escaping makes and breaks no point. -/
theorem plainDots_escape (cs : List Char) : plainDots (escape pathEscapes cs).toList =
    (escape pathEscapes (plainDots cs)).toList := by
  have mark : IsKept pathEscapes '%' := by decide
  have point : IsKept pathEscapes '.' := by decide
  have two : IsKept pathEscapes '2' := by decide
  induction cs using plainDots.induct with
  | case1 rest ih =>
    rw [escape_cons_of_isKept mark, escape_cons_of_isKept two,
      escape_cons_of_isKept (by decide : IsKept pathEscapes 'e'), plainDots, plainDots, ih,
      escape_cons_of_isKept point]
  | case2 rest ih =>
    rw [escape_cons_of_isKept mark, escape_cons_of_isKept two,
      escape_cons_of_isKept (by decide : IsKept pathEscapes 'E'), plainDots, plainDots, ih,
      escape_cons_of_isKept point]
  | case3 c rest small large ih =>
    have own : plainDots (c :: rest) = c :: plainDots rest := by
      rw [plainDots]
      · exact small
      · exact large
    rw [own]
    by_cases kept : IsKept pathEscapes c
    · rw [escape_cons_of_isKept kept, escape_cons_of_isKept kept]
      by_cases same : c = '%'
      · subst same
        rw [plainDots_mark (escape_ne_point ?_), ih]
        rintro d behind (rfl | rfl) rfl
        · exact small behind rfl rfl
        · exact large behind rfl rfl
      · rw [plainDots_cons_of_ne same, ih]
    · obtain ⟨bytes, -, others, whole⟩ := escape_cons_of_not_isKept kept
      have other : ∀ b ∈ bytes, b ≠ 0x2E := by
        rintro b hb rfl
        exact others _ hb (by decide) point
      rw [whole, whole, plainDots_flatMap other, ih]
  | case4 => rfl

/-- A segment leads down unless it is one point or two, escaped or not. -/
theorem stepOf_eq_down_iff :
    stepOf cs = .down cs ↔ plainDots cs ≠ ['.'] ∧ plainDots cs ≠ ['.', '.'] := by
  unfold stepOf
  split <;> simp_all

/-- What an escaped text has of points it had before. -/
theorem eq_points_of_escape {points : List Char} (h : (escape pathEscapes cs).toList = points)
    (all : ∀ c ∈ points, c = '.') : cs = points := by
  induction points generalizing cs with
  | nil => exact eq_nil_of_escape h
  | cons c points ih =>
    obtain ⟨rfl, others⟩ := List.forall_mem_cons.1 all
    obtain ⟨rest, rfl, more⟩ := exists_of_escape_eq_cons h (by decide)
    rw [ih more others]

/-- A segment that leads down still does when it is escaped. -/
theorem stepOf_escape (h : stepOf cs = .down cs) :
    stepOf (escape pathEscapes cs).toList = .down (escape pathEscapes cs).toList := by
  rw [stepOf_eq_down_iff] at h ⊢
  rw [plainDots_escape]
  exact ⟨fun one => h.1 (eq_points_of_escape one (by simp)),
    fun two => h.2 (eq_points_of_escape two (by simp))⟩

/-- A segment that is entered again as it is. -/
structure Settled (cs : List Char) : Prop where
  kept : Kept pathEscapes cs
  inner : ∀ c ∈ cs, isSlash true c = false
  down : stepOf cs = .down cs

theorem settled_nil : Settled [] := ⟨nofun, nofun, rfl⟩

theorem settled_escape (inner : ∀ c ∈ cs, isSlash true c = false) (down : stepOf cs = .down cs) :
    Settled (escape pathEscapes cs).toList where
  kept := kept_escape closed_path cs
  inner := by
    have digits : ∀ n : Fin 16, isSlash true (hexDigit n) = false := by decide
    intro c hc
    rcases mem_escape hc with ⟨member, -⟩ | rfl | ⟨n, rfl⟩
    · exact inner c member
    · decide
    · exact digits n
  down := stepOf_escape down

theorem segments_of_inner (inner : ∀ c ∈ cs, isSlash true c = false) : segments true cs = [cs] := by
  induction cs with
  | nil => rfl
  | cons c cs ih =>
    obtain ⟨first, others⟩ := List.forall_mem_cons.1 inner
    rw [segments, ih others, first]
    rfl

/-- A path of settled segments has these segments again. -/
theorem exists_joinSegments {done : List String} (h : ∀ segment ∈ done, Settled segment.toList)
    (filled : done ≠ []) : ∃ ts, (joinSegments done).toList = '/' :: ts ∧
      Kept pathEscapes ts ∧ '\\' ∉ ts ∧ ∀ segment ∈ segments true ts, Settled segment := by
  induction done with
  | nil => exact absurd rfl filled
  | cons segment done ih =>
    obtain ⟨first, others⟩ := List.forall_mem_cons.1 h
    have own : ∀ s ∈ segments true segment.toList, Settled s := by
      rw [segments_of_inner first.inner]
      exact List.forall_mem_singleton.2 first
    have plain : '\\' ∉ segment.toList := by
      intro member
      have backslash := first.inner _ member
      cases backslash
    rw [joinSegments_cons]
    cases done with
    | nil => exact ⟨segment.toList, by simp [joinSegments], first.kept, plain, own⟩
    | cons next done =>
      obtain ⟨ts, whole, kept, slashed, settled⟩ := ih others (List.cons_ne_nil _ _)
      refine ⟨ts ++ '/' :: segment.toList, by simp [String.toList_append, whole], ?_, ?_, ?_⟩
      · exact List.forall_mem_append.2 ⟨kept, List.forall_mem_cons.2 ⟨by decide, first.kept⟩⟩
      · simp [slashed, plain]
      · rw [segments_append_slash]
        exact List.forall_mem_append.2 ⟨settled, own⟩

theorem walk_ne_nil (enter : List String → List Char → String) {rest : List (List Char)}
    (filled : rest ≠ []) (done : List String) : walk enter rest done ≠ [] := by
  induction rest generalizing done with
  | nil => exact absurd rfl filled
  | cons segment rest ih =>
    cases rest with
    | nil =>
      rw [walk]
      split <;> exact List.cons_ne_nil _ _
    | cons next rest =>
      rw [walk_cons segment (List.cons_ne_nil next rest)]
      exact ih (List.cons_ne_nil next rest) _

/-- The segments of a path that was read are settled. -/
theorem exists_settled (cs : List Char) : ∃ done, done ≠ [] ∧ pathAfterHost true cs =
    joinSegments done ∧ ∀ segment ∈ done, Settled segment.toList := by
  have path (cs : List Char) : ∃ done, done ≠ [] ∧ pathOf true cs = joinSegments done ∧
      ∀ segment ∈ done, Settled segment.toList := by
    refine ⟨_, walk_ne_nil _ (segments_ne_nil true cs) [], rfl, ?_⟩
    refine forall_mem_walk settled_nil (fun _ segment member down => ?_) fun _ none => nomatch none
    exact settled_escape (fun c hc => (mem_of_mem_segments member hc).2) down
  cases cs with
  | nil => exact ⟨[""], List.cons_ne_nil _ _, by decide, List.forall_mem_singleton.2 settled_nil⟩
  | cons c cs =>
    rw [pathAfterHost]
    split
    · exact path cs
    · exact path (c :: cs)

/-- The path of a URL that was read: a slash and a text that leads down, with nothing to escape. -/
theorem exists_pathAfterHost (cs : List Char) : ∃ ts, (pathAfterHost true cs).toList = '/' :: ts ∧
    Kept pathEscapes ts ∧ Descends ts := by
  obtain ⟨done, filled, own, settled⟩ := exists_settled cs
  obtain ⟨ts, whole, kept, slashed, down⟩ := exists_joinSegments settled filled
  have clean := unmarked_pathAfterHost true cs
  rw [own, whole, unmarked_cons_iff] at clean
  exact ⟨ts, own ▸ whole, kept, clean.2, slashed, fun segment hs => (down segment hs).down⟩

/-- **A path is read from its text again.** -/
theorem pathAfterHost_pathAfterHost (cs : List Char) :
    pathAfterHost true (pathAfterHost true cs).toList = pathAfterHost true cs := by
  obtain ⟨ts, whole, kept, descends⟩ := exists_pathAfterHost cs
  have again : pathAfterHost true ('/' :: ts) = pathOf true ts := rfl
  have empty : joinSegments [] = "" := rfl
  rw [whole, again, pathOf, joinSegments_walk descends, kept.escape, empty, String.empty_append,
    ← String.toList_inj, whole]
  simp [String.toList_append]

end Segments

/-! ## User, host and port -/

section Authority

variable {scheme : String} {cs ds rest : List Char} {mark : Char}

theorem splitAtLast_of_not_mem (h : mark ∉ cs) : splitAtLast mark cs = none := by
  have all : cs.reverse.takeWhile (· ≠ mark) = cs.reverse := by
    refine List.takeWhile_eq_self_iff.2 fun c hc => ?_
    simpa using ne_of_mem_of_not_mem (List.mem_reverse.1 hc) h
  simp only [splitAtLast, all, List.reverse_reverse, if_true]

theorem splitAtLast_append (h : mark ∉ rest) :
    splitAtLast mark (cs ++ mark :: rest) = some (cs, rest) := by
  have others : ∀ c ∈ rest.reverse, (decide (c ≠ mark)) = true := by
    intro c hc
    simpa using ne_of_mem_of_not_mem (List.mem_reverse.1 hc) h
  have tail : ((cs ++ mark :: rest).reverse.takeWhile (· ≠ mark)).reverse = rest := by
    rw [List.reverse_append, List.reverse_cons, List.append_assoc,
      List.takeWhile_append_of_pos others]
    simp
  have longer : rest.length ≠ (cs ++ mark :: rest).length := by
    rw [List.length_append, List.length_cons]
    omega
  have front : (cs ++ mark :: rest).length - rest.length - 1 = cs.length := by
    rw [List.length_append, List.length_cons]
    omega
  simp only [splitAtLast, tail, if_neg longer, front, List.take_left]

/-- A host without brackets ends at the first colon. -/
theorem splitHost_plain (colon : ':' ∉ cs) (bracket : '[' ∉ cs)
    (behind : rest = [] ∨ ∃ ds, rest = ':' :: ds) :
    splitHost false (cs ++ rest) = (cs, rest) := by
  induction cs with
  | nil =>
    rcases behind with rfl | ⟨ds, rfl⟩
    · rfl
    · rw [List.nil_append, splitHost]
      rfl
  | cons c cs ih =>
    obtain ⟨first, others⟩ := not_or.1 (mt List.mem_cons.2 colon)
    obtain ⟨open', inside⟩ := not_or.1 (mt List.mem_cons.2 bracket)
    have own : (if c = '[' then true else if c = ']' then false else false) = false := by
      rw [if_neg (Ne.symm open'), ite_self]
    rw [List.cons_append, splitHost]
    simp only [own, ih others inside, Ne.symm first, decide_false, Bool.false_and,
      Bool.false_eq_true, if_false]

/-- Colons in brackets belong to the host. -/
theorem splitHost_inner (opening : '[' ∉ cs) (closing : ']' ∉ cs) :
    splitHost true (cs ++ ']' :: rest) =
      (cs ++ ']' :: (splitHost false rest).1, (splitHost false rest).2) := by
  induction cs with
  | nil => rw [List.nil_append, splitHost]; rfl
  | cons c cs ih =>
    obtain ⟨first, others⟩ := not_or.1 (mt List.mem_cons.2 opening)
    obtain ⟨last, inside⟩ := not_or.1 (mt List.mem_cons.2 closing)
    rw [List.cons_append, splitHost]
    simp only [if_neg (Ne.symm first), if_neg (Ne.symm last), ih others inside, Bool.not_true,
      Bool.and_false, Bool.false_eq_true, if_false, List.cons_append]

/-- A host ends before its port. -/
theorem splitHost_written (h : Host.Written cs) (behind : rest = [] ∨ ∃ ds, rest = ':' :: ds) :
    splitHost false (cs ++ rest) = (cs, rest) := by
  have refused {cs : List Char} (h : Domain.Allowed cs) {c : Char}
      (forbidden : Domain.isForbidden c = true) : c ∉ cs := by
    intro member
    rw [h c member] at forbidden
    cases forbidden
  cases h with
  | plain _ allowed =>
    exact splitHost_plain (refused allowed (by decide)) (refused allowed (by decide)) behind
  | @bracketed cs inner =>
    have outside {c : Char} (forbidden : Domain.isForbidden c = true) (other : c ≠ ':') :
        c ∉ cs := by
      intro member
      rcases inner c member with allowed | same
      · rw [allowed] at forbidden
        cases forbidden
      · exact other same
    have whole : '[' :: (cs ++ [']']) ++ rest = '[' :: (cs ++ ']' :: rest) := by simp
    have after : splitHost false ([] ++ rest) = ([], rest) := splitHost_plain nofun nofun behind
    rw [List.nil_append] at after
    rw [whole, splitHost]
    simp only [if_true, splitHost_inner (outside (c := '[') (by decide) (by decide))
      (outside (c := ']') (by decide) (by decide)), after]
    rfl

/-- The port of a URL, behind its colon. -/
def portText (port : Option Nat) : String := port.elim "" fun port => ":" ++ port.repr

theorem readPort_portText {port : Option Nat}
    (range : ∀ n ∈ port, n ≤ 65535 ∧ defaultPort scheme ≠ some n) :
    readPort scheme (portText port).toList = .ok (port, []) := by
  cases port with
  | none => rfl
  | some n =>
    obtain ⟨bound, other⟩ := range n rfl
    have text : (portText (some n)).toList = ':' :: Nat.toDigits 10 n := by
      simp [portText, String.toList_append]
    have digits : '\\' ∉ Nat.toDigits 10 n := by
      intro member
      have allowed := Host.allowed_toDigits (by decide) (by decide) n _ member
      cases allowed
    have all : ∀ c ∈ Nat.toDigits 10 n, (decide (c ≠ '\\')) = true := by
      intro c hc
      simpa using ne_of_mem_of_not_mem hc digits
    have filled : (Nat.toDigits 10 n).isEmpty = false := by
      simp
    rw [text, readPort]
    simp only [List.takeWhile_eq_self_iff.2 all, List.dropWhile_eq_nil_iff.2 all,
      Text.digitsValue?_toDigits, if_neg (Nat.not_lt.2 bound), filled, other, decide_false,
      Bool.or_self, Bool.false_eq_true, if_false]

/-- Host and port are read from their text. -/
theorem readHost_text (hasUser : Bool) (username : String) (password : Option String) {host : Host}
    {port : Option Nat} (special : isSpecial scheme) (written : Host.Written host.text.toList)
    (readable : Host.parse host.text.toList = .ok host)
    (range : ∀ n ∈ port, n ≤ 65535 ∧ defaultPort scheme ≠ some n) :
    readHost scheme hasUser username password (host.text.toList ++ (portText port).toList) =
      .ok (⟨username, password, some host, port⟩, []) := by
  have behind : (portText port).toList = [] ∨ ∃ ds, (portText port).toList = ':' :: ds := by
    cases port with
    | none => exact .inl rfl
    | some n => exact .inr ⟨n.repr.toList, by simp [portText, String.toList_append]⟩
  have filled : host.text.toList.isEmpty = false := by
    cases found : host.text.toList with
    | nil => exact absurd found written.ne_nil
    | cons c cs => rfl
  unfold readHost
  simp only [splitHost_written written behind, special, filled, readable, readPort_portText range]
  rfl

/-- User and password are read from their text. -/
theorem readUserinfo_text {username : String} {password : Option String}
    (user : Kept userinfoEscapes username.toList)
    (secret : ∀ p ∈ password, Kept userinfoEscapes p.toList ∧ p.toList ≠ []) :
    readUserinfo (username.toList ++ (password.map String.toList).elim [] (':' :: ·)) =
      (username, password) := by
  have colon : ∀ c ∈ username.toList, (decide (c ≠ ':')) = true := by
    intro c hc
    simpa using ne_of_mem_of_not_mem hc (user.not_mem (by decide))
  have own : escape userinfoEscapes username.toList = username := by
    rw [user.escape, String.ofList_toList]
  cases password with
  | none =>
    simp only [readUserinfo, Option.map_none, Option.elim_none, List.append_nil,
      List.takeWhile_eq_self_iff.2 colon, List.dropWhile_eq_nil_iff.2 colon, own]
  | some p =>
    obtain ⟨kept, filled⟩ := secret p rfl
    obtain ⟨c, cs, whole⟩ := List.exists_cons_of_ne_nil filled
    have same : escape userinfoEscapes (c :: cs) = p := by
      rw [← whole, kept.escape, String.ofList_toList]
    have stop : (decide (':' ≠ ':')) = false := by decide
    simp only [readUserinfo, Option.map_some, Option.elim_some,
      List.takeWhile_append_of_pos colon, List.dropWhile_append_of_pos colon, whole,
      List.takeWhile_cons, List.dropWhile_cons, stop, Bool.false_eq_true, if_false,
      List.append_nil, own, same]

/-- A port has a colon and digits. -/
theorem mem_portText {port : Option Nat} {c : Char} (h : c ∈ (portText port).toList) :
    Domain.isForbidden c = false ∨ c = ':' := by
  cases port with
  | none => cases h
  | some n =>
    have text : (portText (some n)).toList = ':' :: n.repr.toList := by
      simp [portText, String.toList_append]
    rw [text] at h
    rcases List.mem_cons.1 h with rfl | h
    · exact .inr rfl
    · exact .inl (Host.allowed_repr n c h)

/-- What is allowed in domain names can be seen and does not end the host. -/
theorem inside_of_allowed {c : Char} (h : Domain.isForbidden c = false) :
    0x20 < c.toNat ∧ endsAuthority true c = false ∧ c ≠ '@' := by
  unfold Domain.isForbidden at h
  simp only [Bool.or_eq_false_iff, decide_eq_false_iff_not] at h
  obtain ⟨⟨low, -⟩, others⟩ := h
  have marks : c ≠ '/' ∧ c ≠ '\\' ∧ c ≠ '?' ∧ c ≠ '#' ∧ c ≠ '@' := by
    refine ⟨?_, ?_, ?_, ?_, ?_⟩ <;> rintro rfl <;> exact absurd others (by decide)
  exact ⟨by omega, by simp [endsAuthority, isSlash, marks], marks.2.2.2.2⟩

end Authority

/-! ## Schemes -/

variable {url : Url}

/-- A character of a scheme in lower case. -/
structure IsLower (c : Char) : Prop where
  visible : 0x20 < c.toNat
  char : isSchemeChar c = true
  lower : c.toLower = c

theorem isLower_toLower {c : Char} (h : isSchemeChar c) :
    IsLower c.toLower ∧ (c.isAlpha → c.toLower.isAlpha) := by
  have low : c.toNat < 128 := by
    simp only [isSchemeChar, Bool.or_eq_true, decide_eq_true_eq] at h
    rcases h with ((h | rfl) | rfl) | rfl
    · have range := Text.toNat_of_isAlphanum h
      omega
    all_goals decide
  have all := Text.of_ascii (P := fun c => isSchemeChar c → 0x20 < c.toLower.toNat ∧
    isSchemeChar c.toLower = true ∧ c.toLower.toLower = c.toLower ∧
      (c.isAlpha → c.toLower.isAlpha)) (by decide) low h
  exact ⟨⟨all.1, all.2.1, all.2.2.1⟩, all.2.2.2⟩

theorem splitScheme_of_isLower {first : Char} {cs : List Char} (alpha : first.isAlpha)
    (h : ∀ c ∈ first :: cs, IsLower c) (ds : List Char) :
    splitScheme (first :: cs ++ ':' :: ds) = some (String.ofList (first :: cs), ds) := by
  have chars : ∀ c ∈ first :: cs, isSchemeChar c = true := fun c hc => (h c hc).char
  have stop : isSchemeChar ':' = false := by decide
  have lower : (first :: cs).map Char.toLower = first :: cs := by
    rw [List.map_congr_left fun c hc => (h c hc).lower, List.map_id']
  have scheme : (first :: cs ++ ':' :: ds).takeWhile isSchemeChar = first :: cs := by
    rw [List.takeWhile_append_of_pos chars, List.takeWhile_cons, stop, if_neg Bool.false_ne_true,
      List.append_nil]
  have rest : (first :: cs ++ ':' :: ds).dropWhile isSchemeChar = ':' :: ds := by
    rw [List.dropWhile_append_of_pos chars, List.dropWhile_cons, stop, if_neg Bool.false_ne_true]
  rw [List.cons_append] at scheme rest ⊢
  simp only [splitScheme, alpha, if_true, rest, scheme, lower]

/-- A scheme that was read can be seen and is read again. -/
theorem splitScheme_scheme {cs rest : List Char} {scheme : String}
    (h : splitScheme cs = some (scheme, rest)) : (∀ c ∈ scheme.toList, 0x20 < c.toNat) ∧
      ∀ ds, splitScheme (scheme.toList ++ ':' :: ds) = some (scheme, ds) := by
  unfold splitScheme at h
  split at h
  · cases h
  · rename_i first more
    split at h
    · rename_i alpha
      split at h
      · obtain ⟨rfl, -⟩ := Prod.mk.inj (Option.some.inj h)
        have own : isSchemeChar first := by simp [isSchemeChar, Char.isAlphanum, alpha]
        have lower : ∀ c ∈ ((first :: more).takeWhile isSchemeChar).map Char.toLower,
            IsLower c := by
          intro c hc
          obtain ⟨d, hd, rfl⟩ := List.mem_map.1 hc
          exact (isLower_toLower (List.mem_takeWhile_imp hd)).1
        rw [List.takeWhile_cons, if_pos own, List.map_cons] at lower ⊢
        rw [String.toList_ofList]
        exact ⟨fun c hc => (lower c hc).visible,
          splitScheme_of_isLower ((isLower_toLower own).2 alpha) lower⟩
      · cases h
    · cases h

theorem cleaned_of_visible {s : String} (h : ∀ c ∈ s.toList, 0x20 < c.toNat) :
    cleaned s = s.toList := by
  have start {cs : List Char} (hc : ∀ c ∈ cs, 0x20 < c.toNat) :
      cs.dropWhile (fun c : Char => c.toNat ≤ 0x20) = cs := by
    cases cs with
    | nil => rfl
    | cons c cs =>
      have first : ¬c.toNat ≤ 0x20 := Nat.not_le.2 (hc c List.mem_cons_self)
      rw [List.dropWhile_cons, if_neg (by simpa using first)]
  have back : ∀ c ∈ s.toList.reverse, 0x20 < c.toNat := fun c hc => h c (List.mem_reverse.1 hc)
  unfold cleaned
  rw [start h]
  simp only [start back, List.reverse_reverse, (stays_of_visible h).filter]

/-- What can be seen at its end is kept, whatever follows it. -/
theorem exists_cleaned_append {s : String} {x : Char} (last : s.toList.getLast? = some x)
    (visible : 0x20 < x.toNat) (t : String) : ∃ ts, cleaned (s ++ t) = cleaned s ++ ts := by
  have stop : (fun c : Char => decide (c.toNat ≤ 0x20)) x = false := by simpa using visible
  have begun := dropWhile_ne_of_getLast? (p := fun c : Char => c.toNat ≤ 0x20) last stop
  unfold cleaned
  rw [String.toList_append, dropWhile_append_of_ne begun]
  have ends := (getLast?_of_suffix (List.dropWhile_suffix _) begun).trans last
  generalize s.toList.dropWhile (fun c : Char => c.toNat ≤ 0x20) = start at ends
  have alone := reverse_dropWhile_reverse (p := fun c : Char => c.toNat ≤ 0x20) ends stop
  obtain ⟨behind, both⟩ : ∃ behind, ((start ++ t.toList).reverse.dropWhile
      fun c : Char => c.toNat ≤ 0x20).reverse = start ++ behind := by
    rw [List.reverse_append, List.dropWhile_append]
    split
    · exact ⟨[], by rw [alone, List.append_nil]⟩
    · exact ⟨_, by rw [List.reverse_append, List.reverse_reverse]⟩
  simp only [both, alone, List.filter_append]
  exact ⟨_, rfl⟩

theorem scheme_of_parse {s : String} (h : parse s = .ok url) :
    ∃ rest, splitScheme (cleaned s) = some (url.scheme, rest) := by
  unfold parse at h
  split at h
  · cases h
  · rename_i scheme rest found
    refine ⟨rest, found.trans ?_⟩
    split at h
    · rename_i file
      rw [scheme_of_readFile h, file]
    · split at h
      · rw [scheme_of_afterSlashes h]
      · rw [scheme_of_readOther h]

/-- What follows the colon of a scheme that was read does not change the scheme. -/
theorem scheme_of_parse_append {s t : String} {full : Url} (h : parse s = .ok url)
    (read : parse (url.scheme ++ ":" ++ t) = .ok full) : full.scheme = url.scheme := by
  obtain ⟨rest, split⟩ := scheme_of_parse h
  obtain ⟨visible, again⟩ := splitScheme_scheme split
  have colon : (url.scheme ++ ":").toList = url.scheme.toList ++ [':'] := by
    simp [String.toList_append]
  have chars : ∀ c ∈ (url.scheme ++ ":").toList, 0x20 < c.toNat := by
    rw [colon]
    exact List.forall_mem_append.2 ⟨visible, List.forall_mem_singleton.2 (by decide)⟩
  have last : (url.scheme ++ ":").toList.getLast? = some ':' := by rw [colon, List.getLast?_concat]
  obtain ⟨ts, whole⟩ := exists_cleaned_append last (by decide) t
  obtain ⟨behind, found⟩ := scheme_of_parse read
  rw [whole, cleaned_of_visible chars, colon, List.append_assoc, List.singleton_append,
    again] at found
  exact (Prod.mk.inj (Option.some.inj found)).1.symm

/-! ## URLs -/

/-- What is true of the parts of a URL that was read. -/
structure Normal (url : Url) : Prop where
  scheme : ∃ cs rest, splitScheme cs = some (url.scheme, rest)
  special : isSpecial url.scheme
  web : url.scheme ≠ "file"
  authority : Authority.Read url.scheme ⟨url.username, url.password, url.host, url.port⟩
  path : ∃ cs, url.path = pathAfterHost true cs
  query : ∀ query ∈ url.query, ∃ cs, query = escape specialQueryEscapes cs
  fragment : ∀ fragment ∈ url.fragment, ∃ cs, fragment = escape fragmentEscapes cs

/-- The text of a URL in its parts. -/
theorem toList_text {host : Host} (named : url.host = some host) :
    url.text.toList = url.scheme.toList ++ ':' :: '/' :: '/' ::
      (url.userinfo.toList ++ (host.text.toList ++ (portText url.port).toList) ++
        (url.path.toList ++ (url.query.map String.toList).elim [] ('?' :: ·) ++
          (url.fragment.map String.toList).elim [] ('#' :: ·))) := by
  have hosted : url.hostAndPort = some (host.text ++ portText url.port) := by
    rw [hostAndPort, named]
    rfl
  have own : url.authority = "//" ++ url.userinfo ++ (host.text ++ portText url.port) := by
    rw [authority, hosted]
  rw [text, own]
  simp [String.toList_append, toList_elim "?" '?' rfl, toList_elim "#" '#' rfl]

/-- The mark behind user and password is there if one of them is. -/
theorem userinfo_cases (url : Url) :
    url.username = "" ∧ url.password = none ∧ url.userinfo = "" ∨
      ∃ c cs, url.username.toList ++ (url.password.map String.toList).elim [] (':' :: ·) = c :: cs ∧
        url.userinfo.toList = c :: cs ++ ['@'] := by
  unfold userinfo
  split
  · rename_i nobody
    simp only [Bool.and_eq_true, String.isEmpty_iff, Option.isNone_iff_eq_none] at nobody
    exact .inl ⟨nobody.1, nobody.2, rfl⟩
  · rename_i someone
    right
    have filled :
        url.username.toList ++ (url.password.map String.toList).elim [] (':' :: ·) ≠ [] := by
      intro empty
      obtain ⟨user, secret⟩ := List.append_eq_nil_iff.1 empty
      cases found : url.password with
      | none => exact someone (by rw [String.toList_eq_nil_iff.1 user, found]; rfl)
      | some p =>
        rw [found] at secret
        cases secret
    obtain ⟨c, cs, own⟩ := List.exists_cons_of_ne_nil filled
    exact ⟨c, cs, own, by rw [← own]; simp [String.toList_append, toList_elim ":" ':' rfl]⟩

theorem normal_of_afterSlashes {scheme : String} {cs : List Char}
    (h : afterSlashes scheme cs = .ok url) (special : isSpecial scheme) (web : scheme ≠ "file")
    (split : ∃ cs rest, splitScheme cs = some (scheme, rest)) : url.Normal := by
  obtain ⟨⟨a, start⟩, read, finished⟩ := bind_ok h
  obtain rfl := Except.ok.inj finished
  have escapes : (if isSpecial scheme then specialQueryEscapes else queryEscapes) =
      specialQueryEscapes := if_pos special
  refine ⟨split, special, web, (readAuthority_eq_ok read).1, ⟨_, by rw [special]; rfl⟩, ?_, ?_⟩
  · intro query same
    obtain ⟨cs, -, rfl⟩ := Option.map_eq_some_iff.1 same
    exact ⟨cs, by rw [escapes]⟩
  · intro fragment same
    obtain ⟨cs, -, rfl⟩ := Option.map_eq_some_iff.1 same
    exact ⟨cs, rfl⟩

theorem normal_of_parse {s : String} (h : parse s = .ok url) (special : isSpecial url.scheme)
    (web : url.scheme ≠ "file") : url.Normal := by
  obtain ⟨rest, split, read⟩ := afterSlashes_of_parse h special web
  exact normal_of_afterSlashes read special web ⟨_, _, split⟩

namespace Normal

theorem withQuery (h : url.Normal) {t : String} (text : QueryText t.toList) :
    (url.withQuery t).Normal :=
  { h with
    query := fun query same => ⟨t.toList, by
      rw [text.escape_query, String.ofList_toList, Option.some.inj same]⟩ }

theorem kept_username (h : url.Normal) : Kept userinfoEscapes url.username.toList := by
  obtain ⟨user, own⟩ := h.authority.username
  have same : url.username = escape userinfoEscapes user := own
  exact same ▸ kept_escape closed_userinfo user

theorem kept_password (h : url.Normal) :
    ∀ p ∈ url.password, Kept userinfoEscapes p.toList ∧ p.toList ≠ [] := by
  intro p hp
  obtain ⟨c, cs, rfl⟩ := h.authority.password p hp
  exact ⟨kept_escape closed_userinfo _, fun none => nomatch eq_nil_of_escape none⟩

theorem written (h : url.Normal) {host : Host} (named : url.host = some host) :
    Host.Written host.text.toList := by
  obtain ⟨found, same, -, written⟩ := h.authority.host
  obtain rfl := Option.some.inj (same.symm.trans named)
  exact written h.special

/-- Neither host nor port has a mark of what is before or behind them. -/
theorem inside_host (h : url.Normal) {host : Host} (named : url.host = some host) :
    ∀ c ∈ host.text.toList ++ (portText url.port).toList,
      0x20 < c.toNat ∧ endsAuthority true c = false ∧ c ≠ '@' := by
  intro c hc
  rcases List.mem_append.1 hc with hc | hc
  · rcases (h.written named).mem hc with allowed | rfl | rfl | rfl
    · exact inside_of_allowed allowed
    all_goals decide
  · rcases mem_portText hc with allowed | rfl
    · exact inside_of_allowed allowed
    · decide

theorem inside_userinfo (h : url.Normal) :
    ∀ c ∈ url.userinfo.toList, 0x20 < c.toNat ∧ endsAuthority true c = false := by
  have inside {c : Char} (kept : IsKept userinfoEscapes c) :
      0x20 < c.toNat ∧ endsAuthority true c = false :=
    Text.of_ascii (P := fun c => IsKept userinfoEscapes c →
      0x20 < c.toNat ∧ endsAuthority true c = false) (by decide) (Nat.lt_succ_of_lt kept.1) kept
  rcases userinfo_cases url with ⟨-, -, empty⟩ | ⟨c, cs, info, text⟩
  · rw [empty]
    exact fun c none => nomatch none
  · rw [text, ← info]
    simp only [List.forall_mem_append]
    exact ⟨⟨fun c hc => inside (h.kept_username c hc), forall_mem_elim (by decide)
      (Option.forall_mem_map.2 fun p hp c hc => inside ((h.kept_password p hp).1 c hc))⟩,
        List.forall_mem_singleton.2 (by decide)⟩

/-- User, password, host and port are read from their text. -/
theorem readAuthority_text (h : url.Normal) {host : Host} (named : url.host = some host)
    (readable : Host.parse host.text.toList = .ok host) (atEnd : Bool) :
    readAuthority url.scheme atEnd
        (url.userinfo.toList ++ (host.text.toList ++ (portText url.port).toList)) =
      .ok (⟨url.username, url.password, url.host, url.port⟩, []) := by
  have mark : '@' ∉ host.text.toList ++ (portText url.port).toList :=
    fun member => (h.inside_host named '@' member).2.2 rfl
  have hosted (hasUser : Bool) :=
    readHost_text hasUser url.username url.password h.special (h.written named) readable
      h.authority.port
  have read := readUserinfo_text h.kept_username h.kept_password
  rw [readAuthority_eq, named]
  rcases userinfo_cases url with ⟨username, password, empty⟩ | ⟨c, cs, info, text⟩
  · rw [empty, String.toList_empty, List.nil_append, splitAtLast_of_not_mem mark]
    rw [username, password] at hosted ⊢
    exact hosted _
  · rw [text, List.append_assoc, List.singleton_append, splitAtLast_append mark]
    rw [info] at read
    simp only [read]
    exact hosted _

section Text

variable (h : url.Normal) {host : Host} (named : url.host = some host)

include h

theorem kept_query : ∀ q ∈ url.query.map String.toList, Kept specialQueryEscapes q := by
  intro q hq
  obtain ⟨query, same, rfl⟩ := Option.map_eq_some_iff.1 hq
  obtain ⟨cs, rfl⟩ := h.query query same
  exact kept_escape closed_query cs

theorem kept_fragment : ∀ f ∈ url.fragment.map String.toList, Kept fragmentEscapes f := by
  intro f hf
  obtain ⟨fragment, same, rfl⟩ := Option.map_eq_some_iff.1 hf
  obtain ⟨cs, rfl⟩ := h.fragment fragment same
  exact kept_escape closed_fragment cs

include named

theorem visible_text : ∀ c ∈ url.text.toList, 0x20 < c.toNat := by
  obtain ⟨cs, path⟩ := h.path
  obtain ⟨ts, slash, kept, -⟩ := exists_pathAfterHost cs
  obtain ⟨_, _, split⟩ := h.scheme
  rw [toList_text named, path, slash]
  simp only [List.forall_mem_append, List.forall_mem_cons]
  exact ⟨(splitScheme_scheme split).1, by decide, by decide, by decide,
    ⟨fun c hc => (h.inside_userinfo c hc).1,
      List.forall_mem_append.1 fun c hc => (h.inside_host named c hc).1⟩,
    ⟨⟨by decide, kept.visible closed_path⟩,
      forall_mem_elim (by decide) fun q hq => (h.kept_query q hq).visible closed_query⟩,
    forall_mem_elim (by decide) fun f hf => (h.kept_fragment f hf).visible closed_fragment⟩

/-- The slashes behind the scheme end where user or host begin. -/
theorem dropWhile_isSlash_text (rest : List Char) :
    ('/' :: '/' :: (url.userinfo.toList ++ (host.text.toList ++ (portText url.port).toList) ++
      rest)).dropWhile (isSlash true) =
        url.userinfo.toList ++ (host.text.toList ++ (portText url.port).toList) ++ rest := by
  have inside := List.forall_mem_append.2 ⟨fun c hc => (h.inside_userinfo c hc).2,
    fun c hc => (h.inside_host named c hc).2.1⟩
  have slash : isSlash true '/' = true := rfl
  cases whole : url.userinfo.toList ++ (host.text.toList ++ (portText url.port).toList) with
  | nil =>
    have none := (List.append_eq_nil_iff.1 (List.append_eq_nil_iff.1 whole).2).1
    exact absurd none (h.written named).ne_nil
  | cons c front =>
    rw [whole] at inside
    have first := (List.forall_mem_cons.1 inside).1
    simp only [endsAuthority, Bool.or_eq_false_iff] at first
    rw [List.dropWhile_cons, if_pos slash, List.dropWhile_cons, if_pos slash, List.cons_append,
      List.dropWhile_cons, first.1.1, if_neg Bool.false_ne_true]

/-- What stands before the path is read up to it. -/
theorem afterSlashes_text (readable : Host.parse host.text.toList = .ok host) (rest : List Char)
    {ts : List Char} (slash : rest = '/' :: ts) :
    afterSlashes url.scheme
        (url.userinfo.toList ++ (host.text.toList ++ (portText url.port).toList) ++ rest) =
      .ok (finish url.scheme ⟨url.username, url.password, url.host, url.port⟩ (pathAfterHost true)
        rest) := by
  have inside : ∀ c ∈ url.userinfo.toList ++ (host.text.toList ++ (portText url.port).toList),
      (!endsAuthority true c) = true :=
    List.forall_mem_append.2 ⟨fun c hc => by rw [(h.inside_userinfo c hc).2]; rfl,
      fun c hc => by rw [(h.inside_host named c hc).2.1]; rfl⟩
  have stop : (!endsAuthority true '/') = false := rfl
  subst slash
  unfold afterSlashes
  simp only [h.special, List.takeWhile_append_of_pos inside, List.dropWhile_append_of_pos inside,
    List.takeWhile_cons, List.dropWhile_cons, stop, Bool.false_eq_true, if_false, List.append_nil,
    List.isEmpty_cons, h.readAuthority_text named readable]
  rfl

/-- **A URL is read from its text again**, if its host is. -/
theorem parse_text (readable : Host.parse host.text.toList = .ok host) :
    parse url.text = .ok url := by
  obtain ⟨_, _, split⟩ := h.scheme
  obtain ⟨cs, path⟩ := h.path
  obtain ⟨ts, slash, -, -⟩ := exists_pathAfterHost cs
  have clean := unmarked_pathAfterHost true cs
  have again := pathAfterHost_pathAfterHost cs
  rw [← path] at slash clean again
  have finished := finish_parts ⟨url.username, url.password, url.host, url.port⟩
    (pathAfterHost true) h.special (clean.not_mem rfl) (clean.not_mem rfl)
    (fun q hq => (h.kept_query q hq).not_mem (by decide)) (url.fragment.map String.toList)
  have parts (o : Option String) (escaped : String)
      (kept : ∀ cs ∈ o.map String.toList, Kept escaped cs) :
      (o.map String.toList).map (escape escaped) = o := by
    cases o with
    | none => rfl
    | some text => rw [Option.map_some, Option.map_some, (kept _ rfl).escape, String.ofList_toList]
  rw [again, parts _ _ h.kept_query, parts _ _ h.kept_fragment] at finished
  have read := h.afterSlashes_text named readable (url.path.toList ++
    (url.query.map String.toList).elim [] ('?' :: ·) ++
      (url.fragment.map String.toList).elim [] ('#' :: ·)) (by rw [slash]; rfl)
  unfold parse
  simp only [cleaned_of_visible (h.visible_text named), toList_text named,
    (splitScheme_scheme split).2, if_neg h.web, h.special, if_true,
    h.dropWhile_isSlash_text named, read, finished]

end Text

end Normal

end Url

end CloudLifecycle
