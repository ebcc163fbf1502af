import CloudLifecycle.Proofs.Url.Below
import Mathlib.Data.Option.Basic

/-!
# A query behind a URL

Behind a text that is read as a URL, a question mark begins the query, unless the text has a mark
itself: then what follows belongs to its query or to its fragment.  In each case the URL of the
request ends with the question mark and what follows it (`Http.tail_of_prepare_query`), so the query
can be found in the request again.  A text that ends in a segment of a path either makes a URL
without query and fragment, or it ends the one or the other (`Http.tail_of_prepare_path`).
-/

set_option autoImplicit false

namespace CloudLifecycle

namespace Url

/-- The query and the fragment of a URL, each behind its mark. -/
def tail (url : Url) : String :=
  url.query.elim "" ("?" ++ ·) ++ url.fragment.elim "" ("#" ++ ·)

/-- A character that stays what it is in a query and in a fragment. -/
def isQueryChar (c : Char) : Bool := Text.isUnreserved c || "%&=/?".toList.contains c

/-- The text stays what it is in a query and in a fragment. -/
def QueryText (cs : List Char) : Prop := ∀ c ∈ cs, isQueryChar c

instance (cs : List Char) : Decidable (QueryText cs) := List.decidableBAll _ cs

variable {scheme : String} {xs ys : List Char} {url : Url}

theorem toNat_of_isQueryChar {c : Char} (h : isQueryChar c) : 0x20 < c.toNat ∧ c.toNat < 0x7F := by
  simp only [isQueryChar, Text.isUnreserved, Bool.or_eq_true, decide_eq_true_eq] at h
  rcases h with ((((h | rfl) | rfl) | rfl) | rfl) | h
  · exact Text.toNat_of_isAlphanum h
  · decide
  · decide
  · decide
  · decide
  · have marks : c = '%' ∨ c = '&' ∨ c = '=' ∨ c = '/' ∨ c = '?' := by simpa using h
    rcases marks with rfl | rfl | rfl | rfl | rfl <;> decide

theorem keeping_of_isQueryChar {c : Char} (h : isQueryChar c) :
    keeping specialQueryEscapes c = true ∧ keeping fragmentEscapes c = true :=
  Text.of_ascii (P := fun c => isQueryChar c →
    keeping specialQueryEscapes c = true ∧ keeping fragmentEscapes c = true) (by decide)
    (by have := (toNat_of_isQueryChar h).2; omega) h

namespace QueryText

theorem cons_iff {c : Char} : QueryText (c :: xs) ↔ isQueryChar c ∧ QueryText xs :=
  List.forall_mem_cons

/-- A character that is escaped somewhere is not in such a text. -/
theorem not_mem (h : QueryText ys) {c : Char} (other : isQueryChar c = false) : c ∉ ys := by
  intro member
  rw [h c member] at other
  cases other

theorem escape_query (h : QueryText ys) : escape specialQueryEscapes ys = String.ofList ys :=
  escape_of_keeping fun c hc =>
    ⟨(toNat_of_isQueryChar (h c hc)).2, (keeping_of_isQueryChar (h c hc)).1⟩

theorem escape_fragment (h : QueryText ys) : escape fragmentEscapes ys = String.ofList ys :=
  escape_of_keeping fun c hc =>
    ⟨(toNat_of_isQueryChar (h c hc)).2, (keeping_of_isQueryChar (h c hc)).2⟩

theorem visible (h : QueryText ys) : ∀ c ∈ ys, 0x20 < c.toNat :=
  fun c hc => (toNat_of_isQueryChar (h c hc)).1

end QueryText

/-! ## Reading -/

/-- The URL ends with the text behind its path, or there is nothing behind the path. -/
def EndsWith (url : Url) (ys : List Char) : Prop :=
  (∃ front, url.tail = front ++ String.ofList ys) ∨ url.tail = "" ∧ '?' ∉ ys

/-- What is read last ends the URL, unless it belongs to the path. -/
theorem endsWith_finish {a : Authority} {readPath : List Char → String}
    (special : isSpecial scheme) (hy : QueryText ys) (start : '?' ∉ ys ∨ ∃ ts, ys = '?' :: ts) :
    (finish scheme a readPath (xs ++ ys)).EndsWith ys := by
  have hash : '#' ∉ ys := hy.not_mem (by decide)
  unfold EndsWith tail finish
  by_cases fragment : '#' ∈ xs
  · obtain ⟨before, after, rfl, first⟩ := List.eq_append_cons_of_mem fragment
    rw [List.append_assoc, List.cons_append, splitMark_append first]
    left
    simp only [Option.map_some, Option.elim_some, escape_append, hy.escape_fragment]
    exact ⟨_, by rw [← String.append_assoc, ← String.append_assoc]⟩
  · have both : '#' ∉ xs ++ ys := by simp [fragment, hash]
    rw [splitMark_of_not_mem both]
    by_cases query : '?' ∈ xs
    · obtain ⟨before, after, rfl, first⟩ := List.eq_append_cons_of_mem query
      rw [List.append_assoc, List.cons_append]
      simp only [splitMark_append first, special, if_true, Option.map_some, Option.elim_some,
        escape_append, hy.escape_query, Option.map_none, Option.elim_none, String.append_empty]
      exact .inl ⟨_, by rw [← String.append_assoc]⟩
    · rcases start with none | ⟨ts, rfl⟩
      · have marks : '?' ∉ xs ++ ys := by simp [query, none]
        simp only [splitMark_of_not_mem marks]
        exact .inr ⟨rfl, none⟩
      · have text : QueryText ts := (QueryText.cons_iff.1 hy).2
        simp only [splitMark_append query, special, if_true, Option.map_some, Option.elim_some,
          text.escape_query, Option.map_none, Option.elim_none, String.append_empty]
        refine .inl ⟨"", ?_⟩
        rw [String.empty_append, ← List.singleton_append, String.ofList_append]

theorem endsWith_afterSlashes {y : Char} {ts : List Char} (special : isSpecial scheme)
    (hy : QueryText (y :: ts)) (start : '?' ∉ y :: ts ∨ y = '?')
    (stop : endsAuthority true y = true)
    (h : afterSlashes scheme (xs ++ y :: ts) = .ok url) : url.EndsWith (y :: ts) := by
  have begun : (xs ++ y :: ts).dropWhile (fun c => !endsAuthority true c) =
      xs.dropWhile (fun c => !endsAuthority true c) ++ y :: ts :=
    dropWhile_append_cons (by simpa using stop)
  unfold afterSlashes at h
  simp only [special, begun] at h
  generalize readAuthority scheme _ _ = found at h
  cases found with
  | error e => cases h
  | ok found =>
    obtain ⟨a, start'⟩ := found
    obtain rfl := Except.ok.inj h
    dsimp only
    rw [← List.append_assoc]
    exact endsWith_finish special hy (start.imp_right fun same => ⟨ts, by rw [same]⟩)

/-- A text whose ends can be seen is kept behind another one, but for what is dropped everywhere. -/
theorem cleaned_append_of_ends {s t : String} {first last : Char} {ts : List Char}
    (begins : t.toList = first :: ts) (visible : 0x20 < first.toNat)
    (ends : t.toList.getLast? = some last) (solid : 0x20 < last.toNat) :
    ∃ front, cleaned (s ++ t) =
      front ++ t.toList.filter (fun c => c ≠ '\t' && c ≠ '\n' && c ≠ '\r') := by
  have begun : (s ++ t).toList.dropWhile (fun c : Char => c.toNat ≤ 0x20) =
      s.toList.dropWhile (fun c : Char => c.toNat ≤ 0x20) ++ t.toList := by
    rw [String.toList_append, begins, dropWhile_append_cons (by simpa using visible)]
  have final : (s.toList.dropWhile (fun c : Char => c.toNat ≤ 0x20) ++ t.toList).getLast? =
      some last := by
    rw [List.getLast?_append, ends]
    rfl
  have kept : (fun c : Char => decide (c.toNat ≤ 0x20)) last = false := by simpa using solid
  unfold cleaned
  simp only [begun, reverse_dropWhile_reverse (p := fun c : Char => c.toNat ≤ 0x20) final kept,
    List.filter_append]
  exact ⟨_, rfl⟩

/-- The scheme ends before a character that cannot be in it. -/
theorem rest_of_splitScheme {x : Char} {rest : List Char} (other : isSchemeChar x = false)
    (colon : x ≠ ':') (h : splitScheme (xs ++ x :: ys) = some (scheme, rest)) :
    ∃ front, rest = front ++ x :: ys := by
  have found : (xs ++ x :: ys).dropWhile isSchemeChar = ':' :: rest := by
    unfold splitScheme at h
    split at h
    · cases h
    · rename_i whole
      rw [whole] at *
      split at h
      · split at h
        · rename_i behind found
          rw [found, (Prod.mk.inj (Option.some.inj h)).2]
        · cases h
      · cases h
  rw [List.dropWhile_append] at found
  split at found
  · rw [List.dropWhile_cons_of_neg (by simp [other])] at found
    exact absurd (List.cons.inj found).1 colon
  · cases inside : xs.dropWhile isSchemeChar with
    | nil => simp_all
    | cons first front =>
      rw [inside] at found
      exact ⟨front, (List.cons.inj found).2.symm⟩

/-- A URL of the web is read from what follows the slashes after its scheme, and a text that begins
with no character of a scheme belongs to it. -/
theorem afterSlashes_of_parse_append {s t : String} {first last : Char} {ts : List Char}
    (h : parse (s ++ t) = .ok url) (special : isSpecial url.scheme) (web : url.scheme ≠ "file")
    (begins : t.toList = first :: ts) (visible : 0x20 < first.toNat)
    (other : isSchemeChar first = false) (colon : first ≠ ':')
    (ends : t.toList.getLast? = some last) (solid : 0x20 < last.toNat) :
    ∃ front, afterSlashes url.scheme ((front ++
      t.toList.filter fun c => c ≠ '\t' && c ≠ '\n' && c ≠ '\r').dropWhile (isSlash true)) =
        .ok url := by
  obtain ⟨rest, split, read⟩ := afterSlashes_of_parse h special web
  obtain ⟨front, whole⟩ := cleaned_append_of_ends (s := s) begins visible ends solid
  have stays : t.toList.filter (fun c => c ≠ '\t' && c ≠ '\n' && c ≠ '\r') =
      first :: ts.filter fun c => c ≠ '\t' && c ≠ '\n' && c ≠ '\r' := by
    have own {d : Char} (low : d.toNat ≤ 0x20) : first ≠ d := by
      rintro rfl
      omega
    rw [begins, List.filter_cons_of_pos]
    simp [own (d := '\t') (by decide), own (d := '\n') (by decide), own (d := '\r') (by decide)]
  rw [whole, stays] at split
  obtain ⟨more, rfl⟩ := rest_of_splitScheme other colon split
  exact ⟨more, by rw [stays]; exact read⟩

/-- A query stands at the end of a URL that has neither query nor fragment. -/
theorem text_query (query : url.query = none) (fragment : url.fragment = none) (t : String) :
    (url.leading url.path (some t)).text = url.text ++ ("?" ++ t) := by
  have same : (url.leading url.path (some t)).authority = url.authority := rfl
  rw [text, text, same, query, fragment]
  simp only [leading, fragment, Option.elim_some, Option.elim_none, String.append_empty]

/-- Path, query and fragment are found where they stand. -/
theorem finish_parts (a : Authority) (readPath : List Char → String) (special : isSpecial scheme)
    (hash : '#' ∉ xs) (mark : '?' ∉ xs) {query : Option (List Char)} (inner : ∀ q ∈ query, '#' ∉ q)
    (fragment : Option (List Char)) :
    finish scheme a readPath
        (xs ++ query.elim [] ('?' :: ·) ++ fragment.elim [] ('#' :: ·)) =
      ⟨scheme, a.username, a.password, a.host, a.port, readPath xs,
        query.map (escape specialQueryEscapes), fragment.map (escape fragmentEscapes)⟩ := by
  have before : '#' ∉ xs ++ query.elim [] ('?' :: ·) := by
    cases query with
    | none => simp [hash]
    | some q => simp [hash, inner q rfl]
  simp only [finish, splitMark_elim before, splitMark_elim mark, special, if_true]

/-- The first question mark begins the query, which ends at the fragment. -/
theorem finish_marked (a : Authority) (readPath : List Char → String) (special : isSpecial scheme)
    (hash : '#' ∉ xs) (mark : '?' ∉ xs) (text : QueryText ys) (fragment : Option (List Char)) :
    finish scheme a readPath (xs ++ '?' :: (ys ++ fragment.elim [] ('#' :: ·))) =
      ⟨scheme, a.username, a.password, a.host, a.port, readPath xs, some (String.ofList ys),
        fragment.map (escape fragmentEscapes)⟩ := by
  have inner : ∀ q ∈ some ys, '#' ∉ q :=
    fun q same => Option.some.inj same ▸ text.not_mem (by decide)
  have parts := finish_parts a readPath special hash mark inner fragment
  rw [Option.elim_some, Option.map_some, text.escape_query] at parts
  rw [← parts, List.append_assoc, List.cons_append]

/-- The mark of a query begins it behind a URL that has none. -/
theorem finish_query {a : Authority} {readPath : List Char → String} (special : isSpecial scheme)
    (text : QueryText ys) (query : (finish scheme a readPath xs).query = none)
    (fragment : (finish scheme a readPath xs).fragment = none) :
    finish scheme a readPath (xs ++ '?' :: ys) =
      (finish scheme a readPath xs).leading (finish scheme a readPath xs).path
        (some (String.ofList ys)) := by
  obtain ⟨hash, mark⟩ := not_mem_of_finish query fragment
  have behind := finish_marked a readPath special hash mark text none
  rw [Option.elim_none, List.append_nil] at behind
  rw [behind, finish_of_unmarked hash mark]
  rfl

/-- **A query behind a URL.**  Behind a URL that ends in a slash and has neither query nor fragment
a question mark begins the query. -/
theorem parse_query {s t : String} (h : parse s = .ok url) (special : isSpecial url.scheme)
    (web : url.scheme ≠ "file") (last : s.toList.getLast? = some '/') (text : QueryText t.toList)
    (query : url.query = none) (fragment : url.fragment = none) :
    parse (s ++ ("?" ++ t)) = .ok (url.leading url.path (some t)) := by
  obtain ⟨a, whole, -, -, own, more⟩ := finish_of_parse h special web last
  have begins : ("?" ++ t).toList = '?' :: t.toList := by simp [String.toList_append]
  have visible : ∀ c ∈ ("?" ++ t).toList, 0x20 < c.toNat := by
    rw [begins]
    exact List.forall_mem_cons.2 ⟨by decide, text.visible⟩
  rw [own] at query fragment
  have behind := finish_query special text query fragment
  rw [more _ (stays_of_visible visible), begins, behind, ← own, String.ofList_toList]

/-- **What stands before a query.**  If a text is read that has no mark before a question mark and
a query, what stands before the query is read alone, and the query and the fragment behind it change
nothing else of the URL. -/
theorem exists_parse_of_query {s t : String} {fragment : Option String}
    (h : parse (s ++ ("?" ++ t ++ fragment.elim "" ("#" ++ ·))) = .ok url)
    (special : isSpecial url.scheme) (web : url.scheme ≠ "file") (front : Unmarked s.toList)
    (text : QueryText t.toList) (visible : ∀ f ∈ fragment, ∀ c ∈ f.toList, 0x20 < c.toNat) :
    ∃ base, parse (s ++ "?") = .ok base ∧
      url = { base with
        query := some t
        fragment := fragment.map (escape fragmentEscapes ·.toList) } := by
  have whole : s ++ ("?" ++ t ++ fragment.elim "" ("#" ++ ·)) =
      (s ++ "?") ++ (t ++ fragment.elim "" ("#" ++ ·)) := by simp only [String.append_assoc]
  have behind : (t ++ fragment.elim "" ("#" ++ ·)).toList =
      t.toList ++ (fragment.map String.toList).elim [] ('#' :: ·) := by
    rw [String.toList_append, toList_elim "#" '#' rfl]
  have stays : Stays (t ++ fragment.elim "" ("#" ++ ·)).toList := by
    refine stays_of_visible ?_
    rw [behind]
    exact List.forall_mem_append.2
      ⟨text.visible, forall_mem_elim (by decide) (Option.forall_mem_map.2 visible)⟩
  have last : (s ++ "?").toList.getLast? = some '?' := by simp [String.toList_append]
  obtain ⟨before, found, read⟩ :=
    splitScheme_of_parse_append (whole ▸ h) special web last (by decide) (by decide) stays
  -- The question mark ends the slashes after the scheme, so what is read ends with it.
  have final := (cleaned_append stays last (by decide)).2
  have begun : before.dropWhile (isSlash true) ≠ [] :=
    dropWhile_ne_of_getLast? (getLast?_of_splitScheme found final (by decide)) (by decide)
  rw [dropWhile_append_of_ne begun] at read
  obtain ⟨a, all, -, mark, within, own, more⟩ :=
    finish_of_splitScheme found begun read special web last (by decide) (by decide)
  obtain ⟨path, rfl⟩ := List.getLast?_eq_some_iff.1 mark
  have inside : List.Sublist path s.toList := by
    rw [String.toList_append] at within
    exact (List.append_sublist_append_right _).1 within
  have clean := front.subset inside.subset
  have marked (ys : List Char) (hy : QueryText ys) (fragment : Option (List Char)) :=
    finish_marked a (pathAfterHost true) special (clean.not_mem rfl) (clean.not_mem rfl) hy fragment
  have alone := more "" (stays_of_visible fun c none => nomatch none)
  rw [String.append_empty, String.toList_empty, List.append_nil] at alone
  refine ⟨_, alone, own.trans ?_⟩
  have empty := marked [] (fun c none => nomatch none) none
  rw [Option.elim_none, List.append_nil] at empty
  rw [empty, behind, List.append_assoc, List.singleton_append, marked _ text, Option.map_map,
    String.ofList_toList]
  rfl

end Url

namespace Http

open Url

variable {method : HttpMethod} {s t : String} {authorization : Option String} {body : String}
  {request : HttpRequest}

/-- The request for a URL ends as the URL does. -/
theorem tail_takeCredentials (url : Url) : (takeCredentials url).1.tail = url.tail := by
  obtain ⟨-, -, query, fragment⟩ := takeCredentials_fst url
  unfold tail
  rw [query, fragment]

/-- **The query is found again.**  Whatever stands before a question mark, the URL of a request ends
with the mark and what follows it. -/
theorem tail_of_prepare_query
    (h : prepare method (s ++ ("?" ++ t)) authorization body = .ok request)
    (text : QueryText t.toList) : ∃ front, request.url.tail = front ++ ("?" ++ t) := by
  obtain ⟨full, parsed, -, sendable, rfl⟩ := prepare_eq_ok_iff.1 h
  obtain ⟨special, web⟩ := scheme_of_isSendable sendable
  have begins : ("?" ++ t).toList = '?' :: t.toList := by simp [String.toList_append]
  have queries : QueryText ("?" ++ t).toList := begins ▸ QueryText.cons_iff.2 ⟨by decide, text⟩
  obtain ⟨last, ends⟩ : ∃ last, ("?" ++ t).toList.getLast? = some last := by
    rw [begins]
    exact ⟨_, List.getLast?_cons⟩
  obtain ⟨front, read⟩ := afterSlashes_of_parse_append parsed special web begins (by decide)
    (by decide) (by decide) ends (queries.visible last (List.mem_of_getLast? ends))
  rw [(stays_of_visible queries.visible).filter, begins, dropWhile_append_cons (by decide)] at read
  rw [begins] at queries
  have found := endsWith_afterSlashes special queries (.inr rfl) (by decide) read
  rw [tail_takeCredentials, ← String.ofList_toList (s := "?" ++ t), begins]
  exact found.resolve_right fun none => none.2 List.mem_cons_self

/-- Where a path and a segment stand behind a text, the URL of a request either has nothing behind
its path, or it ends with the segment. -/
theorem tail_of_prepare_path {c : Char} {us ws : List Char}
    (h : prepare method (s ++ t) authorization body = .ok request)
    (begins : t.toList = '/' :: c :: (us ++ '/' :: ws)) (visible : 0x20 < c.toNat)
    (inner : isSlash true c = false) (text : QueryText ws) (plain : '?' ∉ ws) :
    (∃ front, request.url.tail = front ++ String.ofList ('/' :: ws)) ∨ request.url.tail = "" := by
  obtain ⟨full, parsed, -, sendable, rfl⟩ := prepare_eq_ok_iff.1 h
  obtain ⟨special, web⟩ := scheme_of_isSendable sendable
  have segment : QueryText ('/' :: ws) := QueryText.cons_iff.2 ⟨by decide, text⟩
  obtain ⟨last, own⟩ : ∃ last, ('/' :: ws).getLast? = some last := ⟨_, List.getLast?_cons⟩
  have ends : t.toList.getLast? = some last := by
    rw [begins, ← List.cons_append, ← List.cons_append, List.getLast?_append, own]
    rfl
  obtain ⟨front, read⟩ := afterSlashes_of_parse_append parsed special web begins (by decide)
    (by decide) (by decide) ends (segment.visible last (List.mem_of_getLast? own))
  have kept : t.toList.filter (fun c => c ≠ '\t' && c ≠ '\n' && c ≠ '\r') =
      ['/'] ++ c :: (us.filter (fun c => c ≠ '\t' && c ≠ '\n' && c ≠ '\r') ++ '/' :: ws) := by
    have two : ['/', c].filter (fun c => c ≠ '\t' && c ≠ '\n' && c ≠ '\r') = ['/', c] := by
      refine (stays_of_visible (List.forall_mem_cons.2 ⟨by decide, ?_⟩)).filter
      simpa using visible
    have split : t.toList = ['/', c] ++ (us ++ '/' :: ws) := begins
    rw [split, List.filter_append, List.filter_append, two,
      (stays_of_visible segment.visible).filter]
    rfl
  rw [kept, ← List.append_assoc, dropWhile_append_cons inner, ← List.cons_append,
    ← List.append_assoc] at read
  have found := endsWith_afterSlashes special segment (.inl (by simp [plain])) (by decide) read
  rw [tail_takeCredentials]
  exact found.imp_right And.left

/-- **Requests with a query.**  If a request can be made for a URL that ends in a slash and has
neither query nor fragment, it can be made with a query, unless the URL is too long. -/
theorem prepare_query (h : prepare .get s none "" = .ok request)
    (last : s.toList.getLast? = some '/') (text : QueryText t.toList)
    (query : request.url.query = none) (fragment : request.url.fragment = none) :
    prepare method (s ++ ("?" ++ t)) authorization body =
      if (request.url.leading request.url.path (some t)).text.utf8ByteSize ≤ maxLength then
        .ok ⟨method, request.url.leading request.url.path (some t),
          authorization.or request.authorization, body⟩
      else .error (.unusable (request.url.leading request.url.path (some t))) := by
  refine prepare_leading h (fun full parsed special web path ownQuery ownFragment => ?_) method
    authorization body
  rw [parse_query parsed special web last text (ownQuery.trans query) (ownFragment.trans fragment),
    path]

/-- A query that is not too long can be sent. -/
theorem exists_prepared_query (h : prepare .get s none "" = .ok request)
    (last : s.toList.getLast? = some '/') (text : QueryText t.toList)
    (query : request.url.query = none) (fragment : request.url.fragment = none)
    (fits : request.url.text.utf8ByteSize + t.utf8ByteSize + 1 ≤ maxLength) :
    ∃ sent, prepare method (s ++ ("?" ++ t)) authorization body = .ok sent := by
  have mark : "?".utf8ByteSize = 1 := rfl
  have short : (request.url.leading request.url.path (some t)).text.utf8ByteSize ≤ maxLength := by
    rw [Url.text_query query fragment, String.utf8ByteSize_append, String.utf8ByteSize_append]
    omega
  rw [prepare_query h last text query fragment, if_pos short]
  exact ⟨_, rfl⟩

end Http

end CloudLifecycle
