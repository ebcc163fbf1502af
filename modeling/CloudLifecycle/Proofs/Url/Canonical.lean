import CloudLifecycle.Proofs.Dict.Bindings
import CloudLifecycle.Proofs.Text.ByteOrder
import CloudLifecycle.Proofs.Text.Percent
import CloudLifecycle.Text.Search
import CloudLifecycle.Url.Query
import Mathlib.Logic.Function.Basic

/-!
# Reading the canonical text of parameters

`Query.read` takes the text of a query apart at its marks and decodes the sides of each parameter.
No mark is in an encoded text, so reading a canonical text gives the parameters that it was made of
(`Query.read_canonical`), in the order of the bytes of their names, and parameters with the same
text are the same (`Query.canonical_faithful`).
-/

set_option autoImplicit false

namespace CloudLifecycle

/-! ## Pieces between marks -/

namespace Text

variable {mark : Char} {cs : List Char}

theorem splitOn_of_not_mem (h : mark ∉ cs) : splitOn mark cs = [cs] := by
  induction cs with
  | nil => rfl
  | cons c cs ih =>
    have other : c ≠ mark := fun same => h (same ▸ List.mem_cons_self)
    rw [splitOn, if_neg other, ih fun member => h (List.mem_cons_of_mem c member)]

/-- The first mark ends the first piece. -/
theorem splitOn_append_mark (h : mark ∉ cs) (rest : List Char) :
    splitOn mark (cs ++ mark :: rest) = cs :: splitOn mark rest := by
  induction cs with
  | nil => rw [List.nil_append, splitOn, if_pos rfl]
  | cons c cs ih =>
    have other : c ≠ mark := fun same => h (same ▸ List.mem_cons_self)
    rw [List.cons_append, splitOn, if_neg other, ih fun member => h (List.mem_cons_of_mem c member)]

/-- Pieces without the mark are found again between the marks. -/
theorem splitOn_intercalate {pieces : List (List Char)} (some : pieces ≠ [])
    (h : ∀ piece ∈ pieces, mark ∉ piece) :
    splitOn mark ([mark].intercalate pieces) = pieces := by
  induction pieces with
  | nil => exact absurd rfl some
  | cons piece pieces ih =>
    obtain ⟨first, others⟩ := List.forall_mem_cons.1 h
    cases pieces with
    | nil => rw [List.intercalate_singleton, splitOn_of_not_mem first]
    | cons next pieces =>
      rw [List.intercalate_cons_cons, List.append_assoc, List.singleton_append,
        splitOn_append_mark first, ih (by simp) others]

end Text

namespace Query

/-! ## Reading -/

/-- Reads one side of a parameter. -/
def readSide (cs : List Char) : Option String := Text.decode? (Text.percentDecode cs)

/-- Reads one parameter, which has one `=` between its sides. -/
def readPair (cs : List Char) : Option (String × String) :=
  match Text.splitOn '=' cs with
  | [key, value] => do return (← readSide key, ← readSide value)
  | _ => none

/-- Reads the parameters between the `&`s of a query; an empty query has none. -/
def read (query : List Char) : Option (List (String × String)) :=
  if query.isEmpty then some [] else (Text.splitOn '&' query).mapM readPair

/-- The text of parameters, as they are listed. -/
def listed (pairs : List (String × String)) : String :=
  "&".intercalate (pairs.map fun e => pairText e.1 e.2)

theorem canonical_eq (q : Query) : q.canonical = listed q.params.entries := rfl

theorem readSide_percentEncode (s : String) : readSide (Text.percentEncode s).toList = some s := by
  rw [readSide, Text.percentDecode_percentEncode, Text.decode?_utf8]

theorem toList_pairText (key value : String) : (pairText key value).toList =
    (Text.percentEncode key).toList ++ '=' :: (Text.percentEncode value).toList := by
  simp [pairText, String.toList_append]

theorem readPair_pairText (key value : String) :
    readPair (pairText key value).toList = some (key, value) := by
  have clean (s : String) : '=' ∉ (Text.percentEncode s).toList :=
    Text.not_mem_percentEncode (by decide) (by decide) s
  rw [readPair, toList_pairText, Text.splitOn_append_mark (clean key),
    Text.splitOn_of_not_mem (clean value)]
  simp only [readSide_percentEncode]
  rfl

/-- The mark between parameters is in none of them. -/
theorem not_mem_pairText (key value : String) : '&' ∉ (pairText key value).toList := by
  have clean (s : String) : '&' ∉ (Text.percentEncode s).toList :=
    Text.not_mem_percentEncode (by decide) (by decide) s
  rw [toList_pairText]
  simp [clean]

theorem splitOn_listed {pairs : List (String × String)} (some : pairs ≠ []) :
    Text.splitOn '&' (listed pairs).toList = pairs.map fun e => (pairText e.1 e.2).toList := by
  rw [listed, String.toList_intercalate, List.map_map]
  apply Text.splitOn_intercalate
  · simpa using some
  · intro piece member
    obtain ⟨e, _, rfl⟩ := List.mem_map.1 member
    exact not_mem_pairText e.1 e.2

/-- **Listed parameters are read as they were listed.** -/
theorem read_listed (pairs : List (String × String)) :
    read (listed pairs).toList = some pairs := by
  have pairwise : (pairs.map fun e => (pairText e.1 e.2).toList).mapM readPair = some pairs := by
    induction pairs with
    | nil => rfl
    | cons e pairs ih =>
      rw [List.map_cons, List.mapM_cons, readPair_pairText, ih]
      rfl
  cases pairs with
  | nil => rfl
  | cons e pairs =>
    -- Each parameter has its `=`, so the text of some parameters is not the empty one.
    have filled : (listed (e :: pairs)).toList.isEmpty = false := by
      have split := splitOn_listed (List.cons_ne_nil e pairs)
      cases text : (listed (e :: pairs)).toList with
      | nil =>
        rw [text, List.map_cons, toList_pairText] at split
        have first := (List.cons.inj split).1
        simp at first
      | cons c cs => rfl
    rw [read, if_neg (by simp [filled]), splitOn_listed (by simp), pairwise]

/-- The canonical text is read as the parameters. -/
theorem read_canonical (q : Query) : read q.canonical.toList = some q.params.entries :=
  read_listed q.params.entries

/-- Parameters are listed in the order of the bytes of their names, each name once. -/
theorem pairwise_utf8 (q : Query) :
    q.params.entries.Pairwise fun a b => Text.utf8 a.1 < Text.utf8 b.1 :=
  q.params.ascending.imp Text.utf8_lt_of_lt

theorem canonical_injective : Function.Injective canonical := by
  intro p q same
  have entries : p.params.entries = q.params.entries := by
    have read := read_canonical p
    rw [same, read_canonical q] at read
    exact (Option.some.inj read).symm
  have params : p.params = q.params := by
    rw [← Dict.ofList_entries p.params, entries, Dict.ofList_entries]
  obtain ⟨_⟩ := p
  obtain ⟨_⟩ := q
  exact congrArg mk params

/-! ## Building -/

/-- One change of parameters. -/
inductive Edit where
  | set (key value : String)
  | setOption (key : String) (value : Option String)
  | numbered (name : String) (values : List String)
  | indexed (name : String) (values : List String)

namespace Edit

def apply (q : Query) : Edit → Query
  | .set key value => q.set key value
  | .setOption key value => q.setOption key value
  | .numbered name values => q.numbered name values
  | .indexed name values => q.indexed name values

/-- What the change says about single parameters, in this order. -/
def assignments : Edit → List (String × String)
  | .set key value => [(key, value)]
  | .setOption key value => value.toList.map fun value => (key, value)
  | .numbered name values => values.mapIdx fun i value => (name ++ "." ++ (i + 1).repr, value)
  | .indexed name values => values.mapIdx fun i value => (name ++ "[" ++ i.repr ++ "]", value)

end Edit

/-- The parameters that a sequence of changes makes of none. -/
def build (edits : List Edit) : Query := edits.foldl Edit.apply empty

/-- Sets parameters one after another. -/
def assign (q : Query) (pairs : List (String × String)) : Query :=
  pairs.foldl (fun q e => q.set e.1 e.2) q

theorem setAll_eq_assign (q : Query) (key : Nat → String) (start : Nat) (values : List String) :
    q.setAll key start values =
      q.assign (values.mapIdx fun i value => (key (i + start), value)) := by
  induction values generalizing q start with
  | nil => rfl
  | cons value values ih =>
    rw [setAll, ih, List.mapIdx_cons, assign, assign, List.foldl_cons, Nat.zero_add]
    simp only [Nat.add_assoc, Nat.add_comm 1 start]

/-- A change sets what it says. -/
theorem Edit.apply_eq_assign (q : Query) (edit : Edit) :
    edit.apply q = q.assign edit.assignments := by
  cases edit with
  | set key value => rfl
  | setOption key value => cases value <;> rfl
  | numbered name values => exact setAll_eq_assign q _ 1 values
  | indexed name values => exact setAll_eq_assign q _ 0 values

theorem build_eq_assign (edits : List Edit) :
    build edits = empty.assign (edits.flatMap Edit.assignments) := by
  have folded (q : Query) :
      edits.foldl Edit.apply q = q.assign (edits.flatMap Edit.assignments) := by
    induction edits generalizing q with
    | nil => rfl
    | cons edit edits ih =>
      rw [List.foldl_cons, ih, Edit.apply_eq_assign, List.flatMap_cons, assign, assign, assign,
        List.foldl_append]
  exact folded empty

theorem params_assign (q : Query) (pairs : List (String × String)) :
    (q.assign pairs).params = pairs.foldl (fun d e => d.insert e.1 e.2) q.params := by
  induction pairs generalizing q with
  | nil => rfl
  | cons e pairs ih => exact ih (q.set e.1 e.2)

/-- Of what the changes say about a parameter the last counts. -/
theorem find?_build (edits : List Edit) (key : String) :
    (build edits).find? key = (edits.flatMap Edit.assignments).reverse.lookup key := by
  rw [build_eq_assign, find?, params_assign]
  exact Dict.find?_ofList _ key

/-- **The canonical text determines the parameters.**  Encoding leaves only unreserved characters
and escapes, and is undone by decoding.  However parameters were put together, the canonical text is
read as the parameters and the values that were set last, in ascending order of the bytes of their
names; without parameters it is empty; and different parameters have different texts. -/
theorem canonical_faithful :
    (∀ s : String, Text.Escaped (Text.percentEncode s).toList ∧
      Text.percentDecode (Text.percentEncode s).toList = Text.utf8 s) ∧
    (∀ edits : List Edit, ∃ pairs, read (build edits).canonical.toList = some pairs ∧
      pairs = (build edits).params.entries ∧
      pairs.Pairwise (fun a b => Text.utf8 a.1 < Text.utf8 b.1) ∧
      ∀ key value, (key, value) ∈ pairs ↔
        (edits.flatMap Edit.assignments).reverse.lookup key = some value) ∧
    empty.canonical = "" ∧
    Function.Injective canonical := by
  refine ⟨fun s => ⟨Text.escaped_percentEncode s, Text.percentDecode_percentEncode s⟩, ?_, rfl,
    canonical_injective⟩
  intro edits
  refine ⟨_, read_canonical (build edits), rfl, pairwise_utf8 (build edits), ?_⟩
  intro key value
  rw [← find?_build]
  exact Dict.find?_eq_some_iff.symm

end Query

end CloudLifecycle
