import CloudLifecycle.Proofs.Text.Percent
import CloudLifecycle.Url.Parser
import Mathlib.Data.List.TakeWhile

/-!
# What hosts are written with

The text of a host that was read is a domain name or an address of four numbers, and then it has
only characters that are allowed in domain names, or it is an address in brackets, which has colons
besides (`Host.written_of_parse`).
-/

set_option autoImplicit false

namespace CloudLifecycle

/-- What is true of the separator and of the pieces is true of the whole. -/
theorem forall_mem_intercalate {P : Char → Prop} {separator : List Char} (hs : ∀ c ∈ separator, P c)
    {pieces : List (List Char)} (hp : ∀ piece ∈ pieces, ∀ c ∈ piece, P c) :
    ∀ c ∈ separator.intercalate pieces, P c := by
  induction pieces with
  | nil => exact fun c hc => nomatch hc
  | cons piece pieces ih =>
    obtain ⟨first, others⟩ := List.forall_mem_cons.1 hp
    cases pieces with
    | nil => rwa [List.intercalate_singleton]
    | cons next pieces =>
      rw [List.intercalate_cons_cons]
      exact List.forall_mem_append.2 ⟨List.forall_mem_append.2 ⟨first, hs⟩, ih others⟩

theorem Text.subset_of_mem_splitOn {separator : Char} {cs piece : List Char}
    (h : piece ∈ splitOn separator cs) : piece ⊆ cs := by
  induction cs generalizing piece with
  | nil =>
    obtain rfl := List.mem_singleton.1 h
    exact List.Subset.refl []
  | cons c cs ih =>
    have widen {piece : List Char} (h : piece ∈ splitOn separator cs) : piece ⊆ c :: cs :=
      List.Subset.trans (ih h) (List.subset_cons_self c cs)
    rw [splitOn] at h
    split at h
    · rcases List.mem_cons.1 h with rfl | h
      · exact List.nil_subset _
      · exact widen h
    · split at h
      · obtain rfl := List.mem_singleton.1 h
        simp
      · rename_i first more split
        rcases List.mem_cons.1 h with rfl | h
        · exact List.cons_subset_cons c (ih (split ▸ List.mem_cons_self))
        · exact widen (split ▸ List.mem_cons_of_mem first h)

/-! ## Domain names -/

namespace Domain

/-- The text has only characters that are allowed in domain names. -/
def Allowed (cs : List Char) : Prop := ∀ c ∈ cs, isForbidden c = false

instance (cs : List Char) : Decidable (Allowed cs) := List.decidableBAll _ cs

variable {cs ds : List Char}

theorem allowed_append_iff : Allowed (cs ++ ds) ↔ Allowed cs ∧ Allowed ds := List.forall_mem_append

theorem allowed_intercalate {separator : List Char} (hs : Allowed separator)
    {pieces : List (List Char)} (hp : ∀ piece ∈ pieces, Allowed piece) :
    Allowed (separator.intercalate pieces) :=
  forall_mem_intercalate hs hp

theorem Allowed.subset (h : Allowed cs) (sub : ds ⊆ cs) : Allowed ds := fun c hc => h c (sub hc)

end Domain

open Domain (Allowed isForbidden)

namespace Punycode

/-- A digit of Punycode. -/
def IsDigit (c : Char) : Prop := ∃ n < 36, c = digit n

theorem isForbidden_of_isDigit {c : Char} (h : IsDigit c) : isForbidden c = false := by
  obtain ⟨n, hn, rfl⟩ := h
  have all : ∀ n : Fin 36, isForbidden (digit n) = false := by decide
  exact all ⟨n, hn⟩

theorem isDigit_of_mem_digits {bias delta place : Nat} {c : Char}
    (h : c ∈ digits bias delta place) : IsDigit c := by
  fun_induction digits bias delta place with
  | case1 delta place small =>
    obtain rfl := List.mem_singleton.1 h
    have bound := threshold_le place bias
    exact ⟨delta, by omega, rfl⟩
  | case2 delta place large ih =>
    rcases List.mem_cons.1 h with rfl | h
    · have bound := threshold_le place bias
      have rest := Nat.mod_lt (delta - threshold place bias)
        (show 36 - threshold place bias > 0 by omega)
      exact ⟨_, by omega, rfl⟩
    · exact ih h

theorem isDigit_of_mem_place {c : Nat} {label : List Char} {p : Progress} {d : Char}
    (h : d ∈ (place c label p).1) : IsDigit d := by
  induction label generalizing p with
  | nil => cases h
  | cons x rest ih =>
    rw [place] at h
    split at h
    · exact ih h
    · split at h
      · rcases List.mem_append.1 h with h | h
        · exact isDigit_of_mem_digits h
        · exact ih h
      · exact ih h

theorem isDigit_of_mem_placeAll {label : List Char} {codes : List Nat} {p : Progress} {d : Char}
    (h : d ∈ placeAll label codes p) : IsDigit d := by
  induction codes generalizing p with
  | nil => cases h
  | cons c rest ih =>
    rw [placeAll] at h
    rcases List.mem_append.1 h with h | h
    · exact isDigit_of_mem_place h
    · exact ih h

theorem allowed_encode {label : List Char} (h : Allowed label) : Allowed (encode label) := by
  rw [encode, Domain.allowed_append_iff]
  constructor
  · have ascii : Allowed (label.filter (·.toNat < 128)) :=
      h.subset fun c hc => (List.mem_filter.1 hc).1
    split
    · exact fun c hc => nomatch hc
    · rw [Domain.allowed_append_iff]
      exact ⟨ascii, by decide⟩
  · intro d hd
    exact isForbidden_of_isDigit (isDigit_of_mem_placeAll hd)

end Punycode

namespace Domain

theorem allowed_written {folded : List Char} {label : Label} (h : Label.of? folded = some label)
    (allowed : Allowed folded) : Allowed label.written := by
  rw [Label.of?] at h
  obtain ⟨read, -⟩ := Option.filter_eq_some_iff.1 h
  split at read
  · obtain ⟨characters, -, rfl⟩ := Option.map_eq_some_iff.1 read
    exact allowed
  · split at read
    · obtain rfl := Option.some.inj read
      exact allowed
    · obtain rfl := Option.some.inj read
      rw [allowed_append_iff]
      exact ⟨by decide, Punycode.allowed_encode allowed⟩

theorem exists_of_mem_mapM {α β : Type} {f : α → Option β} {items : List α} {results : List β}
    (h : items.mapM f = some results) {b : β} (hb : b ∈ results) : ∃ a ∈ items, f a = some b := by
  induction items generalizing results with
  | nil =>
    rw [List.mapM_nil] at h
    obtain rfl := Option.some.inj h
    cases hb
  | cons a items ih =>
    simp only [List.mapM_cons, Option.bind_eq_bind, Option.bind_eq_some_iff, Option.pure_def,
      Option.some.injEq] at h
    obtain ⟨first, ha, more, rest, rfl⟩ := h
    rcases List.mem_cons.1 hb with rfl | hb
    · exact ⟨a, List.mem_cons_self, ha⟩
    · obtain ⟨a', member, found⟩ := ih rest hb
      exact ⟨a', List.mem_cons_of_mem a member, found⟩

/-- A domain name in ASCII is written with the characters of domain names. -/
theorem allowed_of_toAscii? {name written : List Char} (h : toAscii? name = some written) :
    Allowed written := by
  simp only [toAscii?, Option.bind_eq_bind, Option.bind_eq_some_iff] at h
  obtain ⟨folded, -, h⟩ := h
  split at h
  · cases h
  · rename_i none
    have allowed : Allowed folded := fun c hc =>
      Bool.eq_false_iff.2 fun forbidden => none (List.any_eq_true.2 ⟨c, hc, forbidden⟩)
    simp only [Option.pure_def, Option.bind_eq_some_iff] at h
    obtain ⟨labels, read, h⟩ := h
    split at h
    · cases h
    · obtain rfl := Option.some.inj h
      refine allowed_intercalate (by decide) fun piece hp => ?_
      obtain ⟨label, hl, rfl⟩ := List.mem_map.1 hp
      obtain ⟨part, member, found⟩ := exists_of_mem_mapM read hl
      exact allowed_written found (allowed.subset (Text.subset_of_mem_splitOn member))

end Domain

namespace Host

/-! ## Addresses -/

theorem allowed_toDigits {base : Nat} (low : 1 < base) (high : base ≤ 16) (n : Nat) :
    Allowed (Nat.toDigits base n) := by
  have one : ∀ d : Fin 16, isForbidden (Nat.digitChar d) = false := by decide
  induction n using Nat.strongRecOn with
  | ind n ih =>
    by_cases small : n < base
    · rw [Nat.toDigits_of_lt_base small]
      exact List.forall_mem_singleton.2 (one ⟨n, by omega⟩)
    · rw [Nat.toDigits_of_base_le low (by omega), Domain.allowed_append_iff]
      have rest : n % base < base := Nat.mod_lt n (by omega)
      exact ⟨ih (n / base) (Nat.div_lt_self (by omega) low),
        List.forall_mem_singleton.2 (one ⟨n % base, by omega⟩)⟩

theorem allowed_repr (n : Nat) : Allowed n.repr.toList := by
  rw [Nat.repr, String.toList_ofList]
  exact allowed_toDigits (by decide) (by decide) n

theorem allowed_ipv4Text (address : Nat) : Allowed (ipv4Text address).toList := by
  rw [ipv4Text, String.toList_intercalate]
  refine Domain.allowed_intercalate (by decide) fun piece hp => ?_
  rw [List.map_map] at hp
  obtain ⟨n, -, rfl⟩ := List.mem_map.1 hp
  exact allowed_repr n

theorem ipv4Text_ne (address : Nat) : (ipv4Text address).toList ≠ [] := by
  rw [ipv4Text, List.map_cons, List.map_cons, String.intercalate_cons_cons]
  simp

/-- What stands in brackets has colons besides the characters of domain names. -/
def Inner (cs : List Char) : Prop := ∀ c ∈ cs, isForbidden c = false ∨ c = ':'

theorem inner_colonText (pieces : List Nat) : Inner (colonText pieces).toList := by
  rw [colonText, String.toList_intercalate]
  have colon : Inner ":".toList := List.forall_mem_singleton.2 (.inr rfl)
  refine forall_mem_intercalate colon fun piece hp c hc => ?_
  rw [List.map_map] at hp
  obtain ⟨n, -, rfl⟩ := List.mem_map.1 hp
  rw [Function.comp_apply, hexText, String.toList_ofList] at hc
  exact .inl (allowed_toDigits (by decide) (by decide) n c hc)

theorem inner_ipv6Text (pieces : List Nat) : Inner (ipv6Text pieces).toList := by
  have colons : Inner "::".toList := fun c hc => .inr (by simpa using hc)
  unfold ipv6Text
  split
  · exact inner_colonText pieces
  · simp only [String.toList_append]
    exact List.forall_mem_append.2
      ⟨List.forall_mem_append.2 ⟨inner_colonText _, colons⟩, inner_colonText _⟩

/-! ## All hosts -/

/-- How the host of a URL with a special scheme is written. -/
inductive Written : List Char → Prop where
  | plain {cs : List Char} (filled : cs ≠ []) (h : Allowed cs) : Written cs
  | bracketed {cs : List Char} (h : Inner cs) : Written ('[' :: (cs ++ [']']))

theorem Written.ne_nil {cs : List Char} (h : Written cs) : cs ≠ [] := by
  cases h with
  | plain filled _ => exact filled
  | bracketed _ => exact List.cons_ne_nil _ _

theorem Written.mem {cs : List Char} (h : Written cs) {c : Char} (hc : c ∈ cs) :
    isForbidden c = false ∨ c = ':' ∨ c = '[' ∨ c = ']' := by
  cases h with
  | plain _ h => exact .inl (h c hc)
  | bracketed h =>
    simp only [List.mem_cons, List.mem_append, List.not_mem_nil, or_false] at hc
    rcases hc with rfl | hc | rfl
    · exact .inr (.inr (.inl rfl))
    · exact (h c hc).imp_right .inl
    · exact .inr (.inr (.inr rfl))

/-- **The text of a host that was read.** -/
theorem written_of_parse {cs : List Char} {host : Host} (h : Host.parse cs = .ok host) :
    Written host.text.toList := by
  unfold Host.parse at h
  split at h
  · split at h
    · split at h
      · rename_i pieces _
        obtain rfl := Except.ok.inj h
        have own : (Host.ipv6 pieces).text.toList = '[' :: ((ipv6Text pieces).toList ++ [']']) := by
          simp [text, String.toList_append]
        exact own ▸ .bracketed (inner_ipv6Text pieces)
      · cases h
    · cases h
  · split at h
    · cases h
    · cases h
    · rename_i name filled found
      split at h
      · split at h
        · obtain rfl := Except.ok.inj h
          exact .plain (ipv4Text_ne _) (allowed_ipv4Text _)
        · cases h
      · obtain rfl := Except.ok.inj h
        rw [text, String.toList_ofList]
        exact .plain filled (Domain.allowed_of_toAscii? found)

end Host

end CloudLifecycle
