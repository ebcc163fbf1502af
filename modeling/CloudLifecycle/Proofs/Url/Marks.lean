import CloudLifecycle.Proofs.Url.Hosts

/-!
# Where a URL has its marks

The query of a URL begins at the first question mark of its text, and the fragment at the first
number sign.  Neither of the two is in what stands before the query of a URL that was read: scheme,
user, password, host and path are free of them (`Url.clean_of_parse`).
-/

set_option autoImplicit false

namespace CloudLifecycle

open Text (isUpperHex isUpperHex_hexDigit)

/-- The character begins a query or a fragment. -/
def isMark (c : Char) : Bool := c = '?' || c = '#'

/-- No mark is in a class of characters that has neither of the two. -/
theorem isMark_eq_false {p : Char → Bool} (query : p '?' = false) (fragment : p '#' = false)
    {c : Char} (h : p c) : isMark c = false := by
  cases mark : isMark c with
  | false => rfl
  | true =>
    simp only [isMark, Bool.or_eq_true, decide_eq_true_eq] at mark
    rcases mark with rfl | rfl
    · rw [query] at h
      cases h
    · rw [fragment] at h
      cases h

/-- The text has no mark. -/
def Unmarked (cs : List Char) : Prop := ∀ c ∈ cs, isMark c = false

instance (cs : List Char) : Decidable (Unmarked cs) := List.decidableBAll _ cs

variable {cs ds : List Char}

theorem unmarked_nil : Unmarked [] := fun _ hc => nomatch hc

theorem unmarked_append_iff : Unmarked (cs ++ ds) ↔ Unmarked cs ∧ Unmarked ds := by
  unfold Unmarked
  simp only [List.mem_append, or_imp, forall_and]

theorem unmarked_cons_iff {c : Char} : Unmarked (c :: cs) ↔ isMark c = false ∧ Unmarked cs :=
  List.forall_mem_cons

theorem Unmarked.subset (h : Unmarked cs) (sub : ds ⊆ cs) : Unmarked ds := fun c hc => h c (sub hc)

/-- A text without marks has neither of the two. -/
theorem Unmarked.not_mem (h : Unmarked cs) {c : Char} (mark : isMark c = true) : c ∉ cs := by
  intro member
  rw [h c member] at mark
  cases mark

/-- A text without characters that are refused has no mark, if the marks are refused. -/
theorem unmarked_of_any {p : Char → Bool} (query : p '?') (fragment : p '#')
    (h : ¬cs.any p) : Unmarked cs := by
  intro c hc
  have allowed : ¬p c := fun refused => h (List.any_eq_true.2 ⟨c, hc, refused⟩)
  exact isMark_eq_false (p := fun c => !p c) (by simp [query]) (by simp [fragment])
    (by simpa using allowed)

/-! ## Escaped parts -/

theorem isMark_of_isUpperHex {c : Char} (h : isUpperHex c) : isMark c = false :=
  isMark_eq_false (by decide) (by decide) h

/-- Escaping leaves no mark but those that the bytes have and that are kept. -/
theorem unmarked_percentEncodeBytes {keep : Char → Bool} {bytes : List UInt8}
    (h : ∀ b ∈ bytes, b.toNat < 128 → keep (Char.ofNat b.toNat) →
      isMark (Char.ofNat b.toNat) = false) :
    Unmarked (Text.percentEncodeBytes keep bytes) := by
  intro c hc
  obtain ⟨b, hb, hc⟩ := List.mem_flatMap.1 hc
  have bound : b.toNat < 256 := b.toNat_lt
  split at hc
  · rename_i kept
    obtain rfl := List.mem_singleton.1 hc
    simp only [Bool.and_eq_true, decide_eq_true_eq] at kept
    exact h b hb kept.1 kept.2
  · simp only [Text.escapeByte, List.mem_cons, List.not_mem_nil, or_false] at hc
    rcases hc with rfl | rfl | rfl
    · decide
    · exact isMark_of_isUpperHex (isUpperHex_hexDigit (by omega))
    · exact isMark_of_isUpperHex (isUpperHex_hexDigit (by omega))

namespace Url

theorem unmarked_escape {escaped : String} (query : '?' ∈ escaped.toList)
    (fragment : '#' ∈ escaped.toList) (cs : List Char) : Unmarked (escape escaped cs).toList := by
  rw [escape, String.toList_ofList]
  apply unmarked_percentEncodeBytes
  intro b _ _ kept
  refine isMark_eq_false ?_ ?_ kept
  · simp [keeping, query]
  · simp [keeping, fragment]

theorem unmarked_escape_path (cs : List Char) : Unmarked (escape pathEscapes cs).toList :=
  unmarked_escape (by decide) (by decide) cs

end Url

/-! ## Hosts -/

theorem Domain.Allowed.unmarked (h : Allowed cs) : Unmarked cs := fun c hc =>
  isMark_eq_false (p := fun c => !isForbidden c) (by decide) (by decide) (by simp [h c hc])

namespace Host

theorem Written.unmarked (h : Written cs) : Unmarked cs := by
  cases h with
  | plain _ h => exact h.unmarked
  | bracketed h =>
    rw [unmarked_cons_iff, unmarked_append_iff]
    refine ⟨by decide, fun c hc => ?_, by decide⟩
    rcases h c hc with plain | rfl
    · exact Domain.Allowed.unmarked (List.forall_mem_singleton.2 plain) c
        (List.mem_singleton_self c)
    · decide

/-- The text of a host that stays as it is has no mark either. -/
theorem unmarked_of_parseOpaque {cs : List Char} {host : Host}
    (h : Host.parseOpaque cs = .ok host) : Unmarked host.text.toList := by
  unfold Host.parseOpaque at h
  split at h
  · exact (written_of_parse h).unmarked
  · split at h
    · cases h
    · rename_i allowed
      obtain rfl := Except.ok.inj h
      rw [text, String.toList_ofList]
      apply unmarked_percentEncodeBytes
      intro b hb ascii _
      rw [Text.utf8, String.toList_ofList] at hb
      obtain ⟨c, hc, own⟩ := List.mem_flatMap.1 hb
      rw [← Text.eq_of_mem_utf8EncodeChar own ascii]
      exact unmarked_of_any (p := isForbiddenOpaque) (by decide) (by decide) allowed c hc

end Host

namespace Url

/-! ## User, password and host -/

/-- What is read before the path has no mark. -/
structure Authority.Clean (a : Authority) : Prop where
  username : Unmarked a.username.toList
  password : ∀ password ∈ a.password, Unmarked password.toList
  host : ∀ host ∈ a.host, Unmarked host.text.toList

theorem unmarked_empty : Unmarked "".toList := unmarked_nil

theorem Authority.Clean.ofHost {host : Host} (h : Unmarked host.text.toList) (port : Option Nat) :
    Authority.Clean ⟨"", none, some host, port⟩ where
  username := unmarked_empty
  password := fun _ none => nomatch none
  host := fun _ same => Option.some.inj same ▸ h

/-- User and password are escaped, the host is written as hosts are, and the port is none that is
left out. -/
structure Authority.Read (scheme : String) (a : Authority) : Prop where
  username : ∃ cs, a.username = escape userinfoEscapes cs
  password : ∀ password ∈ a.password, ∃ c cs, password = escape userinfoEscapes (c :: cs)
  host : ∃ host, a.host = some host ∧ Unmarked host.text.toList ∧
    (isSpecial scheme → Host.Written host.text.toList)
  port : ∀ port ∈ a.port, port ≤ 65535 ∧ defaultPort scheme ≠ some port

theorem unmarked_escape_userinfo (cs : List Char) :
    Unmarked (escape userinfoEscapes cs).toList :=
  unmarked_escape (by decide) (by decide) cs

theorem Authority.Read.clean {scheme : String} {a : Authority} (h : a.Read scheme) : a.Clean where
  username := by
    obtain ⟨cs, own⟩ := h.username
    exact own ▸ unmarked_escape_userinfo cs
  password := by
    intro password same
    obtain ⟨c, cs, rfl⟩ := h.password password same
    exact unmarked_escape_userinfo (c :: cs)
  host := by
    intro host same
    obtain ⟨found, own, clean, -⟩ := h.host
    obtain rfl := Option.some.inj (own.symm.trans same)
    exact clean

theorem exists_of_readUserinfo (cs : List Char) :
    (∃ user, (readUserinfo cs).1 = escape userinfoEscapes user) ∧
      ∀ password ∈ (readUserinfo cs).2,
        ∃ c rest, password = escape userinfoEscapes (c :: rest) := by
  unfold readUserinfo
  split
  · exact ⟨⟨_, rfl⟩, fun password same => ⟨_, _, (Option.some.inj same).symm⟩⟩
  · exact ⟨⟨_, rfl⟩, fun _ none => nomatch none⟩

/-- Reads host and port behind user and password. -/
def readHost (scheme : String) (hasUser : Bool) (username : String) (password : Option String)
    (cs : List Char) : Except UrlError (Authority × List Char) := do
  let (hostText, after) := splitHost false cs
  if isSpecial scheme && hostText.isEmpty then throw .emptyHost
  let host ← if isSpecial scheme then Host.parse hostText else Host.parseOpaque hostText
  if hostText.isEmpty then
    if hasUser || !after.isEmpty then throw .emptyHost
    pure (⟨username, password, some (.domain ""), none⟩, [])
  else
    let (port, rest) ← readPort scheme after
    pure (⟨username, password, some host, port⟩, rest)

theorem readAuthority_eq (scheme : String) (atEnd : Bool) (cs : List Char) :
    readAuthority scheme atEnd cs = match splitAtLast '@' cs with
      | none => readHost scheme false "" none cs
      | some ([], rest) =>
        if rest.isEmpty && !atEnd then .error .emptyHost else readHost scheme false "" none rest
      | some (info, rest) =>
        readHost scheme (!(readUserinfo info).1.isEmpty || (readUserinfo info).2.isSome)
          (readUserinfo info).1 (readUserinfo info).2 rest := by
  unfold readAuthority
  rcases splitAtLast '@' cs with _ | ⟨_ | ⟨c, info⟩, rest⟩
  · rfl
  · cases early : rest.isEmpty && !atEnd <;> simp only [early] <;> rfl
  · rfl

theorem bind_ok {α β : Type} {x : Except UrlError α} {next : α → Except UrlError β} {b : β}
    (h : x >>= next = .ok b) : ∃ a, x = .ok a ∧ next a = .ok b := by
  cases x with
  | error e => cases h
  | ok a => exact ⟨a, rfl, h⟩

theorem suffix_of_splitAtLast {mark : Char} {cs info rest : List Char}
    (h : splitAtLast mark cs = some (info, rest)) : rest <:+ cs := by
  unfold splitAtLast at h
  dsimp only at h
  split at h
  · cases h
  · obtain ⟨-, rfl⟩ := Prod.mk.inj (Option.some.inj h)
    rw [← List.reverse_prefix, List.reverse_reverse]
    exact List.takeWhile_prefix _

theorem suffix_of_splitHost (bracketed : Bool) (cs : List Char) :
    (splitHost bracketed cs).2 <:+ cs := by
  induction cs generalizing bracketed with
  | nil => exact List.suffix_rfl
  | cons c cs ih =>
    rw [splitHost]
    split
    · exact List.suffix_rfl
    · exact (ih _).trans (List.suffix_cons c cs)

/-- A port is a number of sixteen bits and not the default one. -/
theorem readPort_eq_ok {scheme : String} {cs rest : List Char} {port : Option Nat}
    (h : readPort scheme cs = .ok (port, rest)) :
    rest <:+ cs ∧ ∀ n ∈ port, n ≤ 65535 ∧ defaultPort scheme ≠ some n := by
  have nothing : ∀ n ∈ (none : Option Nat), n ≤ 65535 ∧ defaultPort scheme ≠ some n :=
    fun _ none => nomatch none
  unfold readPort at h
  split at h
  · rename_i digits
    dsimp only at h
    have behind : digits.dropWhile (· ≠ '\\') <:+ ':' :: digits :=
      (List.dropWhile_suffix _).trans (List.suffix_cons ':' digits)
    split at h
    · cases h
    · rename_i n _
      split at h
      · cases h
      · rename_i bound
        split at h
        · obtain ⟨rfl, rfl⟩ := Prod.mk.inj (Except.ok.inj h)
          exact ⟨behind, nothing⟩
        · rename_i other
          obtain ⟨rfl, rfl⟩ := Prod.mk.inj (Except.ok.inj h)
          refine ⟨behind, fun m same => ?_⟩
          obtain rfl := Option.some.inj same
          simp only [Bool.or_eq_true, decide_eq_true_eq, not_or] at other
          exact ⟨Nat.not_lt.1 bound, other.2⟩
  · obtain ⟨rfl, rfl⟩ := Prod.mk.inj (Except.ok.inj h)
    exact ⟨List.suffix_rfl, nothing⟩

/-- What comes of the path with a host was read with it. -/
theorem readHost_eq_ok {scheme : String} {hasUser : Bool} {username : String}
    {password : Option String} {cs : List Char} {found : Authority × List Char}
    (user : ∃ cs, username = escape userinfoEscapes cs)
    (secret : ∀ p ∈ password, ∃ c cs, p = escape userinfoEscapes (c :: cs))
    (h : readHost scheme hasUser username password cs = .ok found) :
    found.1.Read scheme ∧ found.2 <:+ cs := by
  -- The host is read by one of two readers; what follows it is the same.
  have after {host : Host} (clean : Unmarked host.text.toList)
      (written : isSpecial scheme → Host.Written host.text.toList)
      (required : isSpecial scheme → (splitHost false cs).1.isEmpty = false)
      (h : (if (splitHost false cs).1.isEmpty then do
          if hasUser || !(splitHost false cs).2.isEmpty then throw UrlError.emptyHost
          pure (⟨username, password, some (.domain ""), none⟩, [])
        else do
          let (port, rest) ← readPort scheme (splitHost false cs).2
          pure (⟨username, password, some host, port⟩, rest)) = Except.ok found) :
      found.1.Read scheme ∧ found.2 <:+ cs := by
    split at h
    · rename_i empty
      split at h
      · cases h
      · obtain rfl := Except.ok.inj h
        have hostless (special : isSpecial scheme) : Host.Written (Host.domain "").text.toList := by
          rw [required special] at empty
          cases empty
        exact ⟨⟨user, secret, ⟨_, rfl, unmarked_empty, hostless⟩, fun _ none => nomatch none⟩,
          List.nil_suffix⟩
    · obtain ⟨⟨port, rest⟩, read, h⟩ := bind_ok h
      obtain rfl := Except.ok.inj h
      obtain ⟨suffix, range⟩ := readPort_eq_ok read
      exact ⟨⟨user, secret, ⟨host, rfl, clean, written⟩, range⟩,
        suffix.trans (suffix_of_splitHost false cs)⟩
  unfold readHost at h
  dsimp only at h
  split at h
  · cases h
  · rename_i filled
    have required (special : isSpecial scheme) : (splitHost false cs).1.isEmpty = false := by
      simpa [special] using filled
    split at h
    · obtain ⟨host, read, h⟩ := bind_ok h
      have written := Host.written_of_parse read
      exact after written.unmarked (fun _ => written) required h
    · rename_i other
      obtain ⟨host, read, h⟩ := bind_ok h
      exact after (Host.unmarked_of_parseOpaque read) (fun special => absurd special other)
        required h

/-- What comes of the path with user, password and host was read with them. -/
theorem readAuthority_eq_ok {scheme : String} {atEnd : Bool} {cs : List Char}
    {found : Authority × List Char} (h : readAuthority scheme atEnd cs = .ok found) :
    found.1.Read scheme ∧ found.2 <:+ cs := by
  have nobody : ∃ cs, "" = escape userinfoEscapes cs := ⟨[], rfl⟩
  have nothing : ∀ p ∈ (none : Option String), ∃ c cs, p = escape userinfoEscapes (c :: cs) :=
    fun _ none => nomatch none
  rw [readAuthority_eq] at h
  split at h
  · exact readHost_eq_ok nobody nothing h
  · rename_i split
    split at h
    · cases h
    · exact (readHost_eq_ok nobody nothing h).imp_right (·.trans (suffix_of_splitAtLast split))
  · rename_i split
    obtain ⟨user, secret⟩ := exists_of_readUserinfo _
    exact (readHost_eq_ok user secret h).imp_right (·.trans (suffix_of_splitAtLast split))

/-! ## Paths -/

theorem unmarked_joinSegments {done : List String} (h : ∀ segment ∈ done, Unmarked segment.toList) :
    Unmarked (joinSegments done).toList := by
  have joined (path : String) (clean : Unmarked path.toList) :
      Unmarked (done.foldl (fun path segment => "/" ++ segment ++ path) path).toList := by
    induction done generalizing path with
    | nil => exact clean
    | cons segment done ih =>
      obtain ⟨first, others⟩ := List.forall_mem_cons.1 h
      apply ih others
      simp only [String.toList_append, unmarked_append_iff]
      exact ⟨⟨by decide, first⟩, clean⟩
  exact joined "" unmarked_empty

theorem forall_mem_parent {P : String → Prop} {done : List String}
    (h : ∀ segment ∈ done, P segment) :
    ∀ segment ∈ parent done, P segment := by
  cases done with
  | nil => exact h
  | cons segment above =>
    rw [parent]
    split
    · exact h
    · exact fun other member => h other (List.mem_cons_of_mem segment member)

/-- A segment that leads down stays as it is. -/
theorem eq_of_stepOf_down {segment written : List Char} (h : stepOf segment = .down written) :
    written = segment := by
  unfold stepOf at h
  split at h
  · cases h
  · cases h
  · exact (Step.down.inj h).symm

/-- What is true of an empty segment and of each that is entered is true of those that stand. -/
theorem forall_mem_walk {P : String → Prop} {enter : List String → List Char → String}
    {rest : List (List Char)} {done : List String} (empty : P "")
    (entered : ∀ done, ∀ segment ∈ rest, stepOf segment = .down segment → P (enter done segment))
    (h : ∀ segment ∈ done, P segment) : ∀ segment ∈ walk enter rest done, P segment := by
  fun_induction walk enter rest done with
  | case1 done => exact h
  | case2 last done up => exact List.forall_mem_cons.2 ⟨empty, forall_mem_parent h⟩
  | case3 last done stay => exact List.forall_mem_cons.2 ⟨empty, h⟩
  | case4 last done segment down =>
    obtain rfl := eq_of_stepOf_down down
    exact List.forall_mem_cons.2 ⟨entered done _ List.mem_cons_self down, h⟩
  | case5 segment rest done more up ih =>
    exact ih (fun done s hs => entered done s (List.mem_cons_of_mem _ hs)) (forall_mem_parent h)
  | case6 segment rest done more stay ih =>
    exact ih (fun done s hs => entered done s (List.mem_cons_of_mem _ hs)) h
  | case7 segment rest done more written down ih =>
    obtain rfl := eq_of_stepOf_down down
    exact ih (fun done s hs => entered done s (List.mem_cons_of_mem _ hs))
      (List.forall_mem_cons.2 ⟨entered done _ List.mem_cons_self down, h⟩)

theorem unmarked_pathOf (special : Bool) (cs : List Char) : Unmarked (pathOf special cs).toList :=
  unmarked_joinSegments (forall_mem_walk unmarked_empty
    (fun _ segment _ _ => unmarked_escape_path segment) fun _ none => nomatch none)

theorem unmarked_pathAfterHost (special : Bool) (cs : List Char) :
    Unmarked (pathAfterHost special cs).toList := by
  cases cs with
  | nil => cases special <;> decide
  | cons c rest =>
    rw [pathAfterHost]
    split
    · exact unmarked_pathOf special rest
    · exact unmarked_pathOf special (c :: rest)

theorem unmarked_enterFile (done : List String) (segment : List Char) :
    Unmarked (enterFile done segment).toList := by
  unfold enterFile
  split
  · rename_i letter mark
    split
    · rename_i drive
      have alpha : letter.isAlpha := by
        simp only [Bool.and_eq_true, isDriveLetter] at drive
        exact drive.2.1
      rw [String.toList_ofList, unmarked_cons_iff]
      exact ⟨isMark_eq_false (by decide) (by decide) alpha, by decide⟩
    · exact unmarked_escape_path _
  · exact unmarked_escape_path _

theorem unmarked_filePath (cs : List Char) : Unmarked (filePath cs).toList := by
  have segments : ∀ segment ∈ fileSegments cs, Unmarked segment.toList := by
    unfold fileSegments
    exact forall_mem_walk unmarked_empty (fun done segment _ _ => unmarked_enterFile done segment)
      fun _ none => nomatch none
  have joined := unmarked_joinSegments segments
  have slash : Unmarked "/".toList := by decide
  rw [filePath, String.toList_append, unmarked_append_iff]
  refine ⟨slash, ?_⟩
  rw [String.toList_ofList]
  exact joined.subset (List.dropWhile_sublist _).subset

/-! ## URLs -/

theorem isMark_toLower_of_isSchemeChar {c : Char} (h : isSchemeChar c) :
    isMark c.toLower = false := by
  have low : c.toNat < 128 := by
    simp only [isSchemeChar, Bool.or_eq_true, decide_eq_true_eq] at h
    rcases h with ((h | rfl) | rfl) | rfl
    · have range := Text.toNat_of_isAlphanum h
      omega
    · decide
    · decide
    · decide
  exact Text.of_ascii (P := fun c => isSchemeChar c → isMark c.toLower = false) (by decide) low h

theorem unmarked_of_splitScheme {cs rest : List Char} {scheme : String}
    (h : splitScheme cs = some (scheme, rest)) : Unmarked scheme.toList := by
  unfold splitScheme at h
  split at h
  · cases h
  · split at h
    · split at h
      · obtain ⟨rfl, -⟩ := Prod.mk.inj (Option.some.inj h)
        rw [String.toList_ofList]
        intro c hc
        obtain ⟨d, hd, rfl⟩ := List.mem_map.1 hc
        exact isMark_toLower_of_isSchemeChar (List.mem_takeWhile_imp hd)
      · cases h
    · cases h

/-- The parts before the query have no mark, and the fragment is escaped. -/
structure Clean (url : Url) : Prop where
  scheme : Unmarked url.scheme.toList
  username : Unmarked url.username.toList
  password : ∀ password ∈ url.password, Unmarked password.toList
  host : ∀ host ∈ url.host, Unmarked host.text.toList
  path : url.host.isSome → Unmarked url.path.toList
  fragment : ∀ fragment ∈ url.fragment, ∃ cs, fragment = escape fragmentEscapes cs

theorem clean_finish {scheme : String} {a : Authority} {readPath : List Char → String}
    (hs : Unmarked scheme.toList) (ha : a.Clean)
    (path : ∀ cs, a.host.isSome → Unmarked (readPath cs).toList) (cs : List Char) :
    (finish scheme a readPath cs).Clean where
  scheme := hs
  username := ha.username
  password := ha.password
  host := ha.host
  path := path _
  fragment := by
    intro fragment same
    obtain ⟨cs, -, rfl⟩ := Option.map_eq_some_iff.1 same
    exact ⟨cs, rfl⟩

theorem clean_of_afterSlashes {scheme : String} {cs : List Char} {url : Url}
    (hs : Unmarked scheme.toList) (h : afterSlashes scheme cs = .ok url) : url.Clean := by
  obtain ⟨found, read, h⟩ := bind_ok h
  obtain rfl := Except.ok.inj h
  exact clean_finish hs (readAuthority_eq_ok read).1.clean
    (fun cs _ => unmarked_pathAfterHost _ cs) _

theorem clean_noAuthority : noAuthority.Clean where
  username := unmarked_empty
  password := fun _ none => nomatch none
  host := fun _ none => nomatch none

theorem clean_fileAuthority {host : Host} (h : Unmarked host.text.toList) (rest : List Char) :
    (fileAuthority host rest).Clean := by
  unfold fileAuthority
  split
  · exact .ofHost (show Unmarked (Host.domain "").text.toList from unmarked_empty) none
  · exact .ofHost h none

theorem unmarked_of_fileHost {cs : List Char} {host : Host} (h : fileHost cs = .ok host) :
    Unmarked host.text.toList := by
  have empty : Unmarked (Host.domain "").text.toList := unmarked_empty
  unfold fileHost at h
  split at h
  · obtain rfl := Except.ok.inj h
    exact empty
  · cases read : Host.parse cs with
    | error e =>
      rw [read] at h
      cases h
    | ok found =>
      rw [read] at h
      obtain rfl := Except.ok.inj h
      dsimp only
      split
      · exact empty
      · exact (Host.written_of_parse read).unmarked

theorem clean_of_readFile {cs : List Char} {url : Url} (h : readFile cs = .ok url) :
    url.Clean := by
  have own {host : Host} (clean : Unmarked host.text.toList) (named rest : List Char) :
      (finish "file" (fileAuthority host named) filePath rest).Clean :=
    clean_finish (by decide) (clean_fileAuthority clean named) (fun cs _ => unmarked_filePath cs)
      rest
  have here := own (show Unmarked (Host.domain "").text.toList from unmarked_empty)
  unfold readFile at h
  dsimp only at h
  split at h
  · split at h
    · split at h
      · rw [← Except.ok.inj h]
        exact here _ _
      · obtain ⟨host, read, h⟩ := bind_ok h
        rw [← Except.ok.inj h]
        exact own (unmarked_of_fileHost read) _ _
    · rw [← Except.ok.inj h]
      exact here _ _
  · rw [← Except.ok.inj h]
    exact here _ _

theorem clean_of_readOther {scheme : String} {cs : List Char} {url : Url}
    (hs : Unmarked scheme.toList) (h : readOther scheme cs = .ok url) : url.Clean := by
  have hostless (readPath : List Char → String) (cs : List Char) :
      (finish scheme noAuthority readPath cs).Clean :=
    clean_finish hs clean_noAuthority (fun _ host => nomatch host) cs
  unfold readOther at h
  split at h
  · exact clean_of_afterSlashes hs h
  · rw [← Except.ok.inj h]
    exact hostless _ _
  · rw [← Except.ok.inj h]
    exact hostless _ _

/-- **No mark is before the query of a URL that was read.** -/
theorem clean_of_parse {s : String} {url : Url} (h : parse s = .ok url) : url.Clean := by
  unfold parse at h
  split at h
  · cases h
  · rename_i scheme rest found
    have hs := unmarked_of_splitScheme found
    split at h
    · exact clean_of_readFile h
    · split at h
      · exact clean_of_afterSlashes hs h
      · exact clean_of_readOther hs h

end Url

end CloudLifecycle
