import CloudLifecycle.Config.Document
import CloudLifecycle.Proofs.Json.Records

/-!
# Required parameters

Which parameters an options document has to have is said twice: by the tables that are checked
first, and by the fields of the typed options.  `Fields.Requires` says of a description of fields
which parameters it can report as missing.  For the options of each cloud and of the registry these
are those of their table (`Plugin.noneMissing_readOptions`, `RegistryOptions.noneMissing_decoder`),
so after a check without a finding no field is missing (`Config.ofJson_missing_iff`).
-/

set_option autoImplicit false

namespace CloudLifecycle

open Json (toFieldTrees)

variable {α β : Type}

/-- No field is reported as missing. -/
def NoneMissing (outcome : Except DecodeError α) : Prop :=
  ∀ name, outcome ≠ .error (.missingField name)

section NoneMissing

variable {outcome : Except DecodeError α}

theorem noneMissing_ok (a : α) : NoneMissing (.ok a) := nofun

theorem NoneMissing.bind {f : α → Except DecodeError β} (h : NoneMissing outcome)
    (hf : ∀ a, outcome = .ok a → NoneMissing (f a)) : NoneMissing (outcome >>= f) := by
  cases outcome with
  | ok a => exact hf a rfl
  | error e =>
    rintro name same
    exact h name (congrArg Except.error (Except.error.inj same))

theorem NoneMissing.map {f : α → β} (h : NoneMissing outcome) : NoneMissing (outcome.map f) := by
  cases outcome with
  | ok a => exact noneMissing_ok _
  | error e =>
    rintro name same
    exact h name (congrArg Except.error (Except.error.inj same))

theorem noneMissing_mismatch (tree : Tree) (expected : String) :
    NoneMissing (.error (tree.mismatch expected) : Except DecodeError α) := by
  intro name same
  have same := Except.error.inj same
  cases tree <;> cases same

theorem noneMissing_enter (source : Source) : NoneMissing source.enter := by
  intro name
  rcases source with (_ | _) | _ <;> nofun

theorem noneMissing_ensureClosed (closed : Bool) : NoneMissing (Decoder.ensureClosed closed) := by
  intro name
  cases closed <;> nofun

end NoneMissing

namespace Decoder

variable {d : Decoder α}

/-- The decoder reads no record that could lack a field. -/
def Plain (d : Decoder α) : Prop := ∀ source tree, NoneMissing (d source tree)

theorem plain_text : text.Plain := by
  intro source tree
  unfold text
  split
  · exact noneMissing_ok _
  · exact noneMissing_mismatch _ _

theorem plain_word64 : word64.Plain := by
  intro source tree
  unfold word64 natural
  split
  · split
    · exact noneMissing_ok _
    · nofun
  · exact noneMissing_mismatch _ _

theorem Plain.optional (h : d.Plain) : d.optional.Plain := by
  intro source tree
  unfold Decoder.optional
  split
  · exact noneMissing_ok _
  · exact (h _ _).map

theorem Plain.list (h : d.Plain) : (list d).Plain := by
  have items (source : Source) (trees : List Tree) : NoneMissing (items d source trees) := by
    induction trees with
    | nil => exact noneMissing_ok _
    | cons tree trees ih =>
      exact (h _ _).bind fun _ _ => ih.bind fun _ _ => noneMissing_ok _
  intro source tree
  unfold Decoder.list
  split
  · exact (noneMissing_enter _).bind fun _ _ => (items _ _).bind fun _ _ =>
      (noneMissing_ensureClosed _).bind fun _ _ => noneMissing_ok _
  · exact noneMissing_mismatch _ _

theorem Plain.dict (h : d.Plain) : (dict d).Plain := by
  have values (source : Source) (fields : List (Option String × Tree)) :
      NoneMissing (fieldValues d source fields) := by
    induction fields with
    | nil => exact noneMissing_ok _
    | cons field fields ih =>
      obtain ⟨_ | key, tree⟩ := field
      · nofun
      · exact (h _ _).bind fun _ _ => ih.bind fun _ _ => noneMissing_ok _
  intro source tree
  unfold Decoder.dict
  split
  · exact (noneMissing_enter _).bind fun _ _ => (values _ _).bind fun _ _ =>
      (noneMissing_ensureClosed _).bind fun _ _ => noneMissing_ok _
  · exact noneMissing_mismatch _ _

end Decoder

namespace Fields

/-- Fields with these names, of which no more than these parameters can be missing, each only in an
object without a member under one of its spellings. -/
structure Requires (fields : Fields α) (names : List String) (required : List RequiredParameter) :
    Prop where
  names : fields.HasNames names
  taking {source : Source} {key : String} {tree : Tree} {state : fields.State}
      {result : Except DecodeError fields.State}
      (taken : fields.take source key tree state = some result) : NoneMissing result
  missing {source : Source} {entries : List (String × Json)} {state : fields.State} {name : String}
      (taken : fields.takeAll source (toFieldTrees entries) fields.start = .ok state)
      (finished : fields.finish state = .error (.missingField name)) :
      ∃ p ∈ required, ∀ member ∈ entries, member.1 ∉ p.spellings

section Field

variable {name : String} {aliases : List String} {d : Decoder α} {absent beyond : Option α}
  {source : Source} {entries : List (String × Json)}

theorem noneMissing_take (h : d.Plain) {key : String} {tree : Tree}
    {state : (field name aliases d absent beyond).State}
    {result : Except DecodeError (field name aliases d absent beyond).State}
    (taken : (field name aliases d absent beyond).take source key tree state = some result) :
    NoneMissing result := by
  simp only [field] at taken
  split at taken
  · obtain rfl := Option.some.inj taken
    split
    · intro name same
      cases same
    · exact (h _ _).map
  · cases taken

/-- A value that has been decoded stays. -/
theorem eq_some_of_takeAll {a : α} {state : Option α}
    (taken : (field name aliases d absent beyond).takeAll source (toFieldTrees entries) (some a) =
      .ok state) : state = some a := by
  induction entries with
  | nil => exact (Except.ok.inj taken).symm
  | cons member rest ih =>
    obtain ⟨next, passed | ⟨_, rfl⟩, taken⟩ := takeAll_cons_eq_ok_iff.1 taken
    · simp only [field] at passed
      split at passed <;> cases passed
    · exact ih taken

/-- Without a value after all members, none of them has a name of the field. -/
theorem not_mem_of_takeAll
    (taken : (field name aliases d absent beyond).takeAll source (toFieldTrees entries) none =
      .ok none) : ∀ member ∈ entries, member.1 ∉ name :: aliases := by
  induction entries with
  | nil => exact nofun
  | cons member rest ih =>
    obtain ⟨next, passed | ⟨other, rfl⟩, taken⟩ := takeAll_cons_eq_ok_iff.1 taken
    · cases next with
      | none =>
        simp only [field] at passed
        split at passed
        · cases decoded : d source member.2.toTree <;> rw [decoded] at passed <;> cases passed
        · cases passed
      | some a => cases eq_some_of_takeAll taken
    · refine List.forall_mem_cons.2 ⟨fun own => ?_, ih taken⟩
      exact (hasNames_field name aliases d absent beyond).take_ne_none own _ _ other

theorem requires_required (h : d.Plain) (name : String) (aliases : List String) :
    (required name d aliases).Requires (name :: aliases) [⟨name, name :: aliases⟩] where
  names := hasNames_field name aliases d none none
  taking := noneMissing_take h
  missing {source entries state n} taken finished := by
    cases state with
    | none => exact ⟨_, List.mem_singleton_self _, not_mem_of_takeAll taken⟩
    | some a => cases finished

/-- A field with a value for when it is missing. -/
theorem requires_default (h : d.Plain) (name : String) (aliases : List String) (value : α)
    (beyond : Option α) :
    (field name aliases d (some value) beyond).Requires (name :: aliases) [] where
  names := hasNames_field name aliases d (some value) beyond
  taking := noneMissing_take h
  missing {source entries state n} taken finished := by cases state <;> cases finished

theorem requires_withDefault (h : d.Plain) (name : String) (aliases : List String) (value : α) :
    (withDefault name d value aliases).Requires (name :: aliases) [] :=
  requires_default h name aliases value _

theorem requires_maybe (h : d.Plain) (name : String) : (maybe name d).Requires [name] [] :=
  requires_default h.optional name [] none _

end Field

variable {f : Fields (α → β)} {x : Fields α} {names more : List String}
  {required further : List RequiredParameter}

theorem Requires.map (h : x.Requires names required) (g : α → β) :
    (g <$> x).Requires names required where
  names := h.names
  taking := h.taking
  missing {source entries state n} taken finished := by
    have taken : (x.map g).takeAll source (toFieldTrees entries) x.start = .ok state := taken
    have finished : (x.finish state).map g = .error (.missingField n) := finished
    rw [takeAll_map] at taken
    cases made : x.finish state with
    | ok a =>
      rw [made] at finished
      cases finished
    | error e =>
      rw [made] at finished
      obtain rfl := Except.error.inj finished
      exact h.missing taken made

theorem Requires.seq (hf : f.Requires names required) (hx : x.Requires more further)
    (disjoint : ∀ key ∈ names, key ∉ more) :
    (f <*> x).Requires (names ++ more) (required ++ further) where
  names := hasNames_seq hf.names hx.names
  taking {source key tree state result} taken := by
    have taken : (f.seq x).take source key tree state = some result := taken
    simp only [Fields.seq] at taken
    split at taken
    · rename_i own
      obtain rfl := Option.some.inj taken
      exact (hf.taking own).map
    · obtain ⟨_, own, rfl⟩ := Option.map_eq_some_iff.1 taken
      exact (hx.taking own).map
  missing {source entries state n} taken finished := by
    obtain ⟨first, second⟩ := (takeAll_seq_iff hf.names hx.names disjoint).1 taken
    have finished : (do
        let g ← f.finish state.1
        let a ← x.finish state.2
        pure (g a)) = .error (.missingField n) := finished
    cases made : f.finish state.1 with
    | error e =>
      rw [made] at finished
      obtain rfl := Except.error.inj finished
      obtain ⟨p, hp, absent⟩ := hf.missing first made
      exact ⟨p, List.mem_append_left _ hp, absent⟩
    | ok g =>
      rw [made] at finished
      cases last : x.finish state.2 with
      | error e =>
        rw [last] at finished
        obtain rfl := Except.error.inj finished
        obtain ⟨p, hp, absent⟩ := hx.missing second last
        exact ⟨p, List.mem_append_right _ hp, absent⟩
      | ok a =>
        rw [last] at finished
        cases finished

section Record

variable {fields : Fields α} {entries : List (String × Json)}

/-- The object has a member for each parameter. -/
def Has (entries : List (String × Json)) (required : List RequiredParameter) : Prop :=
  ∀ p ∈ required, ∃ member ∈ entries, member.1 ∈ p.spellings

theorem Requires.noneMissing_takeAll (h : fields.Requires names required) (source : Source)
    (parts : List (Option String × Tree)) (state : fields.State) :
    NoneMissing (fields.takeAll source parts state) := by
  induction parts generalizing state with
  | nil => exact noneMissing_ok _
  | cons part parts ih =>
    obtain ⟨_ | key, tree⟩ := part
    · nofun
    · unfold takeAll
      split
      · exact ih _
      · rename_i own
        exact fun name same => h.taking own name (congrArg Except.error (Except.error.inj same))
      · split
        · exact ih _
        · nofun

theorem Requires.noneMissing_takeKnown (h : fields.Requires names required) (state : fields.State)
    (others : List (String × Json)) :
    NoneMissing (fields.takeKnown .value (toFieldTrees entries) state others) := by
  induction entries generalizing state others with
  | nil => exact noneMissing_ok _
  | cons member entries ih =>
    obtain ⟨key, value⟩ := member
    unfold toFieldTrees takeKnown
    split
    · exact ih _ _
    · rename_i own
      exact fun name same => h.taking own name (congrArg Except.error (Except.error.inj same))
    · have read : Decoder.any .value value.toTree = .ok value.sorted := Decoder.any_toTree trivial
      rw [read]
      exact ih _ _

theorem Requires.noneMissing_finish (h : fields.Requires names required)
    (has : Has entries required) {source : Source} {state : fields.State}
    (taken : fields.takeAll source (toFieldTrees entries) fields.start = .ok state) :
    NoneMissing (fields.finish state) := by
  intro name finished
  obtain ⟨p, hp, absent⟩ := h.missing taken finished
  obtain ⟨member, hm, own⟩ := has p hp
  exact absent member hm own

theorem Requires.noneMissing_record (h : fields.Requires names required)
    (has : Has entries required) (name : String) :
    NoneMissing ((Decoder.record name fields).fromJson (.object entries)) := by
  refine (noneMissing_enter .value).bind fun inner _ => ?_
  refine (h.noneMissing_takeAll inner _ _).bind fun state taken => ?_
  exact (noneMissing_ensureClosed _).bind fun _ _ => h.noneMissing_finish has taken

/-- Fields with defaults are never missing among those that another record did not know. -/
theorem Requires.noneMissing_ofOthers (h : fields.Requires names [])
    (others : List (String × Json)) : NoneMissing (Decoder.ofOthers fields others) :=
  (h.noneMissing_takeAll _ _ _).bind fun _ taken => h.noneMissing_finish nofun taken

theorem Requires.noneMissing_openRecord {fields : Fields (β → α)}
    (h : fields.Requires names required) (has : Has entries required)
    {rest : List (String × Json) → Except DecodeError β}
    (plain : ∀ others, NoneMissing (rest others)) (name : String) :
    NoneMissing ((Decoder.openRecord name fields rest).fromJson (.object entries)) := by
  refine NoneMissing.bind (noneMissing_enter .value) fun inner entered => ?_
  obtain rfl : Source.value = inner := Except.ok.inj entered
  refine (h.noneMissing_takeKnown _ _).bind fun result taken => ?_
  refine (noneMissing_ensureClosed _).bind fun _ _ => ?_
  have readable : ∀ member ∈ entries, Source.value.Allows member.2.depth := fun _ _ => trivial
  obtain ⟨known, _⟩ := (h.names.takeKnown_eq_ok_iff readable).1 taken
  refine (h.noneMissing_finish has known).bind fun make _ => ?_
  exact (plain _).bind fun _ _ => noneMissing_ok _

end Record

end Fields

/-! ## The tables of required parameters -/

open Fields Decoder

namespace CommonOptions

theorem requires_fields : ∃ names, fields.Requires names [] :=
  ⟨_, ((((requires_maybe plain_text _).map _).seq
    (requires_withDefault plain_text.list _ _ _) (by decide)).seq
    (requires_withDefault plain_word64 _ _ _) (by decide)).seq
    (requires_withDefault plain_word64 _ _ _) (by decide)⟩

theorem noneMissing_others (others : List (String × Json)) :
    NoneMissing (Decoder.ofOthers fields others) := by
  obtain ⟨names, requires⟩ := requires_fields
  exact requires.noneMissing_ofOthers others

end CommonOptions

theorem HwCloudOptions.requires_settingsFields : settingsFields.Requires
    ["url", "access_key_id", "HWSAccessKeyId", "secret_key", "key", "Key", "region_name",
      "RegionName", "version", "Version", "signature_method", "SignatureMethod",
      "signature_version", "SignatureVersion"] (Plugin.required .hwcloud) :=
  (((((((requires_required plain_text "url" []).map _).seq
    (requires_required plain_text "access_key_id" ["HWSAccessKeyId"]) (by decide)).seq
    (requires_required plain_text "secret_key" ["key", "Key"]) (by decide)).seq
    (requires_required plain_text "region_name" ["RegionName"]) (by decide)).seq
    (requires_withDefault plain_text "version" ["Version"] _) (by decide)).seq
    (requires_withDefault plain_text "signature_method" ["SignatureMethod"] _) (by decide)).seq
    (requires_withDefault plain_text "signature_version" ["SignatureVersion"] _) (by decide)

namespace Plugin

variable {entries : List (String × Json)}

/-- **The options of a cloud.**  No field is missing where each parameter of the table is there. -/
theorem noneMissing_readOptions {plugin : Plugin} (has : Has entries plugin.required) :
    NoneMissing (plugin.readOptions (.object entries)) := by
  cases plugin with
  | qingcloud =>
    have region := (requires_required plain_text "region" ["zone"]).map QingCloudOptions.mk
    have requires := (((region.seq
      (requires_required plain_text "access_key_id" []) (by decide)).seq
      (requires_required plain_text "secret_access_key" []) (by decide)).seq
      (requires_maybe plain_text "endpoint") (by decide)).seq
      (requires_maybe plain_text.list.dict "instance_types") (by decide)
    exact (requires.noneMissing_openRecord has CommonOptions.noneMissing_others _).map
  | hwcloud =>
    have settings := HwCloudOptions.requires_settingsFields.map HwCloudOptions.mk
    have requires := (settings.seq
      (requires_maybe plain_text "availability_zone") (by decide)).seq
      (requires_maybe plain_text.list "instance_types") (by decide)
    exact (requires.noneMissing_openRecord has CommonOptions.noneMissing_others _).map

end Plugin

theorem RegistryOptions.noneMissing_decoder {entries : List (String × Json)}
    (has : Has entries RequiredParameter.registry) :
    NoneMissing (RegistryOptions.decoder.fromJson (.object entries)) :=
  ((((requires_required plain_text "endpoint" []).map RegistryOptions.mk).seq
    (requires_required plain_text "user" []) (by decide)).seq
    (requires_required plain_text "password" []) (by decide)).noneMissing_record has _

/-! ## Options documents -/

namespace RequiredParameter

/-- A section has a value for the parameter that is not null, under one of its spellings. -/
def Given (parameter : RequiredParameter) (fields : ConfigSection) : Prop :=
  ∃ spelling ∈ parameter.spellings, ∃ value, fields.lookup spelling = some value ∧ value ≠ .null

theorem isGiven_iff {parameter : RequiredParameter} {fields : ConfigSection} :
    parameter.isGiven fields = true ↔ parameter.Given fields := by
  unfold isGiven Given
  rw [List.any_eq_true]
  refine exists_congr fun spelling => and_congr_right fun _ => ?_
  cases fields.lookup spelling with
  | none => simp
  | some value => cases value <;> simp

instance (parameter : RequiredParameter) (fields : ConfigSection) :
    Decidable (parameter.Given fields) := decidable_of_iff _ isGiven_iff

/-- Under the name of a section, the parameters for which it has no value. -/
def lacking (sectionName : String) (fields : ConfigSection) (table : List RequiredParameter) :
    List String :=
  (table.filter fun p => ¬p.Given fields).map fun p => sectionName ++ ":" ++ p.name

theorem missing_eq_lacking (sectionName : String) (fields : ConfigSection)
    (table : List RequiredParameter) : missing sectionName fields table =
      lacking sectionName fields table := by
  unfold missing lacking
  congr 2
  funext p
  simp [← isGiven_iff]

theorem has_of_lacking {sectionName : String} {fields : ConfigSection}
    {table : List RequiredParameter} (none : lacking sectionName fields table = []) :
    Has fields table := by
  intro p hp
  rw [lacking, List.map_eq_nil_iff, List.filter_eq_nil_iff] at none
  obtain ⟨spelling, own, value, held, _⟩ : p.Given fields := by simpa using none p hp
  exact ⟨_, Dict.mem_of_lookup held, own⟩

end RequiredParameter

namespace Config

variable {root cloud : ConfigSection} {plugin : Plugin}

/-- Options stand below the properties of the cloud section if these are an object, and else below
the cloud section itself. -/
def propertiesOf (cloud : ConfigSection) : ConfigSection :=
  match cloud.lookup "properties" with
  | some (.object properties) => properties
  | _ => cloud

/-- The section of a cloud, which is empty if there is none. -/
def optionsOf (cloud : ConfigSection) (plugin : Plugin) : ConfigSection :=
  match (propertiesOf cloud).lookup plugin.name with
  | some (.object options) => options
  | _ => []

/-- The section of the registry at the root, or else beside the options of the cloud. -/
def registryOf (root cloud : ConfigSection) : ConfigSection :=
  match root.lookup "registry" with
  | some (.object registry) => registry
  | _ =>
    match (propertiesOf cloud).lookup "registry" with
    | some (.object registry) => registry
    | _ => []

/-- All that a document lacks, in the order of the tables. -/
def lacking (root cloud : ConfigSection) (plugin : Plugin) : List String :=
  RequiredParameter.lacking plugin.name (optionsOf cloud plugin) plugin.required ++
    RequiredParameter.lacking "registry" (registryOf root cloud) RequiredParameter.registry

/-- What is read under a key is the object there. -/
theorem section?_eq (fields : ConfigSection) (key : String) : section? fields key =
    match fields.lookup key with
    | some (.object members) => some members
    | _ => none := by
  unfold section?
  cases fields.lookup key with
  | none => rfl
  | some value => cases value <;> rfl

theorem ofName?_name (plugin : Plugin) : Plugin.ofName? plugin.name = some plugin := by
  cases plugin <;> rfl

theorem sections_eq (clouded : root.lookup "cloud" = some (.object cloud))
    (named : cloud.lookup "plugin" = some (.text plugin.name)) :
    ∃ agent, sections (.object root) =
      .ok ⟨plugin, optionsOf cloud plugin, registryOf root cloud, agent⟩ := by
  have properties : (section? cloud "properties").getD cloud = propertiesOf cloud := by
    rw [section?_eq, propertiesOf]
    split <;> rfl
  have options : (section? (propertiesOf cloud) plugin.name).getD [] = optionsOf cloud plugin := by
    rw [section?_eq, optionsOf]
    split <;> rfl
  have registry : ((section? root "registry").or
      (section? (propertiesOf cloud) "registry")).getD [] = registryOf root cloud := by
    rw [section?_eq, section?_eq, registryOf]
    split
    · rfl
    · split <;> rfl
  have here : section? root "cloud" = some cloud := by
    rw [section?_eq, clouded]
  have name : (cloud.lookup "plugin").bind Json.asText? = some plugin.name := by
    rw [named]
    rfl
  refine ⟨((section? root "agent").or (section? (propertiesOf cloud) "agent")).getD [], ?_⟩
  unfold sections
  simp only [Json.fields?, here, name, properties, ofName?_name, options, registry]
  rfl

namespace Sections

variable {s : Sections}

theorem missing_eq (s : Sections) : s.missing =
    RequiredParameter.lacking s.plugin.name s.options s.plugin.required ++
      RequiredParameter.lacking "registry" s.registry RequiredParameter.registry := by
  simp only [missing, RequiredParameter.missing_eq_lacking]

theorem read_of_missing (some : s.missing ≠ []) :
    s.read = .error (.missingParameters s.missing) := by
  have some : (!s.missing.isEmpty) = true := by simpa using some
  unfold read
  rw [if_pos some]
  rfl

/-- Where sections that lack no parameter cannot be read, no field is missing. -/
theorem read_of_complete (none : s.missing = []) :
    (∃ config, s.read = .ok config) ∨
      ∃ e, s.read = .error (.json e) ∧ ∀ name, e ≠ .missingField name := by
  have lacks := none
  rw [missing_eq, List.append_eq_nil_iff] at lacks
  have options := Plugin.noneMissing_readOptions (RequiredParameter.has_of_lacking lacks.1)
  have registry := RegistryOptions.noneMissing_decoder (RequiredParameter.has_of_lacking lacks.2)
  unfold read
  rw [none]
  cases readOptions : s.plugin.readOptions (.object s.options) with
  | error e =>
    exact .inr ⟨e, rfl, fun name same => options name (readOptions.trans (congrArg _ same))⟩
  | ok cloud =>
    cases readRegistry : RegistryOptions.decoder.fromJson (.object s.registry) with
    | error e =>
      exact .inr ⟨e, rfl, fun name same => registry name (readRegistry.trans (congrArg _ same))⟩
    | ok registry => exact .inl ⟨_, rfl⟩

end Sections

/-- **Configuration checks.**  A document of a cloud is refused for missing parameters exactly if it
lacks some, and then all of them are named.  If it lacks none, no field is missing either when its
sections are read. -/
theorem ofJson_missing_iff (clouded : root.lookup "cloud" = some (.object cloud))
    (named : cloud.lookup "plugin" = some (.text plugin.name)) :
    (∀ names, ofJson (.object root) = .error (.missingParameters names) ↔
      names = lacking root cloud plugin ∧ names ≠ []) ∧
    (lacking root cloud plugin = [] →
      ∀ name, ofJson (.object root) ≠ .error (.json (.missingField name))) := by
  obtain ⟨agent, selected⟩ := sections_eq clouded named
  have read : ofJson (.object root) = Sections.read
      ⟨plugin, optionsOf cloud plugin, registryOf root cloud, agent⟩ := by
    unfold ofJson
    rw [selected]
    rfl
  have missing : Sections.missing ⟨plugin, optionsOf cloud plugin, registryOf root cloud, agent⟩ =
      lacking root cloud plugin := Sections.missing_eq _
  generalize (⟨plugin, optionsOf cloud plugin, registryOf root cloud, agent⟩ : Sections) = s
    at read missing
  rw [read, ← missing]
  by_cases none : s.missing = []
  · rcases Sections.read_of_complete none with ⟨config, finished⟩ | ⟨e, failed, present⟩
    · rw [finished, none]
      exact ⟨fun names => ⟨nofun, fun h => absurd h.1 h.2⟩, fun _ => nofun⟩
    · rw [failed, none]
      refine ⟨fun names => ⟨nofun, fun h => absurd h.1 h.2⟩, fun _ name same => ?_⟩
      exact present name (ConfigError.json.inj (Except.error.inj same))
  · rw [Sections.read_of_missing none]
    refine ⟨fun names => ?_, fun complete => absurd complete none⟩
    constructor
    · intro same
      obtain rfl := ConfigError.missingParameters.inj (Except.error.inj same)
      exact ⟨rfl, none⟩
    · rintro ⟨rfl, _⟩
      rfl

/-- A document with a value of null, an alias and a registry beside the options of the cloud. -/
def sketch : ConfigSection := [("cloud", .object [("plugin", .text "hwcloud"),
  ("properties", .object [
    ("hwcloud", .object [("url", .null), ("Key", .text "secret"), ("RegionName", .text "r-1")]),
    ("registry", .object [("endpoint", .text "http://127.0.0.1:25777")])])])]

/-- A document with all parameters, of which one has the wrong type. -/
def complete : ConfigSection := [("cloud", .object [("plugin", .text "qingcloud"),
  ("qingcloud", .object [("zone", .whole 3), ("access_key_id", .text "id"),
    ("secret_access_key", .text "secret")])]),
  ("registry", .object [("endpoint", .text "http://127.0.0.1:25777"), ("user", .text "admin"),
    ("password", .text "admin")])]

theorem ofJson_missing_sketch :
    ofJson (.object sketch) = .error (.missingParameters
      ["hwcloud:url", "hwcloud:access_key_id", "registry:user", "registry:password"]) ∧
    ∀ name, ofJson (.object complete) ≠ .error (.json (.missingField name)) :=
  ⟨((ofJson_missing_iff rfl rfl : _ ∧ (lacking sketch _ .hwcloud = [] → _)).1 _).2
    ⟨by decide, nofun⟩,
  (ofJson_missing_iff rfl rfl : _ ∧ (lacking complete _ .qingcloud = [] → _)).2 (by decide)⟩

end Config

end CloudLifecycle
