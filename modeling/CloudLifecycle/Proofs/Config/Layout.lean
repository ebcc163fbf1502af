import CloudLifecycle.Proofs.Config.Required

/-!
# Layouts of an options document

The options of a cloud stand below the properties of the cloud section or in the cloud section
itself.  The sections of the registry and of the agent stand at the root or beside those options.
A `Layout` is a choice for each of them, and `Layout.Places` says that a document makes it: what
else the document has, and in which order, is left open.

A value that is no object counts as missing wherever a section is looked for.  So what is read
depends only on the values and not on their places (`Layout.Places.ofJson_eq`), and two documents
with the same values mean the same, or fail in the same way (`Config.ofJson_layouts`).
-/

set_option autoImplicit false

namespace CloudLifecycle.Config

/-- What an options document says: the name of a cloud, and what is given as its sections. -/
structure Contents where
  plugin : String
  options : Option Json
  registry : Option Json
  agent : Option Json

/-- The members of a value, if it is a section. -/
def sectionOf (value : Option Json) : Option ConfigSection := value.bind Json.fields?

/-- What a document with these contents is read as. -/
def Contents.read (contents : Contents) : Except ConfigError Config :=
  match Plugin.ofName? contents.plugin with
  | none => .error (.unknownPlugin contents.plugin)
  | some plugin => Sections.read {
      plugin
      options := (sectionOf contents.options).getD []
      registry := (sectionOf contents.registry).getD []
      agent := (sectionOf contents.agent).getD [] }

/-- Where a document has its sections. -/
structure Layout where
  /-- The options of the cloud are below its properties, and not in the cloud section itself. -/
  nested : Bool
  /-- The registry is at the root, and not beside the options. -/
  registryAtRoot : Bool
  agentAtRoot : Bool
deriving DecidableEq, Repr

section Places

variable {contents : Contents} {layout : Layout} {root cloud properties : ConfigSection}
  {key : String} {value : Option Json}

/-- The value stands under the key in one place, and in the other place there is no section. -/
def StandsIn (key : String) (value : Option Json) (place other : ConfigSection) : Prop :=
  place.lookup key = value ∧ section? other key = none

/-- A document with this root has the contents in this layout. -/
structure Layout.Places (layout : Layout) (contents : Contents)
    (root cloud properties : ConfigSection) : Prop where
  clouded : root.lookup "cloud" = some (.object cloud)
  named : cloud.lookup "plugin" = some (.text contents.plugin)
  form : if layout.nested then cloud.lookup "properties" = some (.object properties)
    else section? cloud "properties" = none ∧ properties = cloud
  options : properties.lookup contents.plugin = contents.options
  registry : if layout.registryAtRoot then StandsIn "registry" contents.registry root properties
    else StandsIn "registry" contents.registry properties root
  agent : if layout.agentAtRoot then StandsIn "agent" contents.agent root properties
    else StandsIn "agent" contents.agent properties root

/-- Of two places that are searched in turn, only the one with the value counts. -/
theorem sectionOf_of_standsIn {atRoot : Bool}
    (stands : if atRoot then StandsIn key value root properties
      else StandsIn key value properties root) :
    (section? root key).or (section? properties key) = sectionOf value := by
  cases atRoot with
  | true =>
    obtain ⟨here, absent⟩ := stands
    rw [absent, Option.or_none, section?, here, sectionOf]
  | false =>
    obtain ⟨here, absent⟩ := stands
    rw [absent, Option.none_or, section?, here, sectionOf]

theorem Layout.Places.properties_eq (places : layout.Places contents root cloud properties) :
    (section? cloud "properties").getD cloud = properties := by
  obtain ⟨nested, _, _⟩ := layout
  have form := places.form
  cases nested with
  | true =>
    have below : cloud.lookup "properties" = some (.object properties) := form
    rw [section?_eq, below]
    rfl
  | false =>
    obtain ⟨absent, rfl⟩ := form
    rw [absent]
    rfl

/-- **What a document is read as.**  Of the layout nothing is left. -/
theorem Layout.Places.ofJson_eq (places : layout.Places contents root cloud properties) :
    ofJson (.object root) = contents.read := by
  have here : section? root "cloud" = some cloud := by rw [section?_eq, places.clouded]
  have name : (cloud.lookup "plugin").bind Json.asText? = some contents.plugin := by
    rw [places.named]
    rfl
  have options : section? properties contents.plugin = sectionOf contents.options := by
    rw [section?, places.options, sectionOf]
  unfold ofJson sections Contents.read
  simp only [Json.fields?, here, name, places.properties_eq]
  cases Plugin.ofName? contents.plugin with
  | none => rfl
  | some plugin =>
    simp only [options, sectionOf_of_standsIn places.registry, sectionOf_of_standsIn places.agent]
    rfl

end Places

/-! ## A document of each layout -/

section Document

variable {contents : Contents}

/-- A member that is there if the value is. -/
def member (key : String) (value : Option Json) : ConfigSection := (value.map (key, ·)).toList

/-- A value that may be none, if this place is the one for it. -/
def placed (here : Bool) (value : Option Json) : Option Json := if here then value else none

/-- The registry and the agent, as far as they stand in this place. -/
def Layout.beside (layout : Layout) (contents : Contents) (atRoot : Bool) : ConfigSection :=
  member "registry" (placed (layout.registryAtRoot == atRoot) contents.registry) ++
    member "agent" (placed (layout.agentAtRoot == atRoot) contents.agent)

/-- The options and what stands beside them. -/
def Layout.properties (layout : Layout) (contents : Contents) : ConfigSection :=
  member contents.plugin contents.options ++ layout.beside contents false

/-- The cloud section. -/
def Layout.cloud (layout : Layout) (contents : Contents) : ConfigSection :=
  ("plugin", .text contents.plugin) ::
    if layout.nested then [("properties", .object (layout.properties contents))]
    else layout.properties contents

/-- The root of a document that has the contents in the layout, and nothing else. -/
def Layout.root (layout : Layout) (contents : Contents) : ConfigSection :=
  ("cloud", .object (layout.cloud contents)) :: layout.beside contents true

theorem lookup_member (key : String) (value : Option Json) (k : String) :
    (member key value).lookup k = if k = key then value else none := by
  cases value with
  | none => simp [member]
  | some value => simp [member, Dict.lookup_cons_if]

theorem lookup_beside_registry (layout : Layout) (contents : Contents) (atRoot : Bool) :
    (layout.beside contents atRoot).lookup "registry" =
      placed (layout.registryAtRoot == atRoot) contents.registry := by
  simp [Layout.beside, List.lookup_append, lookup_member]

theorem lookup_beside_agent (layout : Layout) (contents : Contents) (atRoot : Bool) :
    (layout.beside contents atRoot).lookup "agent" =
      placed (layout.agentAtRoot == atRoot) contents.agent := by
  simp [Layout.beside, List.lookup_append, lookup_member]

theorem lookup_beside_other (layout : Layout) (contents : Contents) (atRoot : Bool) {k : String}
    (registry : k ≠ "registry") (agent : k ≠ "agent") :
    (layout.beside contents atRoot).lookup k = none := by
  simp [Layout.beside, List.lookup_append, lookup_member, registry, agent]

theorem section?_of_lookup {fields : ConfigSection} {key : String}
    (absent : fields.lookup key = none) : section? fields key = none := by
  rw [section?_eq, absent]

/-- The name of a cloud is none of the keys that mean something else beside it. -/
theorem name_not_mem (plugin : Plugin) :
    plugin.name ∉ ["plugin", "properties", "registry", "agent"] := by
  cases plugin <;> decide

/-- The section with the options in it. -/
def Layout.place (layout : Layout) (contents : Contents) : ConfigSection :=
  if layout.nested then layout.properties contents else layout.cloud contents

theorem lookup_place (layout : Layout) (contents : Contents) {k : String} (other : k ≠ "plugin") :
    (layout.place contents).lookup k = (layout.properties contents).lookup k := by
  unfold Layout.place Layout.cloud
  cases layout.nested with
  | true => rfl
  | false =>
    simp only [Bool.false_eq_true, if_false]
    rw [Dict.lookup_cons_if, if_neg other]

/-- What stands at the root or else beside the options stands in one of these two places. -/
theorem standsIn_of_placed {key : String} {value : Option Json} {root place : ConfigSection}
    {atRoot : Bool} (above : root.lookup key = placed (atRoot == true) value)
    (beside : place.lookup key = placed (atRoot == false) value) :
    if atRoot then StandsIn key value root place else StandsIn key value place root := by
  cases atRoot with
  | true => exact ⟨above, section?_of_lookup beside⟩
  | false => exact ⟨beside, section?_of_lookup above⟩

/-- The contents have a document in each layout. -/
theorem Layout.places_root (layout : Layout)
    (own : contents.plugin ∉ ["plugin", "properties", "registry", "agent"]) :
    layout.Places contents (layout.root contents) (layout.cloud contents)
      (layout.place contents) := by
  simp only [List.mem_cons, List.not_mem_nil, or_false, not_or] at own
  obtain ⟨notPlugin, notProperties, notRegistry, notAgent⟩ := own
  have options : (layout.properties contents).lookup contents.plugin = contents.options := by
    rw [properties, List.lookup_append, lookup_member, if_pos rfl,
      lookup_beside_other _ _ _ notRegistry notAgent, Option.or_none]
  have beside {k : String} (other : contents.plugin ≠ k) :
      (layout.properties contents).lookup k = (layout.beside contents false).lookup k := by
    rw [properties, List.lookup_append, lookup_member, if_neg (Ne.symm other), Option.none_or]
  have above {k : String} (other : k ≠ "cloud") :
      (layout.root contents).lookup k = (layout.beside contents true).lookup k := by
    rw [root, Dict.lookup_cons_if, if_neg other]
  constructor
  case clouded => rw [root, Dict.lookup_cons_if, if_pos rfl]
  case named => rw [cloud, Dict.lookup_cons_if, if_pos rfl]
  case form =>
    cases nested : layout.nested with
    | true => simp [cloud, place, nested, Dict.lookup_cons_if]
    | false =>
      have absent : (layout.cloud contents).lookup "properties" = none := by
        simp only [cloud, nested, Bool.false_eq_true, if_false]
        rw [Dict.lookup_cons_if, if_neg (by decide), beside notProperties,
          lookup_beside_other _ _ _ (by decide) (by decide)]
      exact ⟨section?_of_lookup absent, by simp [place, nested]⟩
  case options => rw [lookup_place _ _ notPlugin, options]
  case registry =>
    refine standsIn_of_placed ?_ ?_
    · rw [above (by decide), lookup_beside_registry]
    · rw [lookup_place _ _ (by decide), beside notRegistry, lookup_beside_registry]
  case agent =>
    refine standsIn_of_placed ?_ ?_
    · rw [above (by decide), lookup_beside_agent]
    · rw [lookup_place _ _ (by decide), beside notAgent, lookup_beside_agent]

/-- The document of some contents in a layout is read as the contents say. -/
theorem Layout.ofJson_root (layout : Layout) (plugin : Plugin)
    (options registry agent : Option Json) :
    ofJson (.object (layout.root ⟨plugin.name, options, registry, agent⟩)) = Sections.read {
      plugin
      options := (sectionOf options).getD []
      registry := (sectionOf registry).getD []
      agent := (sectionOf agent).getD [] } := by
  rw [(layout.places_root (name_not_mem plugin)).ofJson_eq, Contents.read]
  simp only [ofName?_name]

end Document

/-! ## Two documents of the same contents -/

/-- **The layouts mean the same.**  What is given for a cloud, a registry and an agent is read as
the same configuration, or fails with the same error, in each of the layouts and whatever kinds of
values these are.  So it is in any two documents that have the same contents, whatever else is in
them. -/
theorem ofJson_layouts :
    (∀ (plugin : Plugin) (options registry agent : Option Json) (layout layout' : Layout),
      ofJson (.object (layout.root ⟨plugin.name, options, registry, agent⟩)) =
        ofJson (.object (layout'.root ⟨plugin.name, options, registry, agent⟩))) ∧
    ∀ {contents : Contents} {layout layout' : Layout}
      {root cloud properties root' cloud' properties' : ConfigSection},
      layout.Places contents root cloud properties →
        layout'.Places contents root' cloud' properties' →
          ofJson (.object root) = ofJson (.object root') := by
  constructor
  · intro plugin options registry agent layout layout'
    rw [layout.ofJson_root, layout'.ofJson_root]
  · intro contents layout layout' root cloud properties root' cloud' properties' places places'
    exact places.ofJson_eq.trans places'.ofJson_eq.symm

/-- Contents whose registry is no section. -/
def unregistered : Contents where
  plugin := "qingcloud"
  options := some (.object [("region", .text "pek3"), ("access_key_id", .text "a"),
    ("secret_access_key", .text "b")])
  registry := some (.text "none")
  agent := some (.object [("mbus", .text "nats")])

/-- A flat document of these contents, and one that a deployer has written. -/
theorem ofJson_layouts_deployer :
    ofJson (.object [
        ("cloud", .object [("plugin", .text "qingcloud"), ("registry", .text "none"),
          ("qingcloud", .object [("region", .text "pek3"), ("access_key_id", .text "a"),
            ("secret_access_key", .text "b")])]),
        ("agent", .object [("mbus", .text "nats")])]) =
      ofJson (.object [
        ("registry", .text "none"), ("name", .text "director"),
        ("cloud", .object [
          ("properties", .object [
            ("agent", .object [("mbus", .text "nats")]),
            ("qingcloud", .object [("region", .text "pek3"), ("access_key_id", .text "a"),
              ("secret_access_key", .text "b")])]),
          ("plugin", .text "qingcloud")])]) := by
  have flat {root cloud properties : ConfigSection} :=
    @Layout.Places.mk ⟨false, false, true⟩ unregistered root cloud properties
  have nested {root cloud properties : ConfigSection} :=
    @Layout.Places.mk ⟨true, true, false⟩ unregistered root cloud properties
  exact ofJson_layouts.2 (flat rfl rfl ⟨rfl, rfl⟩ rfl ⟨rfl, rfl⟩ ⟨rfl, rfl⟩)
    (nested rfl rfl rfl rfl ⟨rfl, rfl⟩ ⟨rfl, rfl⟩)

end CloudLifecycle.Config
