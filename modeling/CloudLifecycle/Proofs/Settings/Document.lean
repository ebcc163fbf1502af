import CloudLifecycle.Proofs.Json.Records
import CloudLifecycle.Settings.Document

/-!
# Settings that are read, changed and written back

The documents of agents are kept as JSON.  A document that is written and read again is the same
(`AgentSettings.recovers`), in whatever order its fields come back, and a document that was read
keeps all that it does not know: the other keys of the document, of its network entries and of their
cloud properties (`AgentSettings.survives_rewriting`).  Nothing else that is unknown is written.
-/

set_option autoImplicit false

namespace CloudLifecycle

open Fields

namespace Json

/-- The value at a path of keys. -/
def reach? : List String → Json → Option Json
  | [], value => some value
  | key :: path, value => (value.member? key).bind (reach? path)

theorem reach?_cons (key : String) (path : List String) (value : Json) :
    reach? (key :: path) value = (value.member? key).bind (reach? path) := rfl

@[simp] theorem reach?_singleton (key : String) : reach? [key] = member? key := by
  funext value
  rw [reach?_cons]
  cases value.member? key <;> rfl

@[simp] theorem lookup_fieldIf (key k : String) (value : Option Json) :
    (fieldIf key value).lookup k = if k = key then value else none := by
  cases value with
  | none => simp [fieldIf]
  | some value => rw [fieldIf, Dict.lookup_cons_if, List.lookup_nil]

@[simp] theorem lookup_listIf (key k : String) (items : List String) :
    (listIf key items).lookup k =
      if k = key then if items.isEmpty then none else some (texts items) else none := by
  unfold listIf
  split
  · simp
  · rw [Dict.lookup_cons_if, List.lookup_nil]

theorem keys_fieldIf (key : String) (value : Option Json) :
    ((fieldIf key value).map (·.1)).Sublist [key] := by
  cases value with
  | none => exact List.nil_sublist _
  | some value => exact List.Sublist.refl _

theorem keys_listIf (key : String) (items : List String) :
    ((listIf key items).map (·.1)).Sublist [key] := by
  unfold listIf
  split
  · exact List.nil_sublist _
  · exact List.Sublist.refl _

theorem distinct_texts (items : List String) : (texts items).Distinct := by
  refine distinctItems_iff.2 fun item hm => ?_
  obtain ⟨s, _, rfl⟩ := List.mem_map.1 hm
  trivial

theorem distinct_text? {s? : Option String} : ∀ v, s?.map Json.text = some v → v.Distinct := by
  intro v hv
  obtain ⟨s, _, rfl⟩ := Option.map_eq_some_iff.1 hv
  trivial

section Record

variable {own : List (String × Json)} {names : List String} {extra : Dict Json} {k : String}

/-- Typed fields followed by the kept ones have different keys. -/
theorem distinctKeys_append (typed : (own.map (·.1)).Sublist names) (once : names.Nodup)
    (fresh : ∀ k ∈ names, extra.find? k = none) : Dict.DistinctKeys (own ++ extra.entries) := by
  unfold Dict.DistinctKeys
  rw [List.map_append]
  refine List.Nodup.append (once.sublist typed) extra.nodup_keys fun k hk kept => ?_
  obtain ⟨v, found⟩ := Dict.mem_keys_iff.1 kept
  rw [fresh k (typed.subset hk)] at found
  cases found

theorem lookup_append_own (fresh : ∀ k ∈ names, extra.find? k = none) (hk : k ∈ names) :
    (own ++ extra.entries).lookup k = own.lookup k := by
  have absent : extra.entries.lookup k = none := fresh k hk
  rw [List.lookup_append, absent, Option.or_none]

theorem lookup_append_other (typed : (own.map (·.1)).Sublist names) (hk : k ∉ names) :
    (own ++ extra.entries).lookup k = extra.find? k := by
  rw [List.lookup_append, Dict.lookup_eq_none_iff.2 fun member => hk (typed.subset member),
    Option.none_or]
  rfl

/-- **A record with kept fields in any order.**  Of a value with the members of such a record, each
typed field is what it is among the typed ones, and the other ones are those that are kept. -/
theorem exists_kept_members (typed : (own.map (·.1)).Sublist names) (once : names.Nodup)
    (h : Extend extra names) {v : Json} {source : Source} (distinct : v.Distinct)
    (same : v.sorted = (Json.object (own ++ extra.entries)).sorted)
    (readable : source.Allows v.depth) :
    ∃ entries inner, v = .object entries ∧ Dict.DistinctKeys entries ∧ source.enter = .ok inner ∧
      (∀ {β : Type} {d : Decoder β} {absent : Option β} {name : String} {b : β}, name ∈ names →
        Encodes d absent (own.lookup name) b → FieldIs d absent inner (entries.lookup name) b) ∧
      extra = Dict.ofList (others names entries) := by
  obtain ⟨entries, inner, rfl, keys, entered, field, members⟩ :=
    exists_members (distinctKeys_append typed once h.fresh) distinct same readable
  refine ⟨entries, inner, rfl, keys, entered, fun hk encodes => field ?_, ?_⟩
  · rw [lookup_append_own h.fresh hk]
    exact encodes
  · refine (ofList_others h keys fun k hk => ?_).symm
    rw [members, lookup_append_other typed hk]

/-- No object within a record has a key twice, if it is so for its typed fields. -/
theorem distinct_record (typed : (own.map (·.1)).Sublist names) (once : names.Nodup)
    (h : Extend extra names) (each : ∀ field ∈ own, field.2.Distinct) :
    (Json.object (own ++ extra.entries)).Distinct := by
  refine distinct_object_iff.2 ⟨distinctKeys_append typed once h.fresh, fun field hf => ?_⟩
  rcases List.mem_append.1 hf with hf | hf
  · exact each field hf
  · exact distinct_of_ordered (h.ordered field.2 (List.mem_map.2 ⟨field, hf, rfl⟩))

end Record

theorem forall_fieldIf {P : Json → Prop} {key : String} {value : Option Json}
    (h : ∀ v, value = some v → P v) : ∀ field ∈ fieldIf key value, P field.2 := by
  cases value with
  | none => exact fun _ hf => nomatch hf
  | some v =>
    intro field hf
    rw [fieldIf, List.mem_singleton] at hf
    rw [hf]
    exact h v rfl

theorem forall_listIf {P : Json → Prop} {key : String} {items : List String}
    (h : P (texts items)) : ∀ field ∈ listIf key items, P field.2 := by
  unfold listIf
  split
  · exact fun _ hf => nomatch hf
  · intro field hf
    rw [List.mem_singleton] at hf
    rw [hf]
    exact h

end Json

namespace NetworkCloudProperties

def fieldNames : List String := ["net_id", "security_groups", "router_id", "subnet"]

/-- Cloud properties are read from the members of an object. -/
theorem decoder_eq_ok_iff {source : Source} {entries : List (String × Json)}
    (distinct : Dict.DistinctKeys entries) (allowed : source.Allows (Json.object entries).depth)
    {p : NetworkCloudProperties} :
    decoder source (Json.object entries).toTree = .ok p ↔ ∃ inner, source.enter = .ok inner ∧
      FieldIs Decoder.text.optional (some none) inner (entries.lookup "net_id") p.netId ∧
      FieldIs (Decoder.list Decoder.text) (some []) inner (entries.lookup "security_groups")
        p.securityGroups ∧
      FieldIs Decoder.text.optional (some none) inner (entries.lookup "router_id") p.routerId ∧
      FieldIs Decoder.text.optional (some none) inner (entries.lookup "subnet") p.subnet ∧
      p.extra = Dict.ofList (others fieldNames entries) := by
  refine (Decoder.withExtras_eq_ok_iff (((((describes_field _ _ _ _).map _).seq
    (describes_field _ _ _ _) (by decide)).seq (describes_field _ _ _ _) (by decide)).seq
    (describes_field _ _ _ _) (by decide)) distinct allowed).trans ?_
  constructor
  · rintro ⟨inner, _, entered, ⟨_, _, ⟨_, _, ⟨_, _, ⟨_, netId, rfl⟩, groups, rfl⟩, router, rfl⟩,
      subnet, rfl⟩, rfl⟩
    exact ⟨inner, entered, netId, groups, router, subnet, rfl⟩
  · rintro ⟨inner, entered, netId, groups, router, subnet, extra⟩
    refine ⟨inner, _, entered, ⟨_, _, ⟨_, _, ⟨_, _, ⟨_, netId, rfl⟩, groups, rfl⟩, router, rfl⟩,
      subnet, rfl⟩, ?_⟩
    obtain ⟨_, _, _, _, _⟩ := p
    subst extra
    rfl

variable {p : NetworkCloudProperties}

/-- The fields that are written of the typed ones. -/
def typed (p : NetworkCloudProperties) : List (String × Json) :=
  Json.fieldIf "net_id" (p.netId.map .text) ++ Json.listIf "security_groups" p.securityGroups
    ++ Json.fieldIf "router_id" (p.routerId.map .text) ++ Json.fieldIf "subnet" (p.subnet.map .text)

theorem keys_typed (p : NetworkCloudProperties) : (p.typed.map (·.1)).Sublist fieldNames := by
  unfold typed
  simp only [List.map_append]
  exact (((Json.keys_fieldIf _ _).append (Json.keys_listIf _ _)).append
    (Json.keys_fieldIf _ _)).append (Json.keys_fieldIf _ _)

/-- **Cloud properties are read as they were written**, in any order of their fields. -/
theorem recovers (h : Extend p.extra fieldNames) : decoder.Recovers p.toJson p := by
  intro source v whole same readable
  obtain ⟨entries, inner, rfl, distinct, entered, field, kept⟩ :=
    Json.exists_kept_members p.keys_typed (by decide) h whole same readable
  refine (decoder_eq_ok_iff distinct readable).2 ⟨inner, entered, field (by decide) ?_,
    field (by decide) ?_, field (by decide) ?_, field (by decide) ?_, kept⟩
  · simpa [typed, List.lookup_append] using encodes_text p.netId
  · simpa [typed, List.lookup_append] using encodes_listIf p.securityGroups
  · simpa [typed, List.lookup_append] using encodes_text p.routerId
  · simpa [typed, List.lookup_append] using encodes_text p.subnet

theorem distinct_toJson (h : Extend p.extra fieldNames) : p.toJson.Distinct := by
  refine Json.distinct_record p.keys_typed (by decide) h ?_
  show ∀ field ∈ p.typed, field.2.Distinct
  simp only [typed, List.forall_mem_append]
  exact ⟨⟨⟨Json.forall_fieldIf Json.distinct_text?, Json.forall_listIf (Json.distinct_texts _)⟩,
    Json.forall_fieldIf Json.distinct_text?⟩, Json.forall_fieldIf Json.distinct_text?⟩

/-- Of cloud properties that were read, what is not known is written back. -/
theorem kept_of_decoder {value : Json} (ordered : value.Ordered)
    (h : decoder .value value.toTree = .ok p) :
    Extend p.extra fieldNames ∧ ∀ k ∉ fieldNames, p.toJson.member? k = value.member? k := by
  obtain ⟨entries, rfl⟩ := Decoder.object_of_withExtras h
  have distinct := (Json.distinct_object_iff.1 (Json.distinct_of_ordered ordered)).1
  have readable : Source.value.Allows (Json.object entries).depth := trivial
  obtain ⟨_, _, _, _, _, _, extra⟩ := (decoder_eq_ok_iff distinct readable).1 h
  refine ⟨extra ▸ extend_others distinct, fun k hk => ?_⟩
  show (p.typed ++ p.extra.entries).lookup k = entries.lookup k
  rw [Json.lookup_append_other p.keys_typed hk, extra, find?_others_of_ordered ordered hk]

end NetworkCloudProperties

namespace NetworkEntry

def fieldNames : List String :=
  ["type", "ip", "netmask", "gateway", "dns", "default", "cloud_properties"]

/-- The kept fields of an entry and of its cloud properties do not pass for typed ones. -/
structure WellFormed (e : NetworkEntry) : Prop where
  extra : Extend e.extra fieldNames
  cloud : Extend e.cloudProperties.extra NetworkCloudProperties.fieldNames

/-- A network entry is read from the members of an object. -/
theorem decoder_eq_ok_iff {source : Source} {entries : List (String × Json)}
    (distinct : Dict.DistinctKeys entries) (allowed : source.Allows (Json.object entries).depth)
    {e : NetworkEntry} :
    decoder source (Json.object entries).toTree = .ok e ↔ ∃ inner, source.enter = .ok inner ∧
      FieldIs Decoder.text.optional (some none) inner (entries.lookup "type") e.kind ∧
      FieldIs Decoder.text.optional (some none) inner (entries.lookup "ip") e.ip ∧
      FieldIs Decoder.text.optional (some none) inner (entries.lookup "netmask") e.netmask ∧
      FieldIs Decoder.text.optional (some none) inner (entries.lookup "gateway") e.gateway ∧
      FieldIs (Decoder.list Decoder.text).optional (some none) inner (entries.lookup "dns") e.dns ∧
      FieldIs (Decoder.list Decoder.text) (some []) inner (entries.lookup "default") e.defaults ∧
      FieldIs NetworkCloudProperties.decoder (some .empty) inner (entries.lookup "cloud_properties")
        e.cloudProperties ∧
      e.extra = Dict.ofList (others fieldNames entries) := by
  refine (Decoder.withExtras_eq_ok_iff ((((((((describes_field _ _ _ _).map _).seq
    (describes_field _ _ _ _) (by decide)).seq (describes_field _ _ _ _) (by decide)).seq
    (describes_field _ _ _ _) (by decide)).seq (describes_field _ _ _ _) (by decide)).seq
    (describes_field _ _ _ _) (by decide)).seq (describes_field _ _ _ _) (by decide))
    distinct allowed).trans ?_
  constructor
  · rintro ⟨inner, _, entered, ⟨_, _, ⟨_, _, ⟨_, _, ⟨_, _, ⟨_, _, ⟨_, _, ⟨_, kind, rfl⟩, ip, rfl⟩,
      netmask, rfl⟩, gateway, rfl⟩, dns, rfl⟩, defaults, rfl⟩, cloud, rfl⟩, rfl⟩
    exact ⟨inner, entered, kind, ip, netmask, gateway, dns, defaults, cloud, rfl⟩
  · rintro ⟨inner, entered, kind, ip, netmask, gateway, dns, defaults, cloud, extra⟩
    refine ⟨inner, _, entered, ⟨_, _, ⟨_, _, ⟨_, _, ⟨_, _, ⟨_, _, ⟨_, _, ⟨_, kind, rfl⟩, ip, rfl⟩,
      netmask, rfl⟩, gateway, rfl⟩, dns, rfl⟩, defaults, rfl⟩, cloud, rfl⟩, ?_⟩
    obtain ⟨_, _, _, _, _, _, _, _⟩ := e
    subst extra
    rfl

variable {e : NetworkEntry}

/-- The fields that are written of the typed ones. -/
def typed (e : NetworkEntry) : List (String × Json) :=
  Json.fieldIf "type" (e.kind.map .text) ++ Json.fieldIf "ip" (e.ip.map .text)
    ++ Json.fieldIf "netmask" (e.netmask.map .text) ++ Json.fieldIf "gateway" (e.gateway.map .text)
    ++ Json.fieldIf "dns" (e.dns.map Json.texts) ++ Json.listIf "default" e.defaults
    ++ Json.fieldIf "cloud_properties" (some e.cloudProperties.toJson)

theorem keys_typed (e : NetworkEntry) : (e.typed.map (·.1)).Sublist fieldNames := by
  unfold typed
  simp only [List.map_append]
  exact ((((((Json.keys_fieldIf _ _).append (Json.keys_fieldIf _ _)).append
    (Json.keys_fieldIf _ _)).append (Json.keys_fieldIf _ _)).append (Json.keys_fieldIf _ _)).append
    (Json.keys_listIf _ _)).append (Json.keys_fieldIf _ _)

/-- **A network entry is read as it was written**, in any order of its fields. -/
theorem recovers (h : e.WellFormed) : decoder.Recovers e.toJson e := by
  intro source v whole same readable
  obtain ⟨entries, inner, rfl, distinct, entered, field, kept⟩ :=
    Json.exists_kept_members e.keys_typed (by decide) h.extra whole same readable
  refine (decoder_eq_ok_iff distinct readable).2 ⟨inner, entered, field (by decide) ?_,
    field (by decide) ?_, field (by decide) ?_, field (by decide) ?_, field (by decide) ?_,
    field (by decide) ?_, field (by decide) ?_, kept⟩
  · simpa [typed, List.lookup_append] using encodes_text e.kind
  · simpa [typed, List.lookup_append] using encodes_text e.ip
  · simpa [typed, List.lookup_append] using encodes_text e.netmask
  · simpa [typed, List.lookup_append] using encodes_text e.gateway
  · have servers : Encodes (Decoder.list Decoder.text).optional (some none)
        (e.dns.map Json.texts) e.dns :=
      encodes_maybe fun items _ => ⟨Decoder.recovers_texts items, nofun⟩
    simpa [typed, List.lookup_append] using servers
  · simpa [typed, List.lookup_append] using encodes_listIf e.defaults
  · have found : e.typed.lookup "cloud_properties" = some e.cloudProperties.toJson := by
      simp [typed, List.lookup_append]
    rw [found]
    exact NetworkCloudProperties.recovers h.cloud

theorem distinct_toJson (h : e.WellFormed) : e.toJson.Distinct := by
  refine Json.distinct_record e.keys_typed (by decide) h.extra ?_
  show ∀ field ∈ e.typed, field.2.Distinct
  simp only [typed, List.forall_mem_append]
  have servers : ∀ v, e.dns.map Json.texts = some v → v.Distinct := by
    intro v hv
    obtain ⟨items, _, rfl⟩ := Option.map_eq_some_iff.1 hv
    exact Json.distinct_texts items
  have cloud : ∀ v, some e.cloudProperties.toJson = some v → v.Distinct := by
    rintro _ ⟨⟩
    exact NetworkCloudProperties.distinct_toJson h.cloud
  have text {s? : Option String} {key : String} :
      ∀ field ∈ Json.fieldIf key (s?.map .text), field.2.Distinct :=
    Json.forall_fieldIf Json.distinct_text?
  exact ⟨⟨⟨⟨⟨⟨text, text⟩, text⟩, text⟩, Json.forall_fieldIf servers⟩,
    Json.forall_listIf (Json.distinct_texts _)⟩, Json.forall_fieldIf cloud⟩

theorem member?_cloudProperties (h : e.WellFormed) :
    e.toJson.member? "cloud_properties" = some e.cloudProperties.toJson := by
  show (e.typed ++ e.extra.entries).lookup "cloud_properties" = _
  rw [Json.lookup_append_own h.extra.fresh (by decide)]
  simp [typed, List.lookup_append]

/-- Of a network entry that was read, what is not known is written back. -/
theorem kept_of_decoder {value : Json} (ordered : value.Ordered)
    (h : decoder .value value.toTree = .ok e) :
    e.WellFormed ∧ (∀ k ∉ fieldNames, e.toJson.member? k = value.member? k) ∧
      ∀ k ∉ NetworkCloudProperties.fieldNames,
        e.toJson.reach? ["cloud_properties", k] = value.reach? ["cloud_properties", k] := by
  obtain ⟨entries, rfl⟩ := Decoder.object_of_withExtras h
  have distinct := (Json.distinct_object_iff.1 (Json.distinct_of_ordered ordered)).1
  have readable : Source.value.Allows (Json.object entries).depth := trivial
  obtain ⟨_, entered, _, _, _, _, _, _, cloud, extra⟩ := (decoder_eq_ok_iff distinct readable).1 h
  obtain rfl := Except.ok.inj entered
  have cloud : Extend e.cloudProperties.extra NetworkCloudProperties.fieldNames ∧
      ∀ k ∉ NetworkCloudProperties.fieldNames, e.cloudProperties.toJson.member? k =
        (entries.lookup "cloud_properties").bind (Json.member? k) := by
    cases held : entries.lookup "cloud_properties" with
    | none =>
      rw [held] at cloud
      have none : NetworkCloudProperties.empty = e.cloudProperties := Option.some.inj cloud
      rw [← none]
      exact ⟨⟨fun _ _ => rfl, fun _ hv => nomatch hv⟩, fun _ _ => rfl⟩
    | some properties =>
      rw [held] at cloud
      have inner := (Json.ordered_object_iff.1 ordered).2 _ (Dict.mem_of_lookup held)
      exact NetworkCloudProperties.kept_of_decoder inner cloud
  have whole : e.WellFormed := ⟨extra ▸ extend_others distinct, cloud.1⟩
  refine ⟨whole, fun k hk => ?_, fun k hk => ?_⟩
  · show (e.typed ++ e.extra.entries).lookup k = entries.lookup k
    rw [Json.lookup_append_other e.keys_typed hk, extra, find?_others_of_ordered ordered hk]
  · rw [Json.reach?_cons, member?_cloudProperties whole, Json.reach?_cons, Json.reach?_singleton]
    exact cloud.2 k hk

end NetworkEntry

namespace NetworkSpec

variable {spec : NetworkSpec}

def WellFormed (spec : NetworkSpec) : Prop := ∀ e ∈ spec.values, NetworkEntry.WellFormed e

theorem recovers (h : spec.WellFormed) : decoder.Recovers spec.toJson spec :=
  Decoder.recovers_dict fun e he => NetworkEntry.recovers (h e he)

theorem distinct_toJson (h : spec.WellFormed) : spec.toJson.Distinct := by
  refine Json.distinct_object_iff.2 ⟨Dict.nodup_keys _, fun field hf => ?_⟩
  obtain ⟨entry, he, rfl⟩ := List.mem_map.1 hf
  exact NetworkEntry.distinct_toJson (h entry.2 (List.mem_map.2 ⟨entry, he, rfl⟩))

theorem member?_toJson (spec : NetworkSpec) (name : String) :
    spec.toJson.member? name = (spec.find? name).map NetworkEntry.toJson :=
  Dict.find?_mapValues _ spec name

/-- Of networks that were read, each entry keeps what is not known of it. -/
theorem kept_of_decoder {value : Json} (ordered : value.Ordered)
    (h : decoder .value value.toTree = .ok spec) :
    spec.WellFormed ∧
      (∀ name, ∀ k ∉ NetworkEntry.fieldNames,
        spec.toJson.reach? [name, k] = value.reach? [name, k]) ∧
      ∀ name, ∀ k ∉ NetworkCloudProperties.fieldNames,
        spec.toJson.reach? [name, "cloud_properties", k] =
          value.reach? [name, "cloud_properties", k] := by
  obtain ⟨fields, _, rfl, _⟩ := Decoder.dict_eq_ok_iff.1 h
  have distinct := (Json.distinct_object_iff.1 (Json.distinct_of_ordered ordered)).1
  obtain ⟨_, entered, related⟩ := Decoder.rel_find?_of_dict distinct h
  obtain rfl := Except.ok.inj entered
  have each (name : String) : (fields.lookup name = none ∧ spec.find? name = none) ∨
      ∃ member e, fields.lookup name = some member ∧ spec.find? name = some e ∧
        NetworkEntry.decoder .value member.toTree = .ok e := by
    have related := related name
    generalize fields.lookup name = member?, spec.find? name = e? at related
    cases related with
    | none => exact .inl ⟨rfl, rfl⟩
    | some read => exact .inr ⟨_, _, rfl, rfl, read⟩
  have kept {name : String} {member : Json} {e : NetworkEntry}
      (held : fields.lookup name = some member)
      (read : NetworkEntry.decoder .value member.toTree = .ok e) :=
    NetworkEntry.kept_of_decoder ((Json.ordered_object_iff.1 ordered).2 _ (Dict.mem_of_lookup held))
      read
  refine ⟨fun e he => ?_, fun name k hk => ?_, fun name k hk => ?_⟩
  · obtain ⟨name, found⟩ := Dict.mem_values_iff.1 he
    rcases each name with ⟨_, none⟩ | ⟨member, _, held, some, read⟩
    · rw [none] at found
      cases found
    · rw [some] at found
      obtain rfl := Option.some.inj found
      exact (kept held read).1
  · rw [Json.reach?_cons, Json.reach?_cons, member?_toJson, Json.reach?_singleton, Json.member?]
    rcases each name with ⟨missing, none⟩ | ⟨member, e, held, some, read⟩
    · rw [missing, none]
      rfl
    · rw [held, some]
      exact (kept held read).2.1 k hk
  · rw [Json.reach?_cons, Json.reach?_cons, member?_toJson, Json.member?]
    rcases each name with ⟨missing, none⟩ | ⟨member, e, held, some, read⟩
    · rw [missing, none]
      rfl
    · rw [held, some]
      exact (kept held read).2.2 k hk

end NetworkSpec

namespace DiskSettings

def fieldNames : List String := ["system", "ephemeral", "persistent"]

/-- The fields that are written. -/
def typed (disks : DiskSettings) : List (String × Json) :=
  Json.fieldIf "system" (some (.text disks.system)) ++
    Json.fieldIf "ephemeral" (disks.ephemeral.map .text) ++
    Json.fieldIf "persistent" (some (Json.ofDict (disks.persistent.mapValues .text)))

theorem keys_typed (disks : DiskSettings) : (disks.typed.map (·.1)).Sublist fieldNames := by
  unfold typed
  simp only [List.map_append]
  exact ((Json.keys_fieldIf _ _).append (Json.keys_fieldIf _ _)).append (Json.keys_fieldIf _ _)

/-- **The disks are read as they were written**, in any order of their fields. -/
theorem recovers (disks : DiskSettings) : decoder.Recovers disks.toJson disks := by
  intro source v whole same readable
  have once : Dict.DistinctKeys disks.typed :=
    List.Nodup.sublist disks.keys_typed (by decide)
  obtain ⟨entries, inner, rfl, distinct, entered, field, members⟩ :=
    Json.exists_members once whole same readable
  refine (Decoder.record_eq_ok_iff ((((describes_field _ _ _ _).map _).seq
    (describes_field _ _ _ _) (by decide)).seq (describes_field _ _ _ _) (by decide)) distinct).2
    ⟨inner, entered, _, _, ⟨_, _, ⟨_, field ?_, rfl⟩, field ?_, rfl⟩, field ?_, rfl⟩
  · have found : disks.typed.lookup "system" = some (.text disks.system) := by
      simp [typed, List.lookup_append]
    rw [found]
    exact Decoder.recovers_text disks.system
  · simpa [typed, List.lookup_append] using encodes_text disks.ephemeral
  · have found : disks.typed.lookup "persistent" =
        some (Json.ofDict (disks.persistent.mapValues .text)) := by
      simp [typed, List.lookup_append]
    rw [found]
    exact Decoder.recovers_dict fun device _ => Decoder.recovers_text device

theorem distinct_toJson (disks : DiskSettings) : disks.toJson.Distinct := by
  refine Json.distinct_object_iff.2 ⟨List.Nodup.sublist disks.keys_typed (by decide), ?_⟩
  show ∀ field ∈ disks.typed, field.2.Distinct
  simp only [typed, List.forall_mem_append]
  have devices : (Json.ofDict (disks.persistent.mapValues .text)).Distinct := by
    refine Json.distinct_object_iff.2 ⟨Dict.nodup_keys _, fun field hf => ?_⟩
    obtain ⟨entry, _, rfl⟩ := List.mem_map.1 hf
    trivial
  refine ⟨⟨Json.forall_fieldIf ?_, Json.forall_fieldIf Json.distinct_text?⟩, Json.forall_fieldIf ?_⟩
  · rintro _ ⟨⟩
    trivial
  · rintro _ ⟨⟩
    exact devices

end DiskSettings

namespace AgentSettings

/-- The document keeps its keys apart: the environment is no `null`, and no kept field of the
document, of its network entries or of their cloud properties passes for a typed one. -/
structure WellFormed (s : AgentSettings) : Prop where
  env : ∀ v, s.env = some v → v ≠ .null ∧ v.Ordered
  extra : Extend s.extra reservedKeys
  networks : s.networks.WellFormed

/-- The settings of an agent are read from the members of an object. -/
theorem decoder_eq_ok_iff {source : Source} {entries : List (String × Json)}
    (distinct : Dict.DistinctKeys entries) (allowed : source.Allows (Json.object entries).depth)
    {s : AgentSettings} :
    decoder source (Json.object entries).toTree = .ok s ↔ ∃ inner, source.enter = .ok inner ∧
      FieldIs vmDecoder none inner (entries.lookup "vm") s.vmName ∧
      FieldIs Decoder.text none inner (entries.lookup "agent_id") s.agentId ∧
      FieldIs NetworkSpec.decoder (some Dict.empty) inner (entries.lookup "networks") s.networks ∧
      FieldIs DiskSettings.decoder (some .initial) inner (entries.lookup "disks") s.disks ∧
      FieldIs Decoder.any.optional (some none) inner (entries.lookup "env") s.env ∧
      s.extra = Dict.ofList (others reservedKeys entries) := by
  refine (Decoder.withExtras_eq_ok_iff ((((((describes_field _ _ _ _).map _).seq
    (describes_field _ _ _ _) (by decide)).seq (describes_field _ _ _ _) (by decide)).seq
    (describes_field _ _ _ _) (by decide)).seq (describes_field _ _ _ _) (by decide))
    distinct allowed).trans ?_
  constructor
  · rintro ⟨inner, _, entered,
      ⟨_, _, ⟨_, _, ⟨_, _, ⟨_, _, ⟨_, vm, rfl⟩, agent, rfl⟩, networks, rfl⟩, disks, rfl⟩, env, rfl⟩,
      rfl⟩
    exact ⟨inner, entered, vm, agent, networks, disks, env, rfl⟩
  · rintro ⟨inner, entered, vm, agent, networks, disks, env, extra⟩
    refine ⟨inner, _, entered,
      ⟨_, _, ⟨_, _, ⟨_, _, ⟨_, _, ⟨_, vm, rfl⟩, agent, rfl⟩, networks, rfl⟩, disks, rfl⟩, env, rfl⟩,
      ?_⟩
    obtain ⟨_, _, _, _, _, _⟩ := s
    subst extra
    rfl

variable {s : AgentSettings}

/-- The fields that are written of the typed ones. -/
def typed (s : AgentSettings) : List (String × Json) :=
  Json.fieldIf "vm" (some (.object [("name", .text s.vmName)]))
    ++ Json.fieldIf "agent_id" (some (.text s.agentId))
    ++ Json.fieldIf "networks" (some s.networks.toJson)
    ++ Json.fieldIf "disks" (some s.disks.toJson) ++ Json.fieldIf "env" s.env

theorem keys_typed (s : AgentSettings) : (s.typed.map (·.1)).Sublist reservedKeys := by
  unfold typed
  simp only [List.map_append]
  exact ((((Json.keys_fieldIf _ _).append (Json.keys_fieldIf _ _)).append
    (Json.keys_fieldIf _ _)).append (Json.keys_fieldIf _ _)).append (Json.keys_fieldIf _ _)

theorem recovers_vm (name : String) : vmDecoder.Recovers (.object [("name", .text name)]) name := by
  intro source v whole same readable
  have once : Dict.DistinctKeys [("name", Json.text name)] := List.nodup_singleton _
  obtain ⟨entries, inner, rfl, distinct, entered, field, members⟩ :=
    Json.exists_members once whole same readable
  refine (Decoder.record_eq_ok_iff (describes_field _ _ _ _) distinct).2 ⟨inner, entered, field ?_⟩
  rw [Dict.lookup_cons_if, if_pos rfl]
  exact Decoder.recovers_text name

/-- **Settings are read as they were written**, in any order of their fields. -/
theorem recovers (h : s.WellFormed) : decoder.Recovers s.toJson s := by
  intro source v whole same readable
  obtain ⟨entries, inner, rfl, distinct, entered, field, kept⟩ :=
    Json.exists_kept_members s.keys_typed (by decide) h.extra whole same readable
  refine (decoder_eq_ok_iff distinct readable).2 ⟨inner, entered, field (by decide) ?_,
    field (by decide) ?_, field (by decide) ?_, field (by decide) ?_, field (by decide) ?_, kept⟩
  · have found : s.typed.lookup "vm" = some (.object [("name", .text s.vmName)]) := by
      simp [typed, List.lookup_append]
    rw [found]
    exact recovers_vm s.vmName
  · have found : s.typed.lookup "agent_id" = some (.text s.agentId) := by
      simp [typed, List.lookup_append]
    rw [found]
    exact Decoder.recovers_text s.agentId
  · have found : s.typed.lookup "networks" = some s.networks.toJson := by
      simp [typed, List.lookup_append]
    rw [found]
    exact NetworkSpec.recovers h.networks
  · have found : s.typed.lookup "disks" = some s.disks.toJson := by
      simp [typed, List.lookup_append]
    rw [found]
    exact s.disks.recovers
  · have found : s.typed.lookup "env" = s.env.map id := by
      simp [typed, List.lookup_append]
    rw [found]
    refine encodes_maybe fun v hv => ⟨?_, (h.env v hv).1⟩
    have read := Decoder.recovers_any v
    rwa [Json.sorted_of_ordered (h.env v hv).2] at read

theorem distinct_toJson (h : s.WellFormed) : s.toJson.Distinct := by
  refine Json.distinct_record s.keys_typed (by decide) h.extra ?_
  show ∀ field ∈ s.typed, field.2.Distinct
  simp only [typed, List.forall_mem_append]
  refine ⟨⟨⟨⟨Json.forall_fieldIf ?_, Json.forall_fieldIf ?_⟩, Json.forall_fieldIf ?_⟩,
    Json.forall_fieldIf ?_⟩, Json.forall_fieldIf ?_⟩
  · rintro _ ⟨⟩
    exact Json.distinct_object_iff.2 ⟨List.nodup_singleton _, by simp [Json.Distinct]⟩
  · rintro _ ⟨⟩
    trivial
  · rintro _ ⟨⟩
    exact NetworkSpec.distinct_toJson h.networks
  · rintro _ ⟨⟩
    exact s.disks.distinct_toJson
  · intro v hv
    exact Json.distinct_of_ordered (h.env v hv).2

theorem member?_typed (h : s.WellFormed) {k : String} (hk : k ∈ reservedKeys) :
    s.toJson.member? k = s.typed.lookup k :=
  Json.lookup_append_own h.extra.fresh hk

/-- Of settings that were read, what is not known is written back. -/
theorem kept_of_decoder {value : Json} (ordered : value.Ordered)
    (h : decoder .value value.toTree = .ok s) :
    s.WellFormed ∧ (∀ k ∉ reservedKeys, s.toJson.member? k = value.member? k) ∧
      (∀ name, ∀ k ∉ NetworkEntry.fieldNames,
        s.toJson.reach? ["networks", name, k] = value.reach? ["networks", name, k]) ∧
      ∀ name, ∀ k ∉ NetworkCloudProperties.fieldNames,
        s.toJson.reach? ["networks", name, "cloud_properties", k] =
          value.reach? ["networks", name, "cloud_properties", k] := by
  obtain ⟨entries, rfl⟩ := Decoder.object_of_withExtras h
  have distinct := (Json.distinct_object_iff.1 (Json.distinct_of_ordered ordered)).1
  have inner := (Json.ordered_object_iff.1 ordered).2
  have readable : Source.value.Allows (Json.object entries).depth := trivial
  obtain ⟨_, entered, _, _, networks, _, env, extra⟩ := (decoder_eq_ok_iff distinct readable).1 h
  obtain rfl := Except.ok.inj entered
  have networks : s.networks.WellFormed ∧
      (∀ name, ∀ k ∉ NetworkEntry.fieldNames, s.networks.toJson.reach? [name, k] =
        (entries.lookup "networks").bind (Json.reach? [name, k])) ∧
      ∀ name, ∀ k ∉ NetworkCloudProperties.fieldNames,
        s.networks.toJson.reach? [name, "cloud_properties", k] =
          (entries.lookup "networks").bind (Json.reach? [name, "cloud_properties", k]) := by
    cases held : entries.lookup "networks" with
    | none =>
      rw [held] at networks
      have none : Dict.empty = s.networks := Option.some.inj networks
      rw [← none]
      have empty : NetworkSpec.WellFormed Dict.empty := fun _ he => nomatch he
      exact ⟨empty, fun _ _ _ => rfl, fun _ _ _ => rfl⟩
    | some spec =>
      rw [held] at networks
      exact NetworkSpec.kept_of_decoder (inner _ (Dict.mem_of_lookup held)) networks
  have whole : s.WellFormed := by
    refine ⟨fun v hv => ?_, extra ▸ extend_others distinct, networks.1⟩
    cases held : entries.lookup "env" with
    | none =>
      rw [held, hv] at env
      cases env
    | some value =>
      rw [held, hv] at env
      exact Decoder.ordered_of_optional_any env
  have written : s.toJson.member? "networks" = some s.networks.toJson := by
    rw [member?_typed whole (by decide)]
    simp [typed, List.lookup_append]
  refine ⟨whole, fun k hk => ?_, fun name k hk => ?_, fun name k hk => ?_⟩
  · show (s.typed ++ s.extra.entries).lookup k = entries.lookup k
    rw [Json.lookup_append_other s.keys_typed hk, extra, find?_others_of_ordered ordered hk]
  · rw [Json.reach?_cons, written]
    exact networks.2.1 name k hk
  · rw [Json.reach?_cons, written]
    exact networks.2.2 name k hk

theorem reach?_vm (h : s.WellFormed) {k : String} (hk : k ≠ "name") :
    s.toJson.reach? ["vm", k] = none := by
  have written : s.toJson.member? "vm" = some (.object [("name", .text s.vmName)]) := by
    rw [member?_typed h (by decide)]
    simp [typed, List.lookup_append]
  rw [Json.reach?_cons, written, Json.reach?_singleton, Option.bind_some, Json.member?,
    Dict.lookup_cons_if, if_neg hk, List.lookup_nil]

theorem reach?_disks (h : s.WellFormed) {k : String} (hk : k ∉ DiskSettings.fieldNames) :
    s.toJson.reach? ["disks", k] = none := by
  have written : s.toJson.member? "disks" = some s.disks.toJson := by
    rw [member?_typed h (by decide)]
    simp [typed, List.lookup_append]
  rw [Json.reach?_cons, written, Json.reach?_singleton, Option.bind_some]
  exact Dict.lookup_eq_none_iff.2 fun member => hk (s.disks.keys_typed.subset member)

theorem fromJson_toJson (h : s.WellFormed) :
    decoder.fromJson s.toJson = .ok s ∧ decoder.fromJson s.toJson.sorted = .ok s :=
  ⟨recovers h (distinct_toJson h) rfl trivial,
    recovers h (Json.distinct_of_ordered (Json.ordered_sorted _)) (Json.sorted_sorted _) trivial⟩

/-- **Settings survive being read and written back.**  Settings whose kept fields do not pass for
typed ones are read as they were written, with their fields in the order of the document or in
ascending order.  Of a value that is read as settings, the encoding of the settings has all that is
not known of the document, of its network entries and of their cloud properties, unchanged, nothing
else that is unknown, and it is read as the same settings. -/
theorem survives_rewriting :
    (∀ s : AgentSettings, s.WellFormed →
      decoder.fromJson s.toJson = .ok s ∧ decoder.fromJson s.toJson.sorted = .ok s) ∧
    ∀ (value : Json) (s : AgentSettings), value.Ordered → decoder.fromJson value = .ok s →
      (∀ k ∉ reservedKeys, s.toJson.member? k = value.member? k) ∧
      (∀ name, ∀ k ∉ NetworkEntry.fieldNames,
        s.toJson.reach? ["networks", name, k] = value.reach? ["networks", name, k]) ∧
      (∀ name, ∀ k ∉ NetworkCloudProperties.fieldNames,
        s.toJson.reach? ["networks", name, "cloud_properties", k] =
          value.reach? ["networks", name, "cloud_properties", k]) ∧
      (∀ k, k ≠ "name" → s.toJson.reach? ["vm", k] = none) ∧
      (∀ k ∉ DiskSettings.fieldNames, s.toJson.reach? ["disks", k] = none) ∧
      decoder.fromJson s.toJson = .ok s ∧ decoder.fromJson s.toJson.sorted = .ok s := by
  refine ⟨fun s h => fromJson_toJson h, fun value s ordered h => ?_⟩
  obtain ⟨whole, top, entries, clouds⟩ := kept_of_decoder ordered h
  exact ⟨top, entries, clouds, fun k hk => reach?_vm whole hk, fun k hk => reach?_disks whole hk,
    fromJson_toJson whole⟩

/-- A document with a key of its own at every level that keeps them. -/
def annotatedValue : Json := .object [
  ("agent_id", .text "agent-1"),
  ("blobstore", .object [("options", .object [("paths", .list [.text "/var", .null])])]),
  ("env", .object [("bosh", .object [("tags", .list [.text "green"])])]),
  ("networks", .object [("default", .object [
    ("cloud_properties", .object [
      ("net_id", .text "vxnet-1"), ("tag", .object [("zone", .bool true)])]),
    ("dns", .list [.text "8.8.8.8"]),
    ("mtu", .whole 1450)])]),
  ("vm", .object [("name", .text "vm-1")])]

/-- What is read of the document. -/
def annotated : AgentSettings where
  vmName := "vm-1"
  agentId := "agent-1"
  networks := Dict.ofList [("default", {
    kind := none, ip := none, netmask := none, gateway := none, dns := some ["8.8.8.8"],
    defaults := [],
    cloudProperties := {
      netId := some "vxnet-1", securityGroups := [], routerId := none, subnet := none,
      extra := Dict.ofList [("tag", .object [("zone", .bool true)])] },
    extra := Dict.ofList [("mtu", .whole 1450)] })]
  disks := .initial
  env := some (.object [("bosh", .object [("tags", .list [.text "green"])])])
  extra := Dict.ofList [("blobstore", .object [("options", .object [
    ("paths", .list [.text "/var", .null])])])]

theorem annotatedValue_ordered : annotatedValue.Ordered := by
  have sorted : annotatedValue.sorted = annotatedValue := rfl
  exact sorted ▸ Json.ordered_sorted annotatedValue

theorem decoder_annotatedValue : decoder.fromJson annotatedValue = .ok annotated := rfl

theorem annotated_survives : annotatedValue.Ordered ∧
    decoder.fromJson annotatedValue = .ok annotated ∧ annotated.WellFormed ∧
    annotated.toJson.member? "blobstore" = annotatedValue.member? "blobstore" ∧
    annotated.toJson.reach? ["networks", "default", "mtu"] = some (.whole 1450) ∧
    annotated.toJson.reach? ["networks", "default", "cloud_properties", "tag"] =
      some (.object [("zone", .bool true)]) ∧
    decoder.fromJson annotated.toJson.sorted = .ok annotated := by
  have whole := (kept_of_decoder annotatedValue_ordered decoder_annotatedValue).1
  obtain ⟨top, entries, clouds, _, _, _⟩ :=
    survives_rewriting.2 annotatedValue annotated annotatedValue_ordered decoder_annotatedValue
  exact ⟨annotatedValue_ordered, decoder_annotatedValue, whole, top "blobstore" (by decide),
    entries "default" "mtu" (by decide), clouds "default" "tag" (by decide),
    (survives_rewriting.1 annotated whole).2⟩

end AgentSettings

end CloudLifecycle
