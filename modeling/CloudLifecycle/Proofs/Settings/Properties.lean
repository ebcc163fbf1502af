import CloudLifecycle.Proofs.Settings.Document

/-!
# Agent properties

Maps of agent properties are merged into the settings of a new VM one after another.  Each map adds
the keys that are new, but none under the key of a typed section, also where this section is missing
(`find?_withAgentProperties`).  So the document has its typed sections as they are, and under every
other key what the first map with this key has (`AgentSettings.assemble_sections`).
-/

set_option autoImplicit false

namespace CloudLifecycle.AgentSettings

/-- The settings of a new VM, perhaps with an ephemeral disk, with maps of agent properties merged
in one after another. -/
def assemble (vmName agentId : String) (networks : NetworkSpec) (env : Option Json)
    (ephemeral : Option String) (maps : List (Dict Json)) : AgentSettings :=
  let settings := initial vmName agentId networks env
  maps.foldl withAgentProperties (ephemeral.elim settings settings.withEphemeralDisk)

variable {s : AgentSettings} {k : String}

/-! ## One map -/

theorem typed_withAgentProperties (s : AgentSettings) (properties : Dict Json) :
    (s.withAgentProperties properties).typed = s.typed := rfl

/-- A map adds what is under its own keys, where there was nothing before. -/
theorem find?_withAgentProperties (s : AgentSettings) (properties : Dict Json) (k : String) :
    (s.withAgentProperties properties).extra.find? k =
      (s.extra.find? k).or (if k ∈ reservedKeys then none else properties.find? k) := by
  have own := Dict.lookup_filter_key (fun key => !reservedKeys.contains key) properties.entries k
  refine (Dict.find?_addNew _ _ _).trans (congrArg _ (own.trans ?_))
  by_cases reserved : k ∈ reservedKeys
  · simp [reserved]
  · simp [reserved, Dict.find?]

/-! ## One map after another -/

theorem typed_foldl (maps : List (Dict Json)) (s : AgentSettings) :
    (maps.foldl withAgentProperties s).typed = s.typed := by
  induction maps generalizing s with
  | nil => rfl
  | cons first maps ih => exact (ih _).trans (s.typed_withAgentProperties first)

/-- **The first map with a key counts**, and none does for the key of a typed section. -/
theorem find?_foldl (maps : List (Dict Json)) (s : AgentSettings) (k : String) :
    (maps.foldl withAgentProperties s).extra.find? k =
      (s.extra.find? k).or (if k ∈ reservedKeys then none else maps.findSome? (·.find? k)) := by
  induction maps generalizing s with
  | nil => simp
  | cons first maps ih =>
    rw [List.foldl_cons, ih, find?_withAgentProperties, List.findSome?_cons]
    by_cases reserved : k ∈ reservedKeys
    · simp [reserved]
    · cases first.find? k <;> simp [reserved]

/-! ## The document -/

section Assembled

variable (vmName agentId : String) (networks : NetworkSpec) (env : Option Json)
  (ephemeral : Option String) (maps : List (Dict Json))

/-- No properties reach the disks, and an ephemeral disk reaches nothing else. -/
theorem typed_assemble :
    (assemble vmName agentId networks env ephemeral maps).typed =
      typed ⟨vmName, agentId, networks, ⟨Device.system, ephemeral, Dict.empty⟩, env,
        Dict.empty⟩ := by
  refine (typed_foldl maps _).trans ?_
  cases ephemeral <;> rfl

theorem find?_assemble (k : String) :
    (assemble vmName agentId networks env ephemeral maps).extra.find? k =
      if k ∈ reservedKeys then none else maps.findSome? (·.find? k) := by
  refine (find?_foldl maps _ k).trans ?_
  have empty : (ephemeral.elim (initial vmName agentId networks env)
      (initial vmName agentId networks env).withEphemeralDisk).extra = Dict.empty := by
    cases ephemeral <;> rfl
  rw [empty]
  rfl

/-- **Agent properties never touch the typed sections.**  Whatever maps are merged into the settings
of a new VM, the document has no key twice, the typed sections are those of the settings, the
environment is there exactly if one was given, and under every other key there is what the first map
with this key has. -/
theorem assemble_sections :
    ∃ fields, (assemble vmName agentId networks env ephemeral maps).toJson = .object fields ∧
      (fields.map (·.1)).Nodup ∧
      fields.lookup "vm" = some (.object [("name", .text vmName)]) ∧
      fields.lookup "agent_id" = some (.text agentId) ∧
      fields.lookup "networks" = some networks.toJson ∧
      fields.lookup "disks" =
        some (DiskSettings.toJson ⟨Device.system, ephemeral, Dict.empty⟩) ∧
      fields.lookup "env" = env ∧
      ∀ k, k ∉ ["vm", "agent_id", "networks", "disks", "env"] →
        fields.lookup k = maps.findSome? (·.find? k) := by
  let settings := assemble vmName agentId networks env ephemeral maps
  have kept (k : String) : settings.extra.find? k =
      if k ∈ reservedKeys then none else maps.findSome? (·.find? k) :=
    find?_assemble vmName agentId networks env ephemeral maps k
  have fresh : ∀ k ∈ reservedKeys, settings.extra.find? k = none := by
    intro k hk
    rw [kept, if_pos hk]
  refine ⟨settings.typed ++ settings.extra.entries, rfl,
    Json.distinctKeys_append settings.keys_typed (by decide) fresh, ?vm, ?agent, ?networks, ?disks,
    ?env, ?others⟩
  case others =>
    intro k hk
    have other : k ∉ reservedKeys := hk
    rw [Json.lookup_append_other settings.keys_typed other, kept, if_neg other]
  all_goals
    rw [Json.lookup_append_own fresh (by decide), show settings.typed = _ from typed_assemble ..]
    simp [typed, List.lookup_append]

end Assembled

end CloudLifecycle.AgentSettings
