import CloudLifecycle.Error
import CloudLifecycle.Settings.Document

/-!
# The settings store

Agent settings are kept by the name of the VM.  A `SettingsStore` is the store as a value; its three
operations answer as the store in memory does: reading an absent key fails, removing one succeeds.
-/

set_option autoImplicit false

namespace CloudLifecycle

/-- Agent settings by the name of the VM. -/
abbrev SettingsStore : Type := Dict AgentSettings

namespace SettingsStore

/-- The settings under a key. -/
def read (store : SettingsStore) (key : String) : Except SettingsError AgentSettings :=
  match store.find? key with
  | some settings => .ok settings
  | none => .error (.notFound key)

/-- Puts settings under a key, replacing those that were there. -/
def update (store : SettingsStore) (key : String) (settings : AgentSettings) : SettingsStore :=
  store.insert key settings

/-- Removes the settings under a key, if there are any. -/
def delete (store : SettingsStore) (key : String) : SettingsStore := store.erase key

end SettingsStore

end CloudLifecycle
