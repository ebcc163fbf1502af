import CloudLifecycle.Lifecycle.Manager

/-!
# The machine's own id

The id of the VM that the program itself runs on comes from a metadata service and is looked up
once: the first task to ask takes a lock, looks the id up and remembers it, and tasks that waited
for the lock find it remembered.  A look-up that fails or gives only blanks is not remembered.
-/

set_option autoImplicit false

namespace CloudLifecycle

namespace Text

/-- Blank characters of Unicode. -/
def isBlank (c : Char) : Bool :=
  let n := c.toNat
  (0x09 ≤ n && n ≤ 0x0D) || n = 0x20 || n = 0x85 || n = 0xA0 || n = 0x1680
    || (0x2000 ≤ n && n ≤ 0x200A) || n = 0x2028 || n = 0x2029 || n = 0x202F || n = 0x205F
    || n = 0x3000

/-- A text without the blanks around it. -/
def trimmed (s : String) : String :=
  String.ofList ((s.toList.dropWhile isBlank).reverse.dropWhile isBlank).reverse

end Text

namespace Self

/-- The id in an answer of the metadata service. -/
def ofAnswer : ProviderResult String → ProviderResult ResourceId
  | .error e => .error e
  | .ok raw =>
    let id := Text.trimmed raw
    if id.isEmpty then .error (.decode "metadata service returned an empty instance id")
    else .ok ⟨id⟩

/-- Looks the id up and remembers it. -/
def lookUp : Task (ProviderResult ResourceId) := do
  let outcome := ofAnswer (← Program.request Action.lookUpSelf)
  if let .ok id := outcome then Program.request (Action.rememberSelf id)
  return outcome

/-- The machine's own id, remembered or looked up by one task at a time. -/
def id : Task (ProviderResult ResourceId) := do
  match ← Program.request Action.recallSelf with
  | some id => return .ok id
  | none =>
    Program.request Action.lockSelf
    let outcome ← match ← Program.request Action.recallSelf with
      | some id => pure (.ok id)
      | none => lookUp
    Program.request Action.unlockSelf
    return outcome

end Self

/-- The machine's own id, where there is a metadata service. -/
def Manager.currentVmId (m : Manager) : Verb ResourceId :=
  if m.knowsSelf then ExceptT.mk do return (← Self.id).mapError .provider
  else throw (.notSupported "current_vm_id: no metadata source configured")

end CloudLifecycle
