import CloudLifecycle.Director.Response
import CloudLifecycle.Proofs.Runs.Verb

/-!
# Commands with typed results

`Manager.carryOut` is the verb of a command with the result that the verb has, and the director's
answer is a rendering of it (`Manager.perform_eq_carryOut`).  In a `Dialogue` a client gives one
command after another, each as the results so far suggest; `Manager.conduct` carries them out.
-/

set_option autoImplicit false

namespace CloudLifecycle

/-- What a command gives when it succeeds. -/
abbrev Command.Result : Command → Type
  | .currentVmId | .createStemcell _ | .createVm _ | .createDisk _ | .snapshotDisk _ => ResourceId
  | .hasVm _ | .hasDisk _ => Bool
  | .attachDisk _ _ => String
  | .getDisks _ => List ResourceId
  | _ => Unit

/-- The result of a command as the director gets to see it. -/
def Command.render (backend : Backend) : (command : Command) → command.Result → Json
  | .info, _ => .object [("api_version", .whole 1),
      ("stemcell_formats", Json.texts [backend.name ++ "-raw"])]
  | .currentVmId, id | .createStemcell _, id | .createVm _, id | .createDisk _, id
  | .snapshotDisk _, id => ResourceId.toJson id
  | .hasVm _, there | .hasDisk _, there => .bool there
  | .getDisks _, disks => .list (disks.map ResourceId.toJson)
  | .deleteStemcell _, _ | .deleteVm _, _ | .rebootVm _, _ | .setVmMetadata, _
  | .configureNetworks _ _, _ | .deleteDisk _, _ | .attachDisk _ _, _ | .detachDisk _ _, _
  | .deleteSnapshot _, _ => .null

/-- A client that gives commands, each as the results so far suggest. -/
abbrev Dialogue : Type → Type := Program Command fun command => Except CpiError command.Result

/-- A verb whose result is dropped goes on as it would anyway. -/
theorem Verb.discard_bind {α β : Type} (verb : Verb α) (f : Unit → Verb β) :
    (discard verb >>= f) = verb >>= fun _ => f () := by
  refine (Program.bind_assoc _ _ _).trans (congrArg _ (funext fun first => ?_))
  cases first <;> rfl

namespace Manager

variable (m : Manager)

/-- The verb of a command. -/
def carryOut : (command : Command) → Verb command.Result
  | .info => pure ()
  | .currentVmId => m.currentVmId
  | .createStemcell properties => m.createStemcell properties
  | .deleteStemcell id => m.deleteStemcell id
  | .createVm request => m.createVm request
  | .deleteVm id => m.deleteVm id
  | .hasVm id => m.hasVm id
  | .rebootVm id => m.rebootVm id
  | .setVmMetadata => pure ()
  | .configureNetworks id networks => m.configureNetworks id networks
  | .createDisk sizeMib => m.createDisk sizeMib
  | .deleteDisk id => m.deleteDisk id
  | .hasDisk id => m.hasDisk id
  | .attachDisk vm disk => m.attachDisk vm disk
  | .detachDisk vm disk => m.detachDisk vm disk
  | .getDisks vm => m.getDisks vm
  | .snapshotDisk disk => m.snapshotDisk disk
  | .deleteSnapshot id => m.deleteSnapshot id

/-- The manager answers a command with the result of its verb. -/
theorem perform_eq_carryOut (command : Command) :
    m.perform command = do return command.render m.backend (← m.carryOut command) := by
  cases command with
  | attachDisk vm disk => exact Verb.discard_bind (m.attachDisk vm disk) _
  | _ => rfl

/-- The commands of a dialogue, carried out by the manager. -/
def conduct {α : Type} (dialogue : Dialogue α) : Task α :=
  dialogue.refine fun command => (m.carryOut command).run

end Manager

end CloudLifecycle
