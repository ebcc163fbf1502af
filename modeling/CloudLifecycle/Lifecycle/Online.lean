import CloudLifecycle.HwCloud.Backend
import CloudLifecycle.Lifecycle.Metadata
import CloudLifecycle.QingCloud.Backend
import CloudLifecycle.Registry.Client

/-!
# Tasks over the web

`Connection.online` turns a task of the lifecycle into a program over the web: calls to the backend,
operations on the settings store and the look-up of the machine's own id become requests, and all
other actions stay what they are.
-/

set_option autoImplicit false

namespace CloudLifecycle

/-- A cloud that VMs are created in. -/
inductive Cloud where
  | qingcloud (cloud : QingCloud)
  | hwcloud (cloud : HwCloud)
deriving DecidableEq

namespace Cloud

/-- What the cloud says about itself. -/
def description : Cloud → Backend
  | .qingcloud cloud => cloud.description
  | .hwcloud cloud => cloud.description

/-- Makes a call to the backend. -/
def perform : Cloud → (call : ProviderCall) → Web (ProviderResult call.Reply)
  | .qingcloud cloud, call => cloud.perform call
  | .hwcloud cloud, call => cloud.perform call

end Cloud

/-- What a task asks for once its requests have become explicit. -/
inductive Outside where
  | web (action : WebAction)
  | task (action : Action)
deriving DecidableEq

/-- The answer to it. -/
abbrev Outside.Answer : Outside → Type
  | .web action => action.Answer
  | .task action => action.Answer

/-- A program over the web that may also pause and remember. -/
abbrev Online : Type → Type := Program Outside Outside.Answer

/-- A cloud and a registry. -/
structure Connection where
  cloud : Cloud
  registry : Registry
deriving DecidableEq

namespace Connection

/-- A program over the web as part of a larger one. -/
def lift {α : Type} (p : Web α) : Online α :=
  p.refine fun action => Program.request (Outside.web action)

/-- How an action is carried out. -/
def handle (connection : Connection) : (action : Action) → Online action.Answer
  | .provider call => lift (connection.cloud.perform call)
  | .settings call => lift (connection.registry.perform call)
  | .lookUpSelf => lift Metadata.lookUp
  | .freshName => lift (Program.request WebAction.freshName)
  | .recallSelf => Program.request (Outside.task .recallSelf)
  | .rememberSelf id => Program.request (Outside.task (.rememberSelf id))
  | .lockSelf => Program.request (Outside.task .lockSelf)
  | .unlockSelf => Program.request (Outside.task .unlockSelf)
  | .sleep span => Program.request (Outside.task (.sleep span))
  | .clock => Program.request (Outside.task .clock)
  | .cancelled => Program.request (Outside.task .cancelled)
  | .abort => Program.request (Outside.task .abort)

/-- The task as a program over the web. -/
def online {α : Type} (connection : Connection) (task : Task α) : Online α :=
  task.refine connection.handle

end Connection

end CloudLifecycle
