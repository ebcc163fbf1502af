import CloudLifecycle.Director.Request

/-!
# Responses to the director

A command is carried out by the lifecycle manager and has a result; a request that fails is answered
with the class of its error, a message, and whether it may be tried again.
-/

set_option autoImplicit false

namespace CloudLifecycle

namespace Failure

def message : Failure → String
  | .notImplemented method => "Method `" ++ method ++ "' is not implemented"
  | .lifecycle cause => cause.message

/-- The class that the director knows the error by. -/
def directorClass : Failure → String
  | .notImplemented _ => "Bosh::Clouds::NotImplemented"
  | .lifecycle cause => cause.directorClass

/-- The director may send the same request again. -/
def okToRetry : Failure → Bool
  | .notImplemented _ => false
  | .lifecycle cause => cause.okToRetry

/-- A resource that the request names is absent. -/
def isNotFound : Failure → Bool
  | .notImplemented _ => false
  | .lifecycle cause => cause.isNotFound

def toJson (failure : Failure) : Json := .object [
  ("type", .text failure.directorClass), ("message", .text failure.message),
  ("ok_to_retry", .bool failure.okToRetry)]

end Failure

/-- What becomes of a request. -/
abbrev Outcome : Type := Except Failure Json

/-- The response to a request with some outcome. -/
def Outcome.response : Outcome → Json
  | .ok result => .object [("result", result), ("error", .null), ("log", .text "")]
  | .error failure => .object [("result", .null), ("error", failure.toJson), ("log", .text "")]

namespace Manager

variable (m : Manager)

/-- Does something that has no result. -/
def withoutResult (verb : Verb Unit) : Verb Json := do
  verb
  return .null

/-- Carries out a command. -/
def perform : Command → Verb Json
  | .info => return .object [("api_version", .whole 1),
      ("stemcell_formats", Json.texts [m.backend.name ++ "-raw"])]
  | .currentVmId => return (← m.currentVmId).toJson
  | .createStemcell properties => return (← m.createStemcell properties).toJson
  | .deleteStemcell id => withoutResult (m.deleteStemcell id)
  | .createVm request => return (← m.createVm request).toJson
  | .deleteVm id => withoutResult (m.deleteVm id)
  | .hasVm id => return .bool (← m.hasVm id)
  | .rebootVm id => withoutResult (m.rebootVm id)
  | .setVmMetadata => return .null
  | .configureNetworks id networks => withoutResult (m.configureNetworks id networks)
  | .createDisk sizeMib => return (← m.createDisk sizeMib).toJson
  | .deleteDisk id => withoutResult (m.deleteDisk id)
  | .hasDisk id => return .bool (← m.hasDisk id)
  | .attachDisk vm disk => withoutResult (discard (m.attachDisk vm disk))
  | .detachDisk vm disk => withoutResult (m.detachDisk vm disk)
  | .getDisks vm => return .list ((← m.getDisks vm).map ResourceId.toJson)
  | .snapshotDisk disk => return (← m.snapshotDisk disk).toJson
  | .deleteSnapshot id => withoutResult (m.deleteSnapshot id)

/-- Answers a request. -/
def answer (request : Request) : Task Outcome :=
  match Command.ofRequest request with
  | .error failure => pure (.error failure)
  | .ok command => return (← (m.perform command).run).mapError .lifecycle

end Manager

end CloudLifecycle
