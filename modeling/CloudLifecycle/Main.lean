import CloudLifecycle.CommandLine.Run
import CloudLifecycle.Http.Wire
import Std.Async.DNS
import Std.Async.Signal
import Std.Async.TCP
import Std.Time.DateTime.Timestamp

/-!
# The program

Carries out what a run asks for: files, the clock, pauses and requests over unencrypted connections.
An interrupt or a termination signal cancels the task.
-/

set_option autoImplicit false

namespace CloudLifecycle.Machine

open Std.Async

/-- What the program keeps while it runs. -/
structure Desk where
  self : IO.Ref (Option ResourceId)
  interrupts : List (AsyncTask Int)

/-- A name of random digits, in the usual form of such names. -/
def freshName : IO String := do
  let bytes := (← IO.getRandomBytes 16).toList.zipIdx.map fun (byte, i) =>
    if i = 6 then byte &&& 0x0F ||| 0x40 else if i = 8 then byte &&& 0x3F ||| 0x80 else byte
  let digits (byte : UInt8) : String :=
    (String.ofList [Text.hexDigit (byte.toNat / 16), Text.hexDigit (byte.toNat % 16)]).toLower
  let parts (start count : Nat) : String := String.join (((bytes.drop start).take count).map digits)
  return "-".intercalate [parts 0 4, parts 4 2, parts 6 2, parts 8 2, parts 10 6]

/-- The time in whole seconds. -/
def now : IO Timestamp := do
  return ⟨(← Std.Time.Timestamp.now).toSecondsSinceUnixEpoch.val⟩

/-- The address of a host and a port. -/
def socketAddress (host : Std.Net.IPAddr) (port : UInt16) : Std.Net.SocketAddress :=
  match host with
  | .v4 addr => .v4 ⟨addr, port⟩
  | .v6 addr => .v6 ⟨addr, port⟩

/-- All that comes back on a connection. -/
partial def receive (client : TCP.Socket.Client) (before : List UInt8) : IO (List UInt8) := do
  match ← (client.recv? 65536).block with
  | none => return before
  | some bytes => receive client (before ++ bytes.toList)

/-- Sends a request; whatever goes wrong, there is no response. -/
def send (request : HttpRequest) : IO (Option HttpResponse) := do
  if request.url.scheme ≠ "http" then return none
  try
    let port := request.url.port.getD 80
    let host := ((request.url.hostText?.getD "").replace "[" "").replace "]" ""
    let addresses ← (DNS.getAddrInfo host port.repr).block
    match addresses[0]? with
    | none => return none
    | some address =>
      let client ← TCP.Socket.Client.mk
      (client.connect (socketAddress address (UInt16.ofNat port))).block
      (client.send ⟨request.bytes.toArray⟩).block
      return HttpResponse.ofBytes? (← receive client [])
  catch _ => return none

/-- Carries out an action of the web. -/
def web : (action : WebAction) → IO action.Answer
  | .send request => send request
  | .now => now
  | .freshName => freshName

/-- Carries out an action of a task; one that became requests is never asked for, and giving up ends
the program. -/
def task (desk : Desk) : (action : Action) → IO action.Answer
  | .recallSelf => desk.self.get
  | .rememberSelf id => desk.self.set (some id)
  | .lockSelf | .unlockSelf => return ()
  | .sleep span => IO.sleep (UInt32.ofNat (min span.pause.millis 0xFFFFFFFF))
  | .clock => return Duration.ofMillis (← IO.monoMsNow)
  | .cancelled => desk.interrupts.anyM fun interrupt => IO.hasFinished interrupt
  | .freshName => freshName
  | .provider _ | .settings _ | .lookUpSelf | .abort => throw (IO.userError "no answer")

/-- Why a file could not be read. -/
def fileError : IO.Error → FileError
  | .noFileOrDirectory _ _ _ => .notThere
  | .inappropriateType _ _ _ => .isDirectory
  | e => .other e.toString

/-- The text of bytes, if they are one. -/
def textOf (bytes : ByteArray) : Except FileError String :=
  match String.fromUTF8? bytes with
  | some text => .ok text
  | none => .error .notText

/-- Looks at a file. -/
def file : (action : FileAction) → IO action.Answer
  | .variable name => IO.getEnv name
  | .workingDirectory => return (← IO.currentDir).toString
  | .isThere path => do
    try
      discard (IO.FS.Handle.mk path .read)
      return true
    catch e => return fileError e ≠ .notThere
  | .read path => do
    try return textOf (← IO.FS.readBinFile path)
    catch e => return .error (fileError e)

/-- Carries out an action of a run. -/
def carryOut (desk : Desk) : (action : RunAction) → IO action.Answer
  | .input => return textOf (← (← IO.getStdin).readBinToEnd)
  | .file action => file action
  | .outside (.web action) => web action
  | .outside (.task action) => task desk action

/-- Carries out a run. -/
def perform {α : Type} (desk : Desk) : Run α → IO α
  | .done value => return value
  | .ask action next => do perform desk (next (← carryOut desk action))

/-- Waits for a signal in the background. -/
def interrupt (signal : Signal) : IO (AsyncTask Int) := do
  (← Signal.Waiter.mk signal false).wait

end CloudLifecycle.Machine

open CloudLifecycle CloudLifecycle.Machine in
def main (args : List String) : IO UInt32 := do
  let interrupts ← [Std.Async.Signal.sigint, .sigterm].mapM interrupt
  let result ← perform ⟨← IO.mkRef none, interrupts⟩ (Run.ofArguments args)
  IO.print result.output
  IO.eprint result.errorOutput
  return UInt32.ofNat result.code
