/-
# The program

The outer layer of the agent: it looks at the clock, the environment and the files, runs errands,
and waits for signals.  What to do next is decided by the keeper.
-/
import LeaseKeeper.Agent.Errand
import Std.Async.DNS
import Std.Async.Signal
import Std.Async.System
import Std.Async.TCP
import Std.Async.Timer

namespace LeaseKeeper
namespace Program

open Std.Async (Async)

/-! ## The machine on which the program runs -/

/-- The error of a code, which may have been negated on its way. -/
def causeOfCode (code : UInt32) : IoError :=
  .os code.toInt32.toInt.natAbs

/-- The cause that an error of the machine stands for. -/
def causeOf : IO.Error → IoError
  | .alreadyExists _ code _ | .permissionDenied _ code _ | .invalidArgument _ code _
  | .resourceExhausted _ code _ | .inappropriateType _ code _ | .noSuchThing _ code _
  | .interrupted _ code _ | .noFileOrDirectory _ code _ | .otherError code _
  | .resourceBusy code _ | .resourceVanished code _ | .unsupportedOperation code _
  | .hardwareFault code _ | .unsatisfiedConstraints code _ | .illegalOperation code _
  | .protocolError code _ | .timeExpired code _ => causeOfCode code
  | .unexpectedEof => .bare .unexpectedEof
  | .userError text => .custom .other text

/-- An action with its failure as a cause. -/
def attempt {α : Type} (act : IO α) : IO (Except IoError α) := do
  match ← act.toBaseIO with
  | .ok value => return .ok value
  | .error e => return .error (causeOf e)

/-- The variables that the program reads. -/
def readVariables : List String :=
  [Log.Setup.recordsVar, Log.Setup.filterVar, Settings.addressVar, Settings.methodVar,
    Settings.roleVar, Settings.identityPathVar, Settings.tokenFileVar, Settings.retryIntervalVar,
    Settings.clientTimeoutVar]

/-- The environment of the program. -/
def environment : IO Environment := do
  let entries ← readVariables.filterMapM fun name => do
    return (← IO.getEnv name).map fun value => (name, Text.bytes value)
  return ⟨entries⟩

/-- Where the program finds itself. -/
def setting : IO TokenFile.Setting := do
  let account ← attempt Std.Async.System.getHomeDir
  return ⟨← IO.getEnv "HOME", account.toOption.map toString, []⟩

/-- The moment. -/
def moment : IO Moment := do
  return ⟨(← Std.Time.Timestamp.now).toNanosecondsSinceUnixEpoch.val.toNat⟩

/-- A number drawn at random. -/
def number : IO Nat := do
  return (← IO.getRandomBytes 16).foldl (fun n b => n * 256 + b.toNat) 0

/-- The content of a file. -/
def content (path : String) : IO (Except IoError (List UInt8)) :=
  attempt do return (← IO.FS.readBinFile path).toList

/-- Writes a token to a path, once nobody but the owner may read what is there. -/
def write (path token : String) : IO (Except IoError Unit) :=
  attempt do
    let file ← IO.FS.Handle.mk path .write
    IO.setAccessRights path ⟨⟨true, true, false⟩, ⟨false, false, false⟩, ⟨false, false, false⟩⟩
    file.putStr token
    file.flush

/-! ## The log -/

/-- Writes events to the log. -/
def publish (log : Option Log.Sink) (events : List Log.Event) : IO Unit := do
  let out ← IO.getStdout
  for line in Log.Session.linesOf log (some (← moment)) events do
    out.putStr line
  out.flush

/-- Writes what has happened to the log. -/
def tell (log : Option Log.Sink) (trace : Trace) : IO Unit := do
  let now ← moment
  publish log (trace.journal fun _ => now.text)

/-! ## The server -/

/-- Receives bytes until the other side has sent all. -/
partial def receive (socket : Std.Async.TCP.Socket.Client) (received : ByteArray) :
    Async ByteArray := do
  let more ← try socket.recv? 65536 catch _ => pure none
  match more with
  | none => return received
  | some bytes => receive socket (received ++ bytes)

/-- The host of an address without brackets around it. -/
def bareHost (url : Http.Url) : String :=
  String.ofList ((url.host.getD "").toList.filter fun c => c != '[' && c != ']')

/-- Sends one request on a connection of its own. -/
def transmit (r : Http.Request) : Async Http.Reply := do
  if r.url.scheme != "http" then return .closed
  let port := (r.url.port.getD 80).toUInt16
  try
    let found ← Std.Async.DNS.getAddrInfo (bareHost r.url) (toString port)
    match found[0]? with
    | none => return .closed
    | some found =>
      let socket ← Std.Async.TCP.Socket.Client.mk
      socket.connect (match found with
        | .v4 addr => .v4 ⟨addr, port⟩
        | .v6 addr => .v6 ⟨addr, port⟩)
      socket.send r.wire.toUTF8
      return .bytes (← receive socket .empty).toList
  catch _ => return .closed

/-- Makes a call after some replies, with so many requests to send at most. -/
def callAfter (r : Http.Request) : Nat → List Http.Reply → Async Http.Outcome
  | 0, replies => return (Http.afterReplies r replies).1
  | requests + 1, replies => do
    match Http.afterReplies r replies with
    | (outcome, none) => return outcome
    | (_, some next) => callAfter r requests (replies ++ [← transmit next])

/-! ## The work -/

/-- What can wake the program. -/
inductive Wake
  | signal (s : Signal)
  /-- Somebody came back from an errand. -/
  | back (result : Errand.Result)
  | time

/-- A task that wakes the program when it succeeds, and with `other` when it fails. -/
def waking {α : Type} (wake : α → Wake) (other : Wake) (task : Std.Async.AsyncTask α) : Task Wake :=
  Task.map (fun
    | .ok a => wake a
    | .error _ => other) task

/-- Whole milliseconds of a length of time, as far as a timer goes. -/
def milliseconds (nanos : Nat) : Nat := min ((nanos + 999999) / 1000000) 0x10000000000

/-- Wakes the program after a length of time. -/
def after (nanos : Nat) (wake : Wake) : IO (Task Wake) := do
  let task ← (Std.Async.sleep (.ofNat (milliseconds nanos))).toIO
  return waking (fun _ => wake) wake task

/-- Waits for a signal. -/
def awaiting (number : Std.Async.Signal) (s : Signal) : IO (Task Wake) := do
  let waiter ← Std.Async.Signal.Waiter.mk number false
  return waking (fun _ => .signal s) (.signal s) (← waiter.wait)

/-- Runs an errand; the tasks that can bring a result. -/
def take (agent : Agent) : Errand → IO (List (Task Wake))
  | .write path token => do
    return [.pure (.back (.written path (← write path token)))]
  | .send r => do
    let lost : Wake := .back (.call (.failed (.unanswered r.url.text)))
    let call ← (callAfter r (Http.redirectLimit + 1) []).toIO
    return [waking (fun outcome => .back (.call outcome)) lost call,
      ← after agent.timeout.nanos lost]

/-- Waits for the first of some tasks. -/
def firstOf (tasks : List (Task Wake)) : BaseIO Wake := do
  if h : 0 < tasks.length then IO.waitAny tasks h else return .time

/-- The keeper at work until a signal comes; what has happened is written and then forgotten. -/
partial def work (agent : Agent) (log : Option Log.Sink) (start : Nat) (signals : List (Task Wake))
    (k : Keeper Surroundings) : IO (Signal × Keeper Surroundings) := do
  tell log k.trace
  let now := (← IO.monoNanosNow) - start
  let others := { k.others with
    identity := ← match k.phase with
      | .starting => content agent.auth.identityPath
      | _ => pure k.others.identity
    draws := [← number] }
  let k := { k with trace := [], others }
  let stir (k : Keeper Surroundings) (tasks : List (Task Wake)) := do
    match ← firstOf (signals ++ tasks) with
    | .signal s => return (s, k)
    | .back result =>
      let now := (← IO.monoNanosNow) - start
      work agent log start signals { k with phase := k.phase.settle now result }
    | .time => work agent log start signals k
  match k.move? agent.errands agent.plan false now with
  | none =>
    match k.phase.wake? with
    | none => stir k []
    | some t => stir k [← after (t - now) .time]
  | some k =>
    match k.others.errand with
    | none => stir k [.pure .time]
    | some errand =>
      tell log k.trace
      stir { k with trace := [], others.errand := none } (← take agent errand)

/-- Runs an agent until a signal comes. -/
def run (agent : Agent) (log : Option Log.Sink) : IO (Except KeeperError Unit) := do
  let signals ← attempt do
    return [← awaiting .sigterm .terminate, ← awaiting .sigint .interrupt]
  match signals with
  | .error cause => return .error (.signals cause)
  | .ok signals =>
    let start ← IO.monoNanosNow
    let (signal, k) ← work agent log start signals
      (.start ⟨.error .notFound, ← setting, none, []⟩)
    publish log [received signal]
    tell log (k.stop ((← IO.monoNanosNow) - start)).trace
    return .ok ()

/-- The whole program; its answer is the exit code. -/
def main : IO UInt32 := do
  let launch := launch (← environment) (← Std.Async.System.getHostName)
  publish launch.log launch.events
  let result ← match launch.agent with
    | .error e => pure (.error e)
    | .ok agent => run agent launch.log
  match result with
  | .ok () => return 0
  | .error e =>
    IO.eprintln (lastWords e)
    return 1

end Program
end LeaseKeeper

def main : IO UInt32 := LeaseKeeper.Program.main
