import Std.Async.DNS
import Std.Async.TCP
import Std.Async.Timer
import PolicyRollout.Cli.Program
import PolicyRollout.Http.Wire
import PolicyRollout.Text.Instant
/-!
The program in the real world: its dialogue is held with the files, the clock
and the network of the machine it runs on.
-/
namespace PolicyRollout.Cli

open Std.Async (Async)
open Std.Net (IPAddr SocketAddress)

def now : BaseIO Instant := do
  match ← (Std.Time.Timestamp.now).toBaseIO with
  | .ok t => return ⟨t.toNanosecondsSinceUnixEpoch.toInt.toNat⟩
  | .error _ => return ⟨0⟩

def randomBits : IO Nat := do
  let bytes ← IO.getRandomBytes 10
  return bytes.toList.foldl (fun n byte => 256 * n + byte.toNat) 0 % 0x4000000000000000000

/-- Why a file could not be read. -/
def readFault : IO.Error → Files.ReadFault
  | .noFileOrDirectory .. => .missing
  | .inappropriateType .. => .isDirectory
  | .permissionDenied .. => .other "Permission denied (os error 13)"
  | e => .other (toString e)

def readContent (path : String) : BaseIO (Except Files.ReadFault (List UInt8)) := do
  match ← (IO.FS.readBinFile path).toBaseIO with
  | .ok bytes => return .ok bytes.toList
  | .error e => return .error (readFault e)

/-- All bytes that arrive until the connection is closed. -/
partial def receiveAll (socket : Std.Async.TCP.Socket.Client) (got : ByteArray) :
    Async ByteArray := do
  match ← socket.recv? 65536 with
  | some bytes => receiveAll socket (got ++ bytes)
  | none => return got

def endpoint (port : UInt16) : IPAddr → SocketAddress
  | .v4 addr => .v4 ⟨addr, port⟩
  | .v6 addr => .v6 ⟨addr, port⟩

/-- The name of a host without the brackets around an address. -/
def bareHost (host : String) : String :=
  String.ofList (host.toList.filter fun c => c ≠ '[' && c ≠ ']')

/-- Send a request and receive the bytes of its response.  No encryption is at hand here, so a
request that asks for it stays unanswered. -/
def transfer (request : Http.Request) : Async Http.Exchange := do
  if request.scheme ≠ "http" then return .unanswered
  let addresses ← Std.Async.DNS.getAddrInfo (bareHost request.host) ""
  match addresses[0]? with
  | none => return .unanswered
  | some address =>
    let socket ← Std.Async.TCP.Socket.Client.mk
    socket.connect (endpoint request.port.toUInt16 address)
    socket.send ⟨request.wire.toArray⟩
    let bytes ← receiveAll socket .empty
    match Http.Response.ofWire? 10 bytes.toList with
    | some response => return .answered response
    | none => return .unanswered

/-- A race that nobody wins leaves a request unanswered. -/
instance : Inhabited Http.Exchange := ⟨.unanswered⟩

/-- What becomes of a request that is given up after so many seconds. -/
def exchangeWithin (timeout : Nat) (request : Http.Request) : BaseIO Http.Exchange := do
  let limit : Async Http.Exchange := do
    Std.Async.sleep (Std.Time.Millisecond.Offset.ofInt (1000 * timeout))
    return .unanswered
  match ← (Std.Async.Async.race (transfer request) limit).block.toBaseIO with
  | .ok exchange => return exchange
  | .error _ => return .unanswered

/-- A request that waits for its answer. -/
structure Waiting where
  serial : Nat
  answer : Task (Nat × Http.Exchange)

namespace Dialogue

/-- Hold a dialogue with the machine, and return the status of the program. -/
def perform (logged : Event → Bool) : Dialogue → (serial : Nat) → List Waiting → IO UInt32
  | .say text next, serial, waiting => do
    let out ← IO.getStdout
    out.putStr text
    out.flush
    perform logged next serial waiting
  | .record event next, serial, waiting => do
    if logged event then
      IO.println ((← now).textWith 6 ++ " " ++ logLine event)
    perform logged next serial waiting
  | .readFile path next, serial, waiting => do
    perform logged (next (← readContent path)) serial waiting
  | .askRunId next, serial, waiting => do
    let milliseconds := (← now).nanoseconds / 1000000
    perform logged (next (runId milliseconds (← randomBits))) serial waiting
  | .askTime next, serial, waiting => do
    perform logged (next (← now).text) serial waiting
  | .send timeout request next, serial, waiting => do
    let answer ← BaseIO.asTask (do return (serial, ← exchangeWithin timeout request)) .dedicated
    perform logged next (serial + 1) (waiting ++ [⟨serial, answer⟩])
  | .await next, serial, waiting => do
    match waiting with
    | [] => perform logged (next 0 .unanswered) serial []
    | first :: others =>
      let (answered, exchange) ← IO.waitAny (first.answer :: others.map (·.answer)) (by simp)
      let which := (waiting.findIdx? (·.serial = answered)).getD 0
      perform logged (next which exchange) serial (waiting.eraseIdx which)
  | .stop ending, _, _ => do
    IO.eprint ending.complaint
    return ending.status.toUInt32

end Dialogue

/-- What is set in the environment of the names that the program looks up. -/
def environment : IO (List (String × String)) :=
  (filterName :: SettingKey.all.map SettingKey.name).filterMapM fun name => do
    return (← IO.getEnv name).map fun value => (name, value)

end PolicyRollout.Cli

/-- The program on the command line. -/
def main (arguments : List String) : IO UInt32 := do
  let set ← PolicyRollout.Cli.environment
  let lookup (name : String) : Option String := (set.find? (·.1 = name)).map (·.2)
  (PolicyRollout.Cli.program lookup arguments).perform
    (PolicyRollout.Cli.filterOf lookup).admits 0 []

