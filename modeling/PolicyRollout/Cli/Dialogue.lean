import PolicyRollout.Cli.Arguments
import PolicyRollout.Cli.Failure
import PolicyRollout.Files.Tree
import PolicyRollout.Http.Message
import PolicyRollout.Platform.Call
/-!
What a program says to the world and what it does with the answers.  A dialogue
is a tree: it either stops, or does one thing and goes on, in a way that may
depend on what it is told.  Nothing else about the world can reach the program.

Requests are sent without waiting, and answers arrive one at a time, in any
order; the world says which of the requests that wait for an answer has got it.
-/
namespace PolicyRollout.Cli

/-- How the program ends. -/
inductive Ending where
  | success
  | failure (source : Failure)
  | misuse (error : UsageError)
deriving DecidableEq, Repr

namespace Ending

def status : Ending → Nat
  | .success => 0
  | .failure _ => 1
  | .misuse _ => 2

/-- What is told apart from the output. -/
def complaint : Ending → String
  | .success => ""
  | .failure source => source.text
  | .misuse error => "error: " ++ error.message ++ "\n"

end Ending

/-- A program in conversation with the world. -/
inductive Dialogue where
  /-- Put out a text. -/
  | say (text : String) (next : Dialogue)
  /-- Record an event. -/
  | record (event : Event) (next : Dialogue)
  /-- Ask for the content of a file. -/
  | readFile (path : String) (next : Except Files.ReadFault (List UInt8) → Dialogue)
  /-- Ask for an id that no other run has. -/
  | askRunId (next : (runId : String) → Dialogue)
  /-- Ask for the time. -/
  | askTime (next : (time : String) → Dialogue)
  /-- Send a request that is given up after so many seconds. -/
  | send (timeout : Nat) (request : Http.Request) (next : Dialogue)
  /-- Wait for the next answer; `which` counts the requests that wait for one
  in the order in which they were sent. -/
  | await (next : (which : Nat) → (exchange : Http.Exchange) → Dialogue)
  | stop (ending : Ending)

/-- What a program puts out. -/
inductive Output where
  | text (text : String)
  | event (event : Event)
deriving DecidableEq, Repr

structure World where
  read : (path : String) → Except Files.ReadFault (List UInt8)
  runId : String
  /-- The time when it is asked for again. -/
  clock : (before : Nat) → String
  /-- What becomes of a request, by its serial number and all that have been sent. -/
  exchange : (sent : List Http.Request) → (serial : Nat) → Http.Exchange
  /-- Which request is answered next, of those sent and those that wait. -/
  arrival : (sent : List Http.Request) → (waiting : List Nat) → Nat

/-- What has been said in a conversation. -/
structure Transcript where
  output : List Output
  requests : List Http.Request
  ending : Ending

/-- How far a conversation has come. -/
structure Progress where
  /-- What has been put out, the latest first. -/
  output : List Output
  /-- The requests that have been sent, in their order. -/
  sent : List Http.Request
  /-- The serial numbers of the requests that wait for an answer, in their order. -/
  waiting : List Nat
  /-- How often the time has been asked for. -/
  readings : Nat

namespace Progress

def start : Progress := ⟨[], [], [], 0⟩

def put (o : Output) (p : Progress) : Progress :=
  { p with output := o :: p.output }

def send (request : Http.Request) (p : Progress) : Progress :=
  { p with sent := p.sent ++ [request], waiting := p.waiting ++ [p.sent.length] }

/-- The position of the request that is answered next. -/
def next (w : World) (p : Progress) : Nat :=
  let which := w.arrival p.sent p.waiting
  if which < p.waiting.length then which else 0

/-- What becomes of the waiting request at a position. -/
def exchange (w : World) (which : Nat) (p : Progress) : Http.Exchange :=
  match p.waiting[which]? with
  | some serial => w.exchange p.sent serial
  | none => .unanswered

/-- The waiting request at a position has been answered. -/
def answered (which : Nat) (p : Progress) : Progress :=
  { p with waiting := p.waiting.eraseIdx which }

end Progress

namespace Dialogue

/-- A conversation with a world, from where it has come to its end. -/
def converseFrom (w : World) : Dialogue → Progress → Transcript
  | .say text next, p => converseFrom w next (p.put (.text text))
  | .record event next, p => converseFrom w next (p.put (.event event))
  | .readFile path next, p => converseFrom w (next (w.read path)) p
  | .askRunId next, p => converseFrom w (next w.runId) p
  | .askTime next, p =>
    converseFrom w (next (w.clock p.readings)) { p with readings := p.readings + 1 }
  | .send _ request next, p => converseFrom w next (p.send request)
  | .await next, p =>
    let which := p.next w
    converseFrom w (next which (p.exchange w which)) (p.answered which)
  | .stop ending, p => ⟨p.output.reverse, p.sent, ending⟩

def converse (w : World) (d : Dialogue) : Transcript :=
  d.converseFrom w .start

/-- Record events in their order, and go on. -/
def recordAll (events : List Event) (next : Dialogue) : Dialogue :=
  events.foldr .record next

/-- Send a request and wait for its answer; one that cannot be written has none. -/
def ask (timeout : Nat) (request : Option Http.Request) (next : Http.Exchange → Dialogue) :
    Dialogue :=
  match request with
  | some request => .send timeout request (.await fun _ exchange => next exchange)
  | none => next .unanswered

def fail (source : Failure) : Dialogue :=
  .stop (.failure source)

end Dialogue

end PolicyRollout.Cli
