import PolicyRollout.Deployment.Rollout
/-!
Deployments over time.  Every call takes a given time, and an entity moves as
soon as it can: when it has been admitted, and when its answer has come.  This
fixes one order of moves out of all those a tier may see.  Entities that become
able to move at one moment do so in the order in which they began to wait, and
an answer that takes no time is dealt with before anything else happens.
-/
namespace PolicyRollout

/-- The time a call takes, by its serial number. -/
abbrev Latency := (serial : Nat) → (call : Call) → Nat

/-- An entity that waits for an answer. -/
structure Timer where
  /-- The moment at which the answer comes. -/
  due : Nat
  /-- The position of the entity in its tier. -/
  index : Nat
deriving DecidableEq, Repr

/-- A tier under deployment at a moment. -/
structure Timeline where
  run : TierRun
  now : Nat
  /-- The entities that can move now, those that could first in front. -/
  ready : List Nat
  /-- The entities that wait, those that began first in front. -/
  timers : List Timer
  /-- The moves made so far, the latest first. -/
  moves : List Nat
  /-- The moments at which calls were made, the latest first. -/
  callTimes : List Nat

namespace Timeline

/-- Entities that have just been admitted can move. -/
def welcome (t : Timeline) : Timeline :=
  let admitted := (t.run.window.filter (·.phase = .admitted)).map (·.index)
  { t with ready := t.ready ++ admitted.filter fun index => !t.ready.contains index }

/-- The timeline of a tier from a moment on. -/
def start (run : TierRun) (now : Nat) : Timeline :=
  welcome ⟨run, now, [], [], [], []⟩

/-- The tier after one move; a call made by it is made now. -/
def moveOnce (platform : Platform) (index : Nat) (t : Timeline) : Timeline :=
  let run := t.run.move platform index
  let called := List.replicate (run.calls - t.run.calls) t.now
  { t with run, moves := index :: t.moves, callTimes := called ++ t.callTimes }

/-- The call the entity at a position waits for. -/
def outstanding? (t : Timeline) (index : Nat) : Option (Nat × Call) := do
  let slot ← t.run.slot? index
  t.run.outstanding? slot

/-- An entity moves until it waits for an answer that takes time, or is done. -/
def advance (platform : Platform) (latency : Latency) (index : Nat) :
    (fuel : Nat) → Timeline → Timeline
  | 0, t => t
  | fuel + 1, t =>
    let t := t.moveOnce platform index
    match t.outstanding? index with
    | none => t
    | some (serial, call) =>
      match latency serial call with
      | 0 => t.advance platform latency index fuel
      | delay => { t with timers := t.timers ++ [⟨t.now + delay, index⟩] }

/-- How often an entity moves at most: it starts, is judged and is created. -/
def movesPerEntity : Nat := 3

/-- The timer that is due next; of several at one moment the first. -/
def next? : List Timer → Option Timer
  | [] => none
  | timer :: rest =>
    match next? rest with
    | none => some timer
    | some other => if other.due < timer.due then some other else some timer

/-- One step: an entity that can move does so, or time passes until one can. -/
def step (platform : Platform) (latency : Latency) (t : Timeline) : Timeline :=
  match t.ready with
  | index :: ready =>
    ({ t with ready }.advance platform latency index movesPerEntity).welcome
  | [] =>
    match next? t.timers with
    | none => t
    | some timer =>
      { t with now := timer.due, ready := [timer.index], timers := t.timers.erase timer }

/-- The tier after at most `fuel` steps. -/
def steps (platform : Platform) (latency : Latency) : (fuel : Nat) → Timeline → Timeline
  | 0, t => t
  | fuel + 1, t => if t.run.isOver then t else steps platform latency fuel (t.step platform latency)

/-- As many steps as a tier can take: every entity starts once, and each of
its two answers takes two steps. -/
def enough (run : TierRun) : Nat :=
  5 * (run.waiting.length + run.window.length)

/-- A tier from its beginning to its end. -/
def finish (platform : Platform) (latency : Latency) (run : TierRun) (now : Nat) : Timeline :=
  (start run now).steps platform latency (enough run)

end Timeline

/-- A deployment at a moment. -/
structure Schedule where
  rollout : Rollout
  now : Nat
  /-- The moments at which calls were made, in their order. -/
  callTimes : List Nat

namespace Schedule

def start (rollout : Rollout) : Schedule :=
  ⟨rollout, 0, List.replicate rollout.calls 0⟩

/-- The deployment after the listing of templates, or after its present tier. -/
def step (platform : Platform) (latency : Latency) (s : Schedule) : Schedule :=
  match s.rollout.stage with
  | .over _ => s
  | .listing serial =>
    { s with
      rollout := s.rollout.move platform 0
      now := s.now + latency serial Rollout.listing }
  | .tier run _ =>
    let t := Timeline.finish platform latency run s.now
    ⟨s.rollout.run platform t.moves.reverse, t.now, s.callTimes ++ t.callTimes.reverse⟩

def finish (platform : Platform) (latency : Latency) (rollout : Rollout) : Schedule :=
  (List.range (rollout.topology.tiers.length + 1)).foldl
    (fun s _ => s.step platform latency) (start rollout)

end Schedule

end PolicyRollout
