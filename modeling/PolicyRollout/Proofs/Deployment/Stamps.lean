import PolicyRollout.Proofs.Deployment.Growth
/-!
The stamp of a deployment: its id, and the times at which it starts and finishes.  It stands in the
report and in the events that name the run, and decides nothing: a deployment under another stamp is
the same deployment with the stamp put in its report and in these events.
-/
namespace PolicyRollout

/-- The event with another id of the run, if it names the run. -/
def Event.restamp (runId : String) : Event → Event
  | .started _ tiers entities dryRun => .started runId tiers entities dryRun
  | .aborted _ tier deployed source => .aborted runId tier deployed source
  | .completed _ deployed rejected rules => .completed runId deployed rejected rules
  | event => event

/-- The event does not name the run. -/
def Event.Unstamped (event : Event) : Prop :=
  ∀ runId, event.restamp runId = event

/-- The occurrence with another id of the run, if it is an event that names the run. -/
def Occurrence.restamp (runId : String) : Occurrence → Occurrence
  | .noted event => .noted (event.restamp runId)
  | occurrence => occurrence

def History.restamp (runId : String) (h : History) : History :=
  h.map (Occurrence.restamp runId)

def History.Unstamped (h : History) : Prop :=
  ∀ runId, History.restamp runId h = h

/-- The report with another stamp; the time at which it was finished is only there if it was. -/
def Report.restamp (s : RunStamp) (r : Report) : Report :=
  { r with runId := s.runId, startedAt := s.startedAt
           finishedAt := r.finishedAt.map fun _ => s.finishedAt }

/-- What a deployment came to, with another stamp. -/
def restampResult (s : RunStamp) : Except DeploymentError Report → Except DeploymentError Report
  | .ok report => .ok (report.restamp s)
  | .error e => .error { e with completed := e.completed.restamp s }

/-- A platform that does not look back, and whose answers come with no event that names the run. -/
structure Platform.Unstamped (platform : Platform) : Prop where
  blind : ∀ h h' serial call, platform h serial call = platform h' serial call
  notes : ∀ h serial call, ∀ event ∈ (platform h serial call).notes, event.Unstamped

namespace History

variable {h : History}

theorem restamp_append (runId : String) (later earlier : History) :
    restamp runId (later ++ earlier) = restamp runId later ++ restamp runId earlier :=
  List.map_append

theorem Unstamped.cons {o : Occurrence} (ho : ∀ runId, o.restamp runId = o)
    (hunstamped : Unstamped h) : Unstamped (o :: h) :=
  fun runId => congrArg₂ List.cons (ho runId) (hunstamped runId)

theorem Unstamped.notes {events : List Event} (hevents : ∀ event ∈ events, event.Unstamped) :
    Unstamped (events.map .noted) := by
  intro runId
  rw [restamp, List.map_map]
  exact List.map_congr_left fun event hmem => congrArg Occurrence.noted (hevents event hmem runId)

theorem Unstamped.reverse_notes {events : List Event}
    (hevents : ∀ event ∈ events, event.Unstamped) : Unstamped (events.reverse.map .noted) :=
  Unstamped.notes fun event hmem => hevents event (List.mem_reverse.mp hmem)

end History

namespace TierRun

def restamp (runId : String) (r : TierRun) : TierRun :=
  { r with history := History.restamp runId r.history }

section Commutes

variable (runId : String) (r : TierRun) (slot : Slot)

theorem restamp_reportSlot :
    (r.restamp runId).reportSlot slot = (r.reportSlot slot).restamp runId := by
  unfold reportSlot
  cases slot.phase <;> rfl

theorem restamp_reportSlots (slots : List Slot) :
    slots.foldl (fun r slot => r.reportSlot slot) (r.restamp runId) =
      (slots.foldl (fun r slot => r.reportSlot slot) r).restamp runId := by
  induction slots generalizing r with
  | nil => rfl
  | cons slot rest ih =>
      rw [List.foldl_cons, List.foldl_cons, restamp_reportSlot]
      exact ih _

theorem restamp_settle : (r.restamp runId).settle = r.settle.restamp runId := by
  have hdrain : (r.restamp runId).drain = r.drain.restamp runId :=
    restamp_reportSlots runId { r with window := r.window.dropWhile (·.phase.isFinal) } _
  rw [settle, hdrain]
  rfl

theorem restamp_brought (dest : Phase) (calls : Nat) {added : History}
    (hadded : added.Unstamped) :
    (r.restamp runId).brought slot dest calls added =
      (r.brought slot dest calls added).restamp runId := by
  simp only [brought, setPhase, restamp, History.restamp_append, hadded runId]

theorem restamp_startSlot :
    (r.restamp runId).startSlot slot = (r.startSlot slot).restamp runId := by
  cases hskip : slot.skip with
  | true =>
      unfold startSlot
      rw [if_pos hskip, if_pos hskip]
      rfl
  | false =>
      rw [startSlot_of_not_skip hskip, startSlot_of_not_skip hskip]
      refine restamp_brought runId r slot _ 1 (.cons (fun _ => rfl) (.notes ?_))
      intro event hmem
      rcases List.mem_cons.mp hmem with rfl | hmem
      · exact fun _ => rfl
      · obtain ⟨name, _, rfl⟩ := List.mem_map.mp (List.mem_reverse.mp hmem)
        exact fun _ => rfl

theorem restamp_judge (serial : Nat) {reply : Reply Verdict}
    (hnotes : ∀ event ∈ reply.notes, event.Unstamped) :
    (r.restamp runId).judge slot serial reply = (r.judge slot serial reply).restamp runId := by
  obtain ⟨result, notes⟩ := reply
  have hheard := History.Unstamped.reverse_notes hnotes
  cases result with
  | error source =>
      rw [judge_error, judge_error]
      exact restamp_brought runId r slot _ 0 (.cons (fun _ => rfl) hheard)
  | ok verdict =>
      cases hvalid : verdict.valid with
      | false =>
          rw [judge_refused _ _ hvalid, judge_refused _ _ hvalid]
          exact restamp_brought runId r slot _ 0
            (.cons (fun _ => rfl) (.cons (fun _ => rfl) hheard))
      | true =>
          rw [judge_accepted _ _ hvalid, judge_accepted _ _ hvalid]
          exact restamp_brought runId r slot _ 1
            (.cons (fun _ => rfl) (.cons (fun _ => rfl) hheard))

theorem restamp_create (serial : Nat) {reply : Reply Creation}
    (hnotes : ∀ event ∈ reply.notes, event.Unstamped) :
    (r.restamp runId).create slot serial reply = (r.create slot serial reply).restamp runId := by
  obtain ⟨result, notes⟩ := reply
  have hheard := History.Unstamped.reverse_notes hnotes
  cases result with
  | error source =>
      rw [create_error, create_error]
      exact restamp_brought runId r slot _ 0 (.cons (fun _ => rfl) hheard)
  | ok creation =>
      rw [create_ok, create_ok]
      exact restamp_brought runId r slot _ 0
        (.cons (fun _ => rfl) (.cons (fun _ => rfl) hheard))

variable {platform : Platform}

theorem restamp_moveSlot (hplatform : platform.Unstamped) :
    (r.restamp runId).moveSlot platform slot = (r.moveSlot platform slot).restamp runId := by
  unfold moveSlot
  cases slot.phase with
  | admitted => exact restamp_startSlot runId r slot
  | validating serial =>
      simp only [hplatform.blind (r.restamp runId).history r.history]
      exact restamp_judge runId r slot serial (hplatform.notes _ serial _)
  | instantiating serial =>
      simp only [hplatform.blind (r.restamp runId).history r.history]
      exact restamp_create runId r slot serial (hplatform.notes _ serial _)
  | _ => rfl

theorem restamp_move (hplatform : platform.Unstamped) (index : Nat) :
    (r.restamp runId).move platform index = (r.move platform index).restamp runId := by
  have hslot : (r.restamp runId).slot? index = r.slot? index := rfl
  unfold move
  rw [hslot]
  cases r.slot? index with
  | none => rfl
  | some slot => simp only [restamp_moveSlot runId r slot hplatform, restamp_settle]

theorem restamp_close : (r.restamp runId).close = r.close.restamp runId := by
  have hfailure : (r.restamp runId).failure = r.failure := rfl
  unfold close
  rw [hfailure]
  cases r.failure <;> rfl

end Commutes

end TierRun

def Stage.restamp (s : RunStamp) : Stage → Stage
  | .listing serial => .listing serial
  | .tier run rest => .tier (run.restamp s.runId) rest
  | .over result => .over (restampResult s result)

namespace Rollout

def restamp (s : RunStamp) (r : Rollout) : Rollout :=
  { r with
    stamp := s
    report := r.report.restamp s
    stage := r.stage.restamp s
    history := History.restamp s.runId r.history }

section Commutes

variable (s : RunStamp) (r : Rollout)

theorem restamp_refuse (source : PlatformError) :
    (r.restamp s).refuse source = (r.refuse source).restamp s :=
  rfl

theorem restamp_abort (a : TierAborted) : (r.restamp s).abort a = (r.abort a).restamp s :=
  rfl

theorem restamp_complete : (r.restamp s).complete = r.complete.restamp s :=
  rfl

theorem restamp_enter (tiers : List Tier) : (r.restamp s).enter tiers = (r.enter tiers).restamp s := by
  induction tiers generalizing r with
  | nil => exact restamp_complete s r
  | cons tier rest ih =>
      let run := TierRun.start r.options tier r.calls r.history
      have hstart : TierRun.start (r.restamp s).options tier (r.restamp s).calls
          (r.restamp s).history = run.restamp s.runId := rfl
      have hover : (run.restamp s.runId).isOver = run.isOver := rfl
      rw [enter, enter, hstart, hover]
      cases run.isOver with
      | true =>
          simp only [if_true, TierRun.restamp_close]
          exact ih { r with report := r.report.add run.close.report, calls := run.close.calls
                            history := run.close.history }
      | false =>
          simp only [Bool.false_eq_true, if_false]
          rfl

theorem restamp_leave (run : TierRun) (rest : List Tier) :
    (r.restamp s).leave (run.restamp s.runId) rest = (r.leave run rest).restamp s := by
  have hresult : (run.restamp s.runId).result = run.result := rfl
  unfold leave
  rw [hresult]
  cases run.result with
  | error a => exact restamp_abort s { r with calls := run.calls, history := run.history } a
  | ok report =>
      simp only [TierRun.restamp_close]
      exact restamp_enter s { r with
        report := r.report.add report, calls := run.close.calls
        history := run.close.history } rest

theorem restamp_verify (serial : Nat) {reply : Reply (List TemplateDescriptor)}
    (hnotes : ∀ event ∈ reply.notes, event.Unstamped) :
    (r.restamp s).verify serial reply = (r.verify serial reply).restamp s := by
  have hheard : (r.restamp s).heard serial reply = (r.heard serial reply).restamp s := by
    have hadded : History.Unstamped (.answered serial none (.listed reply.result) ::
        reply.notes.reverse.map .noted) := .cons (fun _ => rfl) (.reverse_notes hnotes)
    simp only [heard, restamp, ← List.cons_append, History.restamp_append, hadded s.runId]
  cases hsource : preflightError? r.topology reply.result with
  | some source =>
      have hsource' : preflightError? (r.restamp s).topology reply.result = some source := hsource
      rw [verify_of_preflightError hsource, verify_of_preflightError hsource', hheard]
      exact restamp_refuse s _ source
  | none =>
      have hsource' : preflightError? (r.restamp s).topology reply.result = none := hsource
      rw [verify_of_fine hsource, verify_of_fine hsource', hheard]
      exact restamp_enter s (r.heard serial reply) _

theorem restamp_move {platform : Platform} (hplatform : platform.Unstamped) (index : Nat) :
    (r.restamp s).move platform index = (r.move platform index).restamp s := by
  obtain ⟨topology, options, stamp, report, stage, calls, history⟩ := r
  cases stage with
  | listing serial =>
      have hreply := hplatform.blind (History.restamp s.runId history) history serial listing
      simp only [move, restamp, Stage.restamp, hreply]
      exact restamp_verify s ⟨topology, options, stamp, report, .listing serial, calls, history⟩
        serial (hplatform.notes history serial listing)
  | tier run rest =>
      have hmove := TierRun.restamp_move s.runId run hplatform index
      have hover : ((run.move platform index).restamp s.runId).isOver =
          (run.move platform index).isOver := rfl
      cases hdone : (run.move platform index).isOver with
      | true =>
          simp only [move, restamp, Stage.restamp, hmove, hover, hdone, if_true]
          exact restamp_leave s ⟨topology, options, stamp, report, .tier run rest, calls,
            history⟩ (run.move platform index) rest
      | false =>
          simp only [move, restamp, Stage.restamp, hmove, hover, hdone, Bool.false_eq_true, if_false]
          rfl
  | _ => rfl

/-- A deployment starts under any stamp as it starts under another. -/
theorem restamp_start (options : DeploymentOptions) (stamp : RunStamp) (topology : Topology) :
    Rollout.start options s topology [] =
      (Rollout.start options stamp topology []).restamp s := by
  let report := Report.start stamp options.dryRun
  let r : Rollout := note
    (.started stamp.runId topology.tiers.length topology.entityCount options.dryRun)
    ⟨topology, options, stamp, report, .over (.ok report), 0, []⟩
  unfold Rollout.start
  by_cases hverify : options.verifyTemplates = true
  · simp only [hverify, if_true]
    rfl
  · simp only [hverify, Bool.false_eq_true, if_false]
    exact restamp_enter s r topology.deploymentOrder

theorem result?_restamp : (r.restamp s).result? = r.result?.map (restampResult s) := by
  obtain ⟨topology, options, stamp, report, stage, calls, history⟩ := r
  cases stage <;> rfl

end Commutes

end Rollout

end PolicyRollout
