import PolicyRollout.Proofs.Cli.Carrying
/-!
How a deployment that is carried out ends.  The report that is printed is the one the deployment
came to, finished at the time at which it is printed, whole or as far as it came; and the program
ends well exactly if the deployment did.
-/
namespace PolicyRollout.Cli

open Http (Exchange)
open Rollout (reported)

/-- A conversation in which nothing has happened but events. -/
structure Progress.Fresh (p : Progress) : Prop where
  sent : p.sent = []
  waiting : p.waiting = []
  silent : p.texts = []
  readings : p.readings = 0

namespace Progress

theorem start_fresh : start.Fresh := ⟨rfl, rfl, rfl, rfl⟩

theorem texts_put_event (p : Progress) (event : Event) :
    (p.put (.event event)).texts = p.texts := by
  simp [texts, put, Output.text?]

theorem texts_put_text (p : Progress) (text : String) :
    (p.put (.text text)).texts = p.texts ++ [text] := by
  simp [texts, put, Output.text?]

theorem Fresh.record {p : Progress} (hfresh : p.Fresh) (event : Event) :
    (p.put (.event event)).Fresh :=
  ⟨hfresh.sent, hfresh.waiting, (texts_put_event p event).trans hfresh.silent, hfresh.readings⟩

end Progress

namespace DeployJob

/-- How a program ends whose deployment has come to a result. -/
def ending : Except DeploymentError Report → Ending
  | .ok _ => .success
  | .error e => .failure (.deployment e)

/-- A transcript is that of a deployment: the requests are those for its calls, the only text is its
report, and the ending tells what it came to. -/
structure Ended (job : DeployJob) (r : Rollout) (result : Except DeploymentError Report)
    (out : Transcript) : Prop where
  returns : r.result? = some result
  requests : out.requests = job.client.requests r.history
  texts : out.texts = [job.format.render (reported result)]
  status : out.ending.status = (ending result).status
  complaint : out.ending.complaint = (ending result).complaint

variable {job : DeployJob} {w : World} {options : DeploymentOptions} {stamp : RunStamp}
  {t : Topology} {exchanges : Nat → Exchange} {r : Rollout} {p : Progress}

/-- The time at which the report is printed is the one at which the deployment is finished. -/
theorem Carried.ended (hcarried : job.Carried w options stamp t exchanges r p)
    {result : Except DeploymentError Report} (hresult : r.result? = some result) :
    job.Ended (r.finishingAt (w.clock 1)) (finishingAt (w.clock 1) result)
      ((job.conclude result).converseFrom w p) := by
  have hfinished := hcarried.course.finishedAt_eq hresult
  have hresult' : (r.finishingAt (w.clock 1)).result? = some (finishingAt (w.clock 1) result) := by
    rw [Rollout.result?_finishingAt, hresult]
    rfl
  have hprinted : ∀ report : Report, report.finishedAt = some stamp.finishedAt →
      (p.put (.text (job.format.render { report with
        finishedAt := some (w.clock p.readings) }))).texts =
        [job.format.render (report.finishingAt (w.clock 1))] := by
    intro report hreport
    rw [Progress.texts_put_text, hcarried.silent, hcarried.readings, Report.finishingAt, hreport]
    rfl
  cases result with
  | ok report => exact ⟨hresult', hcarried.sent, hprinted report hfinished, rfl, rfl⟩
  | error e => exact ⟨hresult', hcarried.sent, hprinted e.completed hfinished, rfl, rfl⟩

theorem start_carried (job : DeployJob) (w : World) (options : DeploymentOptions)
    (stamp : RunStamp) (t : Topology) (hfresh : p.Fresh) :
    let r := Rollout.start options stamp t []
    job.Carried w options stamp t (fun _ => .unanswered) r
      (r.history.reverse.foldl job.hear { p with readings := p.readings + 1 }) := by
  intro r
  have hcourse : Rollout.Course (job.client.platform fun _ => .unanswered) options stamp t r :=
    Rollout.start_course ..
  have hnone : r.history.answeredSerials = [] := Rollout.start_answeredSerials ..
  obtain ⟨hsent, hwaiting, htexts, hreadings⟩ :=
    job.foldl_hear { p with readings := p.readings + 1 } r.history.reverse
  refine ⟨⟨[], rfl⟩, ?_, ?_, htexts.trans hfresh.silent, ?_, ?_⟩
  · rw [hsent, hfresh.sent]
    rfl
  · rw [hwaiting, hfresh.waiting, hfresh.sent, List.nil_append]
    change List.range' 0 (job.client.requests r.history).length = _
    cases hsends : job.client.sends with
    | true =>
        have hunanswered : r.history.unanswered = r.history.calledSerials := by
          simp [History.unanswered, hnone]
        rw [Http.Client.length_requests hsends, hunanswered, hcourse.tally.1.called,
          List.length_range, List.range_eq_range']
        rfl
    | false =>
        rw [Http.Client.requests_eq_nil hsends]
        rfl
  · rw [hreadings, hfresh.readings]
  · intro _ serial hserial
    rw [hnone] at hserial
    contradiction

/-- A deployment that is carried out comes to its end: with some answers of the world in some order
it is the deployment whose requests are sent and whose report is printed, and no more requests wait
at any moment than a window. -/
theorem carryOut_ends (job : DeployJob) (w : World) (options : DeploymentOptions) (t : Topology)
    (hfresh : p.Fresh) :
    (∃ exchanges schedule result,
      let out := (job.carryOut options t).converseFrom w p
      let r := (Rollout.start options ⟨w.runId, w.clock 0, w.clock 1⟩ t []).run
        (job.client.platform exchanges) schedule
      job.Ended r result out ∧
        (job.client.sends = true → w.Answers out.requests r.history.answeredSerials exchanges)) ∧
    ∀ m ∈ (job.carryOut options t).momentsFrom w p, m.waiting.length ≤ options.window := by
  obtain ⟨output, sent, waiting, readings⟩ := p
  obtain rfl : readings = 0 := hfresh.readings
  let stamp : RunStamp := ⟨w.runId, w.clock 0, w.clock 0⟩
  have hcarried := start_carried job w options stamp t hfresh
  have hgo : (Rollout.start options stamp t []).toGo ≤ enough t :=
    Nat.le_succ_of_le (Rollout.start_toGo_le options stamp t [])
  have hconcludes := (hcarried.carryOn hgo).tell hcarried.waiting_le
  obtain ⟨⟨exchanges, r, p', result, hcarried', hresult, hconverse⟩, hmoments⟩ := hconcludes
  constructor
  · obtain ⟨schedule, rfl⟩ := hcarried'.run
    have hended := hcarried'.ended hresult
    have hout : (job.carryOut options t).converseFrom w ⟨output, sent, waiting, 0⟩ =
        (job.conclude result).converseFrom w p' := hconverse
    have hsame := @Rollout.run_start_finishingAt options stamp t (job.client.platform exchanges)
      (w.clock 1) schedule
    rw [← hout, ← hsame] at hended
    refine ⟨exchanges, schedule, _, hended, ?_⟩
    intro hsends
    have hanswers := hcarried'.answers hsends
    have hhistory := congrArg Rollout.history hsame
    rw [hcarried'.sent] at hanswers
    rw [hended.requests]
    exact hhistory.symm ▸ hanswers
  · have hzero : waiting.length ≤ options.window := by
      rw [show waiting = [] from hfresh.waiting]
      exact Nat.zero_le _
    exact List.forall_mem_cons.mpr ⟨hzero, List.forall_mem_cons.mpr ⟨hzero, hmoments⟩⟩

end DeployJob

end PolicyRollout.Cli
