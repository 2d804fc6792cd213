import PolicyRollout.Proofs.Deployment.Completion
import PolicyRollout.Proofs.Deployment.Outstanding
/-!
What a move asks of the platform.  A move takes the answer to one call at most, the one its entity
waits for, and nothing of the platform but that answer matters to it.  So two platforms that agree
on the calls a deployment has had answered give the same deployment.
-/
namespace PolicyRollout

/-- Two platforms answer the call of a serial number the same. -/
def Platform.AgreesAt (platform platform' : Platform) (serial : Nat) : Prop :=
  ∀ history call, platform history serial call = platform' history serial call

namespace TierRun

variable {platform platform' : Platform} {r : TierRun}

/-- The serial number of the call that a move of the entity at a position takes the answer of. -/
def consults (r : TierRun) (index : Nat) : Option Nat :=
  (r.slot? index).bind fun slot => slot.phase.awaits?

theorem moveSlot_congr {slot : Slot}
    (hagree : ∀ serial ∈ slot.phase.awaits?, platform.AgreesAt platform' serial) :
    r.moveSlot platform slot = r.moveSlot platform' slot := by
  unfold moveSlot
  cases hphase : slot.phase with
  | validating serial =>
      rw [hphase] at hagree
      exact congrArg (fun reply => judge slot serial reply r)
        (hagree serial rfl r.history (r.validation slot))
  | instantiating serial =>
      rw [hphase] at hagree
      exact congrArg (fun reply => create slot serial reply r)
        (hagree serial rfl r.history (r.instantiation slot))
  | _ => rfl

theorem move_congr {index : Nat}
    (hagree : ∀ serial ∈ r.consults index, platform.AgreesAt platform' serial) :
    r.move platform index = r.move platform' index := by
  unfold consults at hagree
  unfold move
  cases hslot : r.slot? index with
  | none => rfl
  | some slot =>
      rw [hslot] at hagree
      simp only [moveSlot_congr hagree]

theorem settle_calls (r : TierRun) : r.settle.calls = r.calls := by
  rw [settle, refill_eq, drain_eq]
  rfl

/-- What a move adds to the history: further calls, and the answer that was waited for. -/
theorem move_adds (platform : Platform) (index : Nat) (r : TierRun) :
    ∃ added made, (r.move platform index).history = added ++ r.history ∧
      (r.move platform index).calls = r.calls + made ∧
      History.calledSerials added = List.range' r.calls made ∧
      History.answeredSerials added = (r.consults index).toList := by
  unfold move consults
  cases hslot : r.slot? index with
  | none => exact ⟨[], 0, rfl, rfl, rfl, rfl⟩
  | some slot =>
      simp only [Option.bind_some]
      cases hfinal : slot.phase.isFinal with
      | true =>
          rw [moveSlot_of_final platform r hfinal, Phase.awaits?_of_isFinal hfinal]
          exact ⟨_, 0, settle_history r, settle_calls r, History.calledSerials_notes _,
            History.answeredSerials_notes _⟩
      | false =>
          obtain ⟨dest, calls, added, hmoves, heq⟩ := moveSlot_moves platform r hfinal
          rw [heq]
          refine ⟨(r.brought slot dest calls added).notices.map .noted ++ added, calls,
            ?_, settle_calls _, ?_, ?_⟩
          · rw [settle_history, List.append_assoc]
            rfl
          · rw [History.calledSerials_append, History.calledSerials_notes, List.append_nil,
              hmoves.calledSerials]
          · rw [History.answeredSerials_append, History.answeredSerials_notes, List.nil_append,
              hmoves.answeredSerials]

end TierRun

namespace Rollout

variable {platform platform' : Platform} {options : DeploymentOptions} {stamp : RunStamp}
  {topology : Topology} {r : Rollout}

/-- The serial number of the call that a move takes the answer of. -/
def consults (r : Rollout) (index : Nat) : Option Nat :=
  match r.stage with
  | .over _ => none
  | .listing serial => some serial
  | .tier run _ => run.consults index

theorem move_congr {index : Nat}
    (hagree : ∀ serial ∈ r.consults index, platform.AgreesAt platform' serial) :
    r.move platform index = r.move platform' index := by
  unfold consults at hagree
  unfold move
  cases hstage : r.stage with
  | listing serial =>
      rw [hstage] at hagree
      exact congrArg (fun reply => verify serial reply r) (hagree serial rfl r.history listing)
  | tier run rest =>
      rw [hstage] at hagree
      simp only [TierRun.move_congr hagree]
  | _ => rfl

theorem enter_calls (r : Rollout) (tiers : List Tier) : (r.enter tiers).calls = r.calls := by
  induction tiers generalizing r with
  | nil => rfl
  | cons tier rest ih =>
      have hstart : (TierRun.start r.options tier r.calls r.history).calls = r.calls := rfl
      unfold enter
      generalize TierRun.start r.options tier r.calls r.history = run at hstart ⊢
      cases hover : run.isOver with
      | true =>
          simp only [hover, if_true]
          rw [ih]
          exact run.close_calls.trans hstart
      | false =>
          simp only [hover, Bool.false_eq_true, if_false]
          exact hstart

theorem leave_calls (run : TierRun) (rest : List Tier) (r : Rollout) :
    (r.leave run rest).calls = run.calls := by
  unfold leave
  cases hresult : run.result with
  | error a => rfl
  | ok report =>
      simp only
      rw [enter_calls]
      exact run.close_calls

theorem verify_calls (serial : Nat) (reply : Reply (List TemplateDescriptor)) (r : Rollout) :
    (r.verify serial reply).calls = r.calls := by
  cases hsource : preflightError? r.topology reply.result with
  | some source =>
      rw [verify_of_preflightError hsource]
      rfl
  | none =>
      rw [verify_of_fine hsource]
      exact enter_calls ..

/-- What a move adds to the history of a deployment: further calls, and the answer that was
waited for. -/
theorem Course.move_adds (hcourse : Course platform options stamp topology r)
    (platform' : Platform) (index : Nat) :
    ∃ added made, (r.move platform' index).history = added ++ r.history ∧
      (r.move platform' index).calls = r.calls + made ∧
      History.calledSerials added = List.range' r.calls made ∧
      History.answeredSerials added = (r.consults index).toList := by
  cases hcourse with
  | listing hverify =>
      let reply : Reply (List TemplateDescriptor) :=
        platform' (listingHistory options stamp topology) 0 Rollout.listing
      obtain ⟨events, hevents⟩ := verify_history 0 reply
        ⟨topology, options, stamp, partialReport options stamp [], .listing 0, 1,
          listingHistory options stamp topology⟩
      refine ⟨events.map .noted ++ .answered 0 none (.listed reply.result) ::
        reply.notes.reverse.map .noted, 0, ?_, verify_calls .., ?_, ?_⟩
      · exact hevents.trans (List.append_assoc _ (_ :: _) _).symm
      · rw [History.calledSerials_append, History.calledSerials_answered,
          History.calledSerials_notes, History.calledSerials_notes]
        rfl
      · rw [History.answeredSerials_append, History.answeredSerials_answered,
          History.answeredSerials_notes, History.answeredSerials_notes]
        rfl
  | refused => exact ⟨[], 0, rfl, rfl, rfl, rfl⟩
  | aborted => exact ⟨[], 0, rfl, rfl, rfl, rfl⟩
  | completed => exact ⟨[], 0, rfl, rfl, rfl, rfl⟩
  | @deploying _ _ _ _ _ _ rest run hopened hpassed horder hreached hover =>
      obtain ⟨added, made, hhistory, hcalls, hcalled, hanswered⟩ := run.move_adds platform' index
      cases hover' : (run.move platform' index).isOver with
      | true =>
          obtain ⟨events, hevents⟩ := leave_history (run.move platform' index) rest _
          simp only [move, hover', if_true]
          refine ⟨events.map .noted ++ added, made, ?_, ?_, ?_, ?_⟩
          · rw [hevents, hhistory, List.append_assoc]
          · rw [leave_calls, hcalls]
          · rw [History.calledSerials_append, History.calledSerials_notes, List.append_nil, hcalled]
          · rw [History.answeredSerials_append, History.answeredSerials_notes, List.nil_append,
              hanswered]
            rfl
      | false =>
          simp only [move, hover', Bool.false_eq_true, if_false]
          exact ⟨added, made, hhistory, hcalls, hcalled, hanswered⟩

/-- What has been answered stays answered. -/
theorem Course.answeredSerials_run (hcourse : Course platform options stamp topology r)
    (schedule : List Nat) :
    r.history.answeredSerials ⊆ (r.run platform schedule).history.answeredSerials := by
  obtain ⟨added, hrun, _⟩ := hcourse.run_history schedule
  rw [hrun, History.answeredSerials_append]
  exact List.subset_append_right ..

/-- Platforms that agree on all answers of a deployment give the same deployment. -/
theorem run_congr (schedule : List Nat)
    (hagree : ∀ serial ∈ ((Rollout.start options stamp topology []).run platform
      schedule).history.answeredSerials, platform.AgreesAt platform' serial) :
    (Rollout.start options stamp topology []).run platform schedule =
      (Rollout.start options stamp topology []).run platform' schedule := by
  induction schedule using List.reverseRecOn with
  | nil => rfl
  | append_singleton front index ih =>
      have hcourse := run_course platform options stamp topology front
      rw [run_append] at hagree
      have hfront := ih fun serial hserial =>
        hagree serial (hcourse.answeredSerials_run [index] hserial)
      rw [run_append, run_append, ← hfront]
      apply move_congr
      intro serial hserial
      apply hagree
      obtain ⟨added, made, hhistory, _, _, hanswered⟩ := hcourse.move_adds platform index
      change serial ∈ (Rollout.move platform index _).history.answeredSerials
      rw [hhistory, History.answeredSerials_append, hanswered]
      exact List.mem_append_left _ (Option.mem_toList.mpr hserial)

end Rollout

end PolicyRollout
