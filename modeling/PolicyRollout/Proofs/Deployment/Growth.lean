import PolicyRollout.Proofs.Deployment.Chronicle
/-!
Histories grow.  A move only adds to the history: the answer it brings, if an answer was
waited for, and after it events and calls.  Templates are listed when a deployment
starts and never again.
-/
namespace PolicyRollout

def Call.lists : Call → Bool
  | .list .. => true
  | _ => false

def Occurrence.lists : Occurrence → Bool
  | .called _ _ call => call.lists
  | _ => false

theorem Occurrence.lists_notes (events : List Event) :
    ∀ o ∈ events.map Occurrence.noted, o.lists = false := by
  intro o ho
  obtain ⟨event, _, rfl⟩ := List.mem_map.mp ho
  rfl

namespace TierRun

variable {platform : Platform} {r : TierRun} {slot : Slot}

/-- What the call an entity waits for comes to, with the serial number of the call. -/
def answer? (r : TierRun) (platform : Platform) (slot : Slot) : Option (Nat × Outturn) :=
  match slot.phase with
  | .validating serial =>
    some (serial, .judged (platform r.history serial (r.validation slot)).result)
  | .instantiating serial =>
    some (serial, .created (platform r.history serial (r.instantiation slot)).result)
  | _ => none

theorem Moves.lists_added {dest : Phase} {calls : Nat} {added : History}
    (hmoves : Moves platform r slot dest calls added) : ∀ o ∈ added, o.lists = false := by
  have hnotes := Occurrence.lists_notes
  cases hmoves <;> simp_all [Occurrence.lists, Call.lists, validation, instantiation]

theorem move_history (platform : Platform) (index : Nat) (r : TierRun) :
    ∃ added, (r.move platform index).history = added ++ r.history ∧
      ∀ o ∈ added, o.lists = false := by
  rcases move_cases platform index r with
    hmove | hmove | ⟨slot, dest, calls, added, _, _, hmoves, hmove⟩
  · exact ⟨[], congrArg history hmove, by simp⟩
  · refine ⟨_, ?_, Occurrence.lists_notes r.notices⟩
    rw [hmove, settle_history]
  · refine ⟨(r.brought slot dest calls added).notices.map .noted ++ added, ?_, ?_⟩
    · rw [hmove, settle_history, List.append_assoc]
      rfl
    · intro o ho
      rcases List.mem_append.mp ho with hnotice | hadded
      · exact Occurrence.lists_notes _ o hnotice
      · exact hmoves.lists_added o hadded

theorem judge_answered (slot : Slot) (serial : Nat) (reply : Reply Verdict) (r : TierRun) :
    .answered serial (some slot.index) (.judged reply.result) ∈
      (r.judge slot serial reply).history := by
  obtain ⟨result, notes⟩ := reply
  cases result with
  | error source => simp [judge_error, brought, setPhase]
  | ok verdict =>
      cases hvalid : verdict.valid with
      | true => simp [judge_accepted _ _ hvalid, brought, setPhase]
      | false => simp [judge_refused _ _ hvalid, brought, setPhase]

theorem create_answered (slot : Slot) (serial : Nat) (reply : Reply Creation) (r : TierRun) :
    .answered serial (some slot.index) (.created reply.result) ∈
      (r.create slot serial reply).history := by
  obtain ⟨result, notes⟩ := reply
  cases result with
  | error source => simp [create_error, brought, setPhase]
  | ok creation => simp [create_ok, brought, setPhase]

/-- An answer that reaches an entity is recorded. -/
theorem moveSlot_answered {serial : Nat} {o : Outturn}
    (hanswer : r.answer? platform slot = some (serial, o)) :
    .answered serial (some slot.index) o ∈ (r.moveSlot platform slot).history := by
  unfold answer? at hanswer
  unfold moveSlot
  cases hphase : slot.phase with
  | validating serial' =>
      simp only [hphase, Option.some_inj, Prod.mk.injEq] at hanswer
      obtain ⟨rfl, rfl⟩ := hanswer
      exact judge_answered ..
  | instantiating serial' =>
      simp only [hphase, Option.some_inj, Prod.mk.injEq] at hanswer
      obtain ⟨rfl, rfl⟩ := hanswer
      exact create_answered ..
  | _ => simp [hphase] at hanswer

theorem move_answered {index : Nat} {serial : Nat} {o : Outturn}
    (hanswer : (r.slot? index).bind (r.answer? platform) = some (serial, o)) :
    ∃ entity, .answered serial entity o ∈ (r.move platform index).history := by
  obtain ⟨slot, hslot, hanswer⟩ := Option.bind_eq_some_iff.mp hanswer
  refine ⟨some slot.index, ?_⟩
  unfold move
  rw [hslot]
  simp only [settle_history]
  exact List.mem_append_right _ (moveSlot_answered hanswer)

end TierRun

namespace Rollout

variable {platform : Platform} {options : DeploymentOptions} {stamp : RunStamp}
  {topology : Topology} {r : Rollout}

/-- The deployment after it has heard what the listing of templates came to. -/
def heard (serial : Nat) (reply : Reply (List TemplateDescriptor)) (r : Rollout) : Rollout :=
  { r with history := .answered serial none (.listed reply.result) ::
      (reply.notes.reverse.map .noted ++ r.history) }

theorem verify_of_preflightError {serial : Nat} {reply : Reply (List TemplateDescriptor)}
    {source : PlatformError} (hsource : preflightError? r.topology reply.result = some source) :
    r.verify serial reply = (r.heard serial reply).refuse source := by
  obtain ⟨result, notes⟩ := reply
  simp only [Rollout.verify, foldl_note]
  cases result with
  | error cause =>
      obtain rfl := Option.some_inj.mp hsource
      rfl
  | ok published =>
      obtain ⟨id, hmissing, rfl⟩ := Option.map_eq_some_iff.mp hsource
      simp only [hmissing]
      rfl

theorem verify_of_fine {serial : Nat} {reply : Reply (List TemplateDescriptor)}
    (hfine : preflightError? r.topology reply.result = none) :
    r.verify serial reply = (r.heard serial reply).begin := by
  obtain ⟨result, notes⟩ := reply
  simp only [Rollout.verify, foldl_note]
  cases result with
  | error cause => cases hfine
  | ok published =>
      have hmissing := Option.map_eq_none_iff.mp hfine
      simp only [hmissing]
      rfl

/-- What the call a deployment waits for comes to when the entity at a position moves. -/
def answer? (r : Rollout) (platform : Platform) (index : Nat) : Option (Nat × Outturn) :=
  match r.stage with
  | .listing serial => some (serial, .listed (platform r.history serial listing).result)
  | .tier run _ => (run.slot? index).bind (run.answer? platform)
  | .over _ => none

/-- Tiers that begin add events only. -/
theorem enter_history (r : Rollout) (tiers : List Tier) :
    ∃ events : List Event, (r.enter tiers).history = events.map .noted ++ r.history := by
  induction tiers generalizing r with
  | nil => exact ⟨[_], rfl⟩
  | cons tier rest ih =>
      let begun := Event.deployingTier tier.kind tier.name tier.switch tier.entities.size
      have hstart : (TierRun.start r.options tier r.calls r.history).history =
          .noted begun :: r.history := rfl
      unfold enter
      generalize TierRun.start r.options tier r.calls r.history = run at hstart ⊢
      cases hover : run.isOver with
      | true =>
          obtain ⟨closing, hclose⟩ := run.close_history
          obtain ⟨events, henter⟩ := ih { r with
            report := r.report.add run.close.report, calls := run.close.calls
            history := run.close.history }
          refine ⟨events ++ closing ++ [begun], ?_⟩
          simp only [hover, if_true]
          rw [henter, hclose, hstart]
          simp
      | false =>
          simp only [hover, Bool.false_eq_true, if_false]
          exact ⟨[begun], hstart⟩

theorem leave_history (run : TierRun) (rest : List Tier) (r : Rollout) :
    ∃ events : List Event, (r.leave run rest).history = events.map .noted ++ run.history := by
  unfold leave
  cases hresult : run.result with
  | error a => exact ⟨[_], rfl⟩
  | ok report =>
      obtain ⟨closing, hclose⟩ := run.close_history
      obtain ⟨events, henter⟩ := enter_history { r with
        report := r.report.add report, calls := run.close.calls, history := run.close.history } rest
      refine ⟨events ++ closing, ?_⟩
      rw [List.map_append, List.append_assoc, ← hclose]
      exact henter

theorem verify_history (serial : Nat) (reply : Reply (List TemplateDescriptor)) (r : Rollout) :
    ∃ events : List Event, (r.verify serial reply).history =
      events.map .noted ++ .answered serial none (.listed reply.result) ::
        (reply.notes.reverse.map .noted ++ r.history) := by
  cases hsource : preflightError? r.topology reply.result with
  | some source =>
      rw [verify_of_preflightError hsource]
      exact ⟨[.preflightFailed source], rfl⟩
  | none =>
      rw [verify_of_fine hsource]
      exact enter_history (r.heard serial reply) r.topology.deploymentOrder

/-- A deployment starts with the listing of templates, or with events only. -/
theorem start_history (options : DeploymentOptions) (stamp : RunStamp) (topology : Topology) :
    ∃ events : List Event, (Rollout.start options stamp topology []).history =
      events.map .noted ++ if options.verifyTemplates then listingHistory options stamp topology
        else [startNote options stamp topology] := by
  unfold Rollout.start
  by_cases hverify : options.verifyTemplates = true
  · simp only [hverify, if_true]
    exact ⟨[], rfl⟩
  · simp only [hverify, Bool.false_eq_true, if_false]
    exact enter_history _ topology.deploymentOrder

/-- What a move adds to the history of a deployment. -/
theorem Course.move_history (hcourse : Course platform options stamp topology r) (index : Nat) :
    ∃ added, (r.move platform index).history = added ++ r.history ∧
      ∀ o ∈ added, o.lists = false := by
  cases hcourse with
  | listing hverify =>
      obtain ⟨events, hevents⟩ := verify_history 0
        (platform (listingHistory options stamp topology) 0 Rollout.listing)
        ⟨topology, options, stamp, partialReport options stamp [], .listing 0, 1,
          listingHistory options stamp topology⟩
      refine ⟨_, hevents.trans (List.append_assoc _ (_ :: _) _).symm, ?_⟩
      intro o ho
      rcases List.mem_append.mp ho with hevent | hheard
      · exact Occurrence.lists_notes _ o hevent
      · rcases List.mem_cons.mp hheard with rfl | hnote
        · rfl
        · exact Occurrence.lists_notes _ o hnote
  | refused => exact ⟨[], rfl, by simp⟩
  | aborted => exact ⟨[], rfl, by simp⟩
  | completed => exact ⟨[], rfl, by simp⟩
  | @deploying _ _ _ _ _ _ _ run hopened hpassed horder hreached hover =>
      obtain ⟨added, hmove, hadded⟩ := run.move_history platform index
      cases hover' : (run.move platform index).isOver with
      | true =>
          obtain ⟨events, hevents⟩ := leave_history (run.move platform index) _ _
          simp only [move, hover', if_true]
          refine ⟨events.map .noted ++ added, ?_, ?_⟩
          · rw [hevents, hmove, List.append_assoc]
          · intro o ho
            rcases List.mem_append.mp ho with hevent | hmore
            · exact Occurrence.lists_notes _ o hevent
            · exact hadded o hmore
      | false =>
          simp only [move, hover', Bool.false_eq_true, if_false]
          exact ⟨added, hmove, hadded⟩

/-- Whatever moves are made, they only add to the history. -/
theorem Course.run_history (hcourse : Course platform options stamp topology r)
    (schedule : List Nat) :
    ∃ added, (r.run platform schedule).history = added ++ r.history ∧
      ∀ o ∈ added, o.lists = false := by
  induction schedule generalizing r with
  | nil => exact ⟨[], rfl, by simp⟩
  | cons index rest ih =>
      obtain ⟨added, hmove, hadded⟩ := hcourse.move_history index
      obtain ⟨later, hrun, hlater⟩ := ih (move_course hcourse index)
      refine ⟨later ++ added, ?_, ?_⟩
      · rw [List.append_assoc, ← hmove]
        exact hrun
      · intro o ho
        rcases List.mem_append.mp ho with hlate | hearly
        · exact hlater o hlate
        · exact hadded o hearly

/-- An answer that reaches a deployment is recorded. -/
theorem Course.move_answered (hcourse : Course platform options stamp topology r) {index : Nat}
    {serial : Nat} {o : Outturn} (hanswer : r.answer? platform index = some (serial, o)) :
    ∃ entity, .answered serial entity o ∈ (r.move platform index).history := by
  cases hcourse with
  | listing hverify =>
      obtain ⟨events, hevents⟩ := verify_history 0
        (platform (listingHistory options stamp topology) 0 Rollout.listing)
        ⟨topology, options, stamp, partialReport options stamp [], .listing 0, 1,
          listingHistory options stamp topology⟩
      cases hanswer
      exact ⟨none, hevents ▸ List.mem_append_right _ List.mem_cons_self⟩
  | refused => cases hanswer
  | aborted => cases hanswer
  | completed => cases hanswer
  | @deploying _ _ _ _ _ _ _ run hopened hpassed horder hreached hover =>
      obtain ⟨entity, hmem⟩ := TierRun.move_answered hanswer
      refine ⟨entity, ?_⟩
      cases hover' : (run.move platform index).isOver with
      | true =>
          obtain ⟨events, hevents⟩ := leave_history (run.move platform index) _ _
          simp only [move, hover', if_true]
          rw [hevents]
          exact List.mem_append_right _ hmem
      | false =>
          simp only [move, hover', Bool.false_eq_true, if_false]
          exact hmem

/-- An answer that reaches a deployment stays in the history. -/
theorem Course.answered_mem (hcourse : Course platform options stamp topology r)
    {index serial : Nat} {o : Outturn} (hanswer : r.answer? platform index = some (serial, o))
    (back : List Nat) :
    ∃ entity, .answered serial entity o ∈ (r.run platform (index :: back)).history := by
  obtain ⟨entity, hmem⟩ := hcourse.move_answered hanswer
  obtain ⟨added, hrun, _⟩ := (move_course hcourse index).run_history back
  exact ⟨entity, hrun ▸ List.mem_append_right added hmem⟩

end Rollout

end PolicyRollout
