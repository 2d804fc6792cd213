import PolicyRollout.Proofs.Deployment.Consultation
import PolicyRollout.Proofs.Deployment.ServiceErrors
/-!
The moves a deployment has to go.  The listing of templates takes one move and every entity takes
three: it starts, it is judged and it is created.  Each move of an entity that can move brings the
deployment nearer to its end, and as long as it is not over some entity can.
-/
namespace PolicyRollout

namespace TierRun

theorem start_toGo (options : DeploymentOptions) (tier : Tier) (calls : Nat) (before : History) :
    (TierRun.start options tier calls before).toGo = 3 * tier.entities.size := by
  rw [start_eq_refill, refill_toGo, ← tier.seats_length]
  simp [toGo, unopened, slotsToGo, total]

/-- The entity at a position can move. -/
def Movable (r : TierRun) (index : Nat) : Prop :=
  ∃ slot ∈ r.window, slot.index = index ∧ slot.phase.isFinal = false

theorem movable_of_ready? {r : TierRun} {index : Nat} (hready : r.ready? = some index) :
    r.Movable index := by
  obtain ⟨slot, hfound, rfl⟩ := Option.map_eq_some_iff.mp hready
  have hphase : slot.phase = .admitted := by simpa using List.find?_some hfound
  refine ⟨slot, List.mem_of_find?_eq_some hfound, rfl, ?_⟩
  rw [hphase]
  rfl

theorem movable_of_consults {r : TierRun} {index serial : Nat}
    (hconsults : r.consults index = some serial) : r.Movable index := by
  obtain ⟨slot, hslot, hawaits⟩ := Option.bind_eq_some_iff.mp hconsults
  have hindex : slot.index = index := by simpa using List.find?_some hslot
  refine ⟨slot, List.mem_of_find?_eq_some hslot, hindex, ?_⟩
  by_contra hfinal
  rw [Bool.not_eq_false] at hfinal
  rw [Phase.awaits?_of_isFinal hfinal] at hawaits
  contradiction

/-- The first entity of the window has not started, or it waits for an answer. -/
theorem Settled.ready_or_awaited {r : TierRun} (hsettled : r.Settled) (hover : r.isOver = false) :
    (∃ index, r.ready? = some index) ∨ r.awaited ≠ [] := by
  obtain ⟨slot, rest, hwindow⟩ : ∃ slot rest, r.window = slot :: rest := by
    apply List.exists_cons_of_ne_nil
    simpa [isOver] using hover
  have hfinal : slot.phase.isFinal = false := hsettled.unreported slot (by simp [hwindow])
  by_cases hphase : slot.phase = .admitted
  · left
    exact ⟨slot.index, by simp [ready?, hwindow, hphase]⟩
  · right
    have hawaits : slot.phase.awaits?.isSome = true := by
      cases hslot : slot.phase <;> simp_all [Phase.awaits?, Phase.isFinal]
    obtain ⟨serial, hserial⟩ := Option.isSome_iff_exists.mp hawaits
    simp [awaited, hwindow, hserial]

end TierRun

namespace Rollout

/-- The number of moves a deployment can still make at most. -/
def toGo (r : Rollout) : Nat :=
  match r.stage with
  | .listing _ => 3 * r.topology.entityCount + 1
  | .tier run rest => run.toGo + 3 * total (rest.map fun tier => tier.entities.size)
  | .over _ => 0

theorem enter_toGo_le (r : Rollout) (tiers : List Tier) :
    (r.enter tiers).toGo ≤ 3 * total (tiers.map fun tier => tier.entities.size) := by
  induction tiers generalizing r with
  | nil => exact Nat.zero_le _
  | cons tier rest ih =>
      have hstart := TierRun.start_toGo r.options tier r.calls r.history
      cases hover : (TierRun.start r.options tier r.calls r.history).isOver with
      | true =>
          simp only [enter, hover, if_true]
          refine Nat.le_trans (ih _) ?_
          simp only [List.map_cons, total]
          omega
      | false =>
          simp only [enter, hover, Bool.false_eq_true, if_false, toGo, hstart, List.map_cons,
            total]
          omega

theorem leave_toGo_le (run : TierRun) (rest : List Tier) (r : Rollout) :
    (r.leave run rest).toGo ≤ 3 * total (rest.map fun tier => tier.entities.size) := by
  unfold leave
  split
  · exact Nat.zero_le _
  · exact enter_toGo_le ..

theorem begin_toGo_le (r : Rollout) : r.begin.toGo ≤ 3 * r.topology.entityCount := by
  rw [← r.topology.total_deploymentOrder]
  exact enter_toGo_le ..

theorem verify_toGo_le (serial : Nat) (reply : Reply (List TemplateDescriptor)) (r : Rollout) :
    (r.verify serial reply).toGo ≤ 3 * r.topology.entityCount := by
  cases hsource : preflightError? r.topology reply.result with
  | some source =>
      rw [verify_of_preflightError hsource]
      exact Nat.zero_le _
  | none =>
      rw [verify_of_fine hsource]
      exact begin_toGo_le _

theorem start_toGo_le (options : DeploymentOptions) (stamp : RunStamp) (topology : Topology)
    (before : History) :
    (Rollout.start options stamp topology before).toGo ≤ 3 * topology.entityCount + 1 := by
  by_cases hverify : options.verifyTemplates = true
  · simp only [start, hverify, if_true]
    exact Nat.le_refl _
  · simp only [start, hverify, Bool.false_eq_true, if_false]
    exact Nat.le_succ_of_le (begin_toGo_le _)

/-- A move of the entity at a position does something; so does any while templates are listed. -/
def Movable (r : Rollout) (index : Nat) : Prop :=
  match r.stage with
  | .listing _ => True
  | .tier run _ => run.Movable index
  | .over _ => False

variable {platform : Platform} {options : DeploymentOptions} {stamp : RunStamp}
  {topology : Topology} {r : Rollout}

theorem movable_of_ready? {index : Nat} (hready : r.current?.bind TierRun.ready? = some index) :
    r.Movable index := by
  unfold current? at hready
  unfold Movable
  cases hstage : r.stage with
  | listing serial => trivial
  | tier run rest =>
      rw [hstage] at hready
      exact TierRun.movable_of_ready? hready
  | _ => simp [hstage] at hready

theorem movable_of_consults {index serial : Nat} (hconsults : r.consults index = some serial) :
    r.Movable index := by
  unfold consults at hconsults
  unfold Movable
  cases hstage : r.stage with
  | listing serial => trivial
  | tier run rest =>
      rw [hstage] at hconsults
      exact TierRun.movable_of_consults hconsults
  | _ => simp [hstage] at hconsults

/-- Each move that does something brings a deployment nearer to its end. -/
theorem Course.move_toGo_lt (hcourse : Course platform options stamp topology r)
    (platform' : Platform) {index : Nat} (hmovable : r.Movable index) :
    (r.move platform' index).toGo < r.toGo := by
  cases hcourse with
  | listing hverify => exact Nat.lt_succ_of_le (verify_toGo_le ..)
  | deploying hopened hpassed horder hreached hover =>
      obtain ⟨slot, hslot, rfl, hfinal⟩ := hmovable
      obtain ⟨closed, log, hsound⟩ := hreached.sound
      have hlt := hsound.move_toGo_lt platform' hslot hfinal
      simp only [Rollout.move]
      split
      · refine Nat.lt_of_le_of_lt (leave_toGo_le ..) ?_
        simp only [toGo]
        omega
      · exact Nat.add_lt_add_right hlt _
  | _ => exact hmovable.elim

/-- As long as a deployment is not over, an entity can start or an answer is waited for. -/
theorem Course.ready_or_awaited (hcourse : Course platform options stamp topology r)
    (hresult : r.result? = none) :
    (∃ index, r.current?.bind TierRun.ready? = some index) ∨ r.awaited ≠ [] := by
  cases hcourse with
  | listing hverify => exact Or.inr (List.cons_ne_nil _ _)
  | deploying hopened hpassed horder hreached hover => exact hreached.settled.ready_or_awaited hover
  | _ => simp [result?] at hresult

end Rollout

end PolicyRollout
