import PolicyRollout.Cli.Deploy
import PolicyRollout.Proofs.Deployment.Consultation
import PolicyRollout.Proofs.Deployment.Countdown
/-!
The calls of a deployment that wait for their answers, as the program keeps them.  They are those
of the history that have not been answered, in the order in which they were made; each belongs to
the entity that a move of it would take the answer of; and a window of them is the most there is.
-/
namespace PolicyRollout

namespace TierRun

theorem map_fst_outstanding? (r : TierRun) (slot : Slot) :
    (r.outstanding? slot).map Prod.fst = slot.phase.awaits? := by
  unfold outstanding? Phase.awaits?
  cases slot.phase <;> rfl

theorem awaited_length_le (r : TierRun) : r.awaited.length ≤ r.window.length :=
  List.length_filterMap_le ..

/-- An entity that has not started takes no answer. -/
theorem Sound.consults_of_ready? {platform : Platform} {options : DeploymentOptions} {tier : Tier}
    {before : History} {closed : List Slot} {log : History} {r : TierRun}
    (hsound : Sound platform options tier before closed log r) {index : Nat}
    (hready : r.ready? = some index) : r.consults index = none := by
  obtain ⟨slot, hfound, rfl⟩ := Option.map_eq_some_iff.mp hready
  have hphase : slot.phase = .admitted := by simpa using List.find?_some hfound
  rw [consults, hsound.slot?_eq (List.mem_of_find?_eq_some hfound), Option.bind_some, hphase]
  rfl

end TierRun

namespace Rollout

variable {platform : Platform} {options : DeploymentOptions} {stamp : RunStamp}
  {topology : Topology} {r : Rollout}

theorem Course.consults_of_ready? (hcourse : Course platform options stamp topology r)
    {index : Nat} (hready : r.current?.bind TierRun.ready? = some index) :
    r.consults index = none := by
  cases hcourse with
  | deploying hopened hpassed horder hreached hover =>
      obtain ⟨closed, log, hsound⟩ := hreached.sound
      exact hsound.consults_of_ready? hready
  | _ => simp [current?] at hready

theorem one_le_window (options : DeploymentOptions) : 1 ≤ options.window :=
  Nat.le_max_left ..

/-- No more calls wait for their answers than a window. -/
theorem Course.unanswered_length_le (hcourse : Course platform options stamp topology r) :
    r.history.unanswered.length ≤ options.window := by
  rw [← hcourse.tally.2.length_eq]
  cases hcourse with
  | listing hverify => exact one_le_window options
  | deploying hopened hpassed horder hreached hover =>
      obtain ⟨closed, log, hsound⟩ := hreached.sound
      exact Nat.le_trans (TierRun.awaited_length_le _) hsound.width
  | _ => exact Nat.zero_le _

/-- A call that a move takes the answer of waits for it. -/
theorem Course.consults_mem_unanswered (hcourse : Course platform options stamp topology r)
    {index serial : Nat} (hconsults : r.consults index = some serial) :
    serial ∈ r.history.unanswered := by
  apply hcourse.tally.2.subset
  unfold consults at hconsults
  unfold awaited
  cases hstage : r.stage with
  | listing first => simpa [hstage, eq_comm] using hconsults
  | tier run rest =>
      rw [hstage] at hconsults
      obtain ⟨slot, hslot, hawaits⟩ := Option.bind_eq_some_iff.mp hconsults
      exact List.mem_filterMap.mpr ⟨slot, List.mem_of_find?_eq_some hslot, hawaits⟩
  | _ => simp [hstage] at hconsults

end Rollout

namespace Cli

variable {platform : Platform} {options : DeploymentOptions} {stamp : RunStamp}
  {topology : Topology} {r : Rollout}

theorem pending_serials_perm (r : Rollout) :
    ((pending r).map Pending.serial).Perm r.awaited := by
  unfold pending Rollout.awaited
  cases r.stage with
  | listing serial => exact .refl _
  | tier run rest =>
      refine ((List.mergeSort_perm ..).map _).trans (.of_eq ?_)
      rw [List.map_filterMap]
      apply List.filterMap_congr
      intro slot _
      rw [← run.map_fst_outstanding? slot]
      cases run.outstanding? slot <;> rfl
  | _ => exact .refl _

theorem pending_ordered (r : Rollout) :
    (pending r).Pairwise fun p q => p.serial ≤ q.serial := by
  unfold pending
  cases r.stage with
  | listing serial => exact List.pairwise_singleton ..
  | tier run rest =>
      have hsorted := @List.pairwise_mergeSort Pending (fun p q => p.serial ≤ q.serial)
        (fun _ _ _ hpq hqs => by simp only [decide_eq_true_eq] at *; omega)
        (fun _ _ => by simp only [Bool.or_eq_true, decide_eq_true_eq]; omega)
      simpa only [decide_eq_true_eq] using hsorted _
  | _ => exact .nil

/-- The calls that wait are those of the history that have not been answered, in their order. -/
theorem pending_serials (hcourse : Rollout.Course platform options stamp topology r) :
    (pending r).map Pending.serial = r.history.unanswered := by
  obtain ⟨hnumbered, hperm⟩ := hcourse.tally
  have hordered : ((pending r).map Pending.serial).Pairwise (· ≤ ·) :=
    List.pairwise_map.mpr (pending_ordered r)
  have hordered' : r.history.unanswered.Pairwise (· ≤ ·) :=
    hnumbered.unanswered_ordered.imp Nat.le_of_lt
  exact ((pending_serials_perm r).trans hperm).eq_of_pairwise
    (fun _ _ _ _ => Nat.le_antisymm) hordered hordered'

/-- A call that waits is the one that a move of its entity takes the answer of. -/
theorem consults_of_mem_pending (hcourse : Rollout.Course platform options stamp topology r)
    {p : Pending} (hp : p ∈ pending r) : r.consults p.index = some p.serial := by
  cases hcourse with
  | listing hverify =>
      obtain rfl := List.mem_singleton.mp hp
      rfl
  | @deploying _ _ _ _ _ _ _ run hopened hpassed horder hreached hover =>
      obtain ⟨closed, log, hsound⟩ := hreached.sound
      obtain ⟨slot, hslot, hpending⟩ := List.mem_filterMap.mp ((List.mergeSort_perm ..).subset hp)
      obtain ⟨⟨serial, call⟩, houtstanding, rfl⟩ := Option.map_eq_some_iff.mp hpending
      have hawaits := run.map_fst_outstanding? slot
      rw [houtstanding] at hawaits
      change run.consults slot.index = some serial
      rw [TierRun.consults, hsound.slot?_eq hslot]
      exact hawaits.symm
  | _ => simp [pending] at hp

/-- What has happened is what has been added to the history. -/
theorem happened_eq {before after : Rollout} {added : History}
    (hadded : after.history = added ++ before.history) :
    happened before after = added.reverse := by
  simp [happened, hadded]

end Cli

end PolicyRollout
