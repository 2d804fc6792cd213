import PolicyRollout.Proofs.Deployment.Course
/-!
Every deployment can be brought to its end: the listing is answered by any
move, a tier is brought to its end by moves of its entities, and each tier that
ends leaves fewer to come.
-/
namespace PolicyRollout

namespace Rollout

/-- The number of tiers that have not ended, and one for the listing. -/
def tiersToGo (r : Rollout) : Nat :=
  match r.stage with
  | .listing _ => r.topology.deploymentOrder.length + 1
  | .tier _ rest => rest.length + 1
  | .over _ => 0

theorem enter_tiersToGo_le (r : Rollout) (tiers : List Tier) :
    (r.enter tiers).tiersToGo ≤ tiers.length := by
  induction tiers generalizing r with
  | nil => exact Nat.le_refl _
  | cons tier rest ih =>
      cases hover : (TierRun.start r.options tier r.calls r.history).isOver with
      | true =>
          simp only [enter, hover, if_true]
          exact Nat.le_succ_of_le (ih _)
      | false => simp [enter, hover, tiersToGo]

theorem leave_tiersToGo_le (run : TierRun) (rest : List Tier) (r : Rollout) :
    (r.leave run rest).tiersToGo ≤ rest.length := by
  unfold leave
  split
  · exact Nat.zero_le _
  · exact enter_tiersToGo_le ..

theorem verify_tiersToGo_le (serial : Nat) (reply : Reply (List TemplateDescriptor))
    (r : Rollout) : (r.verify serial reply).tiersToGo ≤ r.topology.deploymentOrder.length := by
  simp only [verify, foldl_note]
  split
  · exact Nat.zero_le _
  · split
    · exact Nat.zero_le _
    · exact enter_tiersToGo_le ..

theorem run_append (platform : Platform) (first second : List Nat) (r : Rollout) :
    r.run platform (first ++ second) = (r.run platform first).run platform second :=
  List.foldl_append

variable {platform : Platform} {options : DeploymentOptions} {stamp : RunStamp}
  {topology : Topology}

/-- A deployment that is not over can come to have fewer tiers to go. -/
theorem Course.exists_fewer {r : Rollout} (hcourse : Course platform options stamp topology r)
    (hresult : r.result? = none) :
    ∃ schedule, (r.run platform schedule).tiersToGo < r.tiersToGo := by
  cases hcourse with
  | listing hverify =>
      refine ⟨[0], ?_⟩
      exact Nat.lt_succ_of_le (verify_tiersToGo_le ..)
  | refused => simp [result?] at hresult
  | aborted => simp [result?] at hresult
  | completed => simp [result?] at hresult
  | @deploying _ _ _ _ runs tier rest run hopened hpassed horder hreached hover =>
      induction hgo : run.toGo using Nat.strong_induction_on generalizing run with
      | _ n ih =>
          obtain ⟨closed, log, hsound⟩ := hreached.sound
          obtain ⟨index, hlt⟩ := hsound.exists_move hreached.settled hover
          have hreached' := hreached.move index
          cases hover' : (run.move platform index).isOver with
          | true =>
              refine ⟨[index], ?_⟩
              simp only [Rollout.run, List.foldl_cons, List.foldl_nil, move, hover', if_true]
              exact Nat.lt_succ_of_le (leave_tiersToGo_le ..)
          | false =>
              obtain ⟨later, hlater⟩ := ih _ (hgo ▸ hlt) hreached' hover' rfl rfl
              refine ⟨index :: later, ?_⟩
              simp only [Rollout.run, List.foldl_cons, move, hover', Bool.false_eq_true, if_false]
              exact hlater

theorem Course.exists_result {r : Rollout} (hcourse : Course platform options stamp topology r) :
    ∃ schedule, (r.run platform schedule).result?.isSome = true := by
  induction hgo : r.tiersToGo using Nat.strong_induction_on generalizing r with
  | _ n ih =>
      cases hresult : r.result? with
      | some result => exact ⟨[], by simp [Rollout.run, hresult]⟩
      | none =>
          obtain ⟨first, hlt⟩ := hcourse.exists_fewer hresult
          obtain ⟨later, hlater⟩ := ih _ (hgo ▸ hlt) (hcourse.run first) rfl
          exact ⟨first ++ later, by rw [run_append]; exact hlater⟩

/-- Whatever has happened, a deployment can be brought to its end. -/
theorem run_exists_result (platform : Platform) (options : DeploymentOptions) (stamp : RunStamp)
    (topology : Topology) (schedule : List Nat) :
    ∃ later, (((Rollout.start options stamp topology []).run platform schedule).run
      platform later).result?.isSome = true :=
  (run_course platform options stamp topology schedule).exists_result

end Rollout

end PolicyRollout
