import Mathlib.Logic.Function.Iterate
import PolicyRollout.Proofs.Deployment.Completion
import PolicyRollout.Proofs.Deployment.DryRun
/-!
Deployments with one entity at a time.  The window never holds more than one entity, so that a
move does nothing or is the only move there is.  Such a deployment is a machine that goes on step
by step: in whatever order moves are tried, it comes to one end.
-/
namespace PolicyRollout

namespace TierRun

/-- The position of the entity at the front of the window. -/
def front (r : TierRun) : Nat :=
  (r.window.head?.map Slot.index).getD 0

/-- If the window holds one entity at most, no other can move. -/
theorem move_eq_self_or_front {r : TierRun} (hnarrow : r.window.length ≤ 1) (platform : Platform)
    (index : Nat) : r.move platform index = r ∨ index = r.front := by
  unfold move slot? front
  match hwindow : r.window with
  | [] => exact Or.inl rfl
  | [slot] =>
      by_cases hindex : slot.index = index
      · exact Or.inr hindex.symm
      · left
        simp [hindex]
  | _ :: _ :: _ =>
      rw [hwindow] at hnarrow
      simp at hnarrow

/-- Two runs in step are given the same answers by platforms that answer by one table. -/
theorem InStep.answer?_eq {dryRun : Bool} {r r' : TierRun}
    (hstep : r.InStep (Rollout.alongside dryRun dryRun) r')
    {answer : (call : Call) → Except PlatformError call.Result} {platform platform' : Platform}
    (hanswers : platform.Answers answer) (hanswers' : platform'.Answers answer) (slot : Slot) :
    r.answer? platform (slot.later (Rollout.alongside dryRun dryRun).ahead) =
      r'.answer? platform' slot := by
  unfold answer?
  rw [Slot.later_phase]
  cases slot.phase with
  | validating serial =>
      simp only [Phase.later, hanswers _ _ _, hanswers' _ _ _]
      change some (serial, Outturn.judged (answer (.validate r.ctx.templateId
        (slot.entity.vars r.ctx)))) = _
      rw [hstep.ctx_eq]
      rfl
  | instantiating serial =>
      simp only [Phase.later, hanswers _ _ _, hanswers' _ _ _]
      change some (serial, Outturn.created (answer (.instantiate r.ctx.templateId
        (slot.entity.vars r.ctx) (some r.ctx.switch) r.options.dryRun))) =
        some (serial, Outturn.created (answer (.instantiate r'.ctx.templateId
          (slot.entity.vars r'.ctx) (some r'.ctx.switch) r'.options.dryRun)))
      rw [hstep.ctx_eq, hstep.dryRun, hstep.dryRun']
      rfl
  | _ => rfl

end TierRun

namespace Rollout

/-- The position of the only entity that can move, when entities are deployed one at a time. -/
def next (r : Rollout) : Nat :=
  match r.stage with
  | .tier run _ => run.front
  | _ => 0

/-- The deployment after the only move there is. -/
def step (platform : Platform) (r : Rollout) : Rollout :=
  r.move platform r.next

section

variable {platform : Platform} {options : DeploymentOptions} {stamp : RunStamp}
  {topology : Topology} {r : Rollout}

theorem move_eq_self_or_step (hcourse : Course platform options stamp topology r)
    (hsequential : options.entityConcurrency ≤ 1) (index : Nat) :
    r.move platform index = r ∨ r.move platform index = r.step platform := by
  cases hcourse with
  | listing => exact Or.inr rfl
  | refused => exact Or.inl rfl
  | aborted => exact Or.inl rfl
  | completed => exact Or.inl rfl
  | @deploying _ _ _ _ _ _ rest run _ _ _ hreached hover =>
      have hnarrow : run.window.length ≤ 1 := by
        obtain ⟨_, _, hsound⟩ := hreached.sound
        have hwidth := hsound.width
        rwa [DeploymentOptions.window, Nat.max_eq_left hsequential] at hwidth
      rcases run.move_eq_self_or_front hnarrow platform index with hstays | hfront
      · left
        simp [move, hstays, hover]
      · right
        rw [hfront]
        rfl

/-- A deployment of one entity at a time has made some steps. -/
theorem run_eq_iterate (hcourse : Course platform options stamp topology r)
    (hsequential : options.entityConcurrency ≤ 1) (schedule : List Nat) :
    ∃ steps, r.run platform schedule = (step platform)^[steps] r := by
  induction schedule generalizing r with
  | nil => exact ⟨0, rfl⟩
  | cons index rest ih =>
      obtain ⟨steps, hsteps⟩ := ih (move_course hcourse index)
      change (r.move platform index).run platform rest = (step platform)^[steps] _ at hsteps
      rcases move_eq_self_or_step hcourse hsequential index with hstays | hmoves
      · exact ⟨steps, by rw [run, List.foldl_cons, ← run, hsteps, hstays]⟩
      · refine ⟨steps + 1, ?_⟩
        rw [Function.iterate_succ_apply, ← hmoves]
        exact hsteps

theorem step_of_result {result : Except DeploymentError Report} (hover : r.result? = some result) :
    r.step platform = r := by
  unfold result? at hover
  unfold step move
  match hstage : r.stage with
  | .over _ => rfl
  | .listing serial => simp [hstage] at hover
  | .tier run rest => simp [hstage] at hover

theorem eq_of_iterate_result {steps steps' : Nat}
    {result : Except DeploymentError Report} (hle : steps ≤ steps')
    (hover : ((step platform)^[steps] r).result? = some result) :
    (step platform)^[steps'] r = (step platform)^[steps] r := by
  obtain ⟨more, rfl⟩ := Nat.exists_eq_add_of_le' hle
  rw [Function.iterate_add_apply]
  exact Function.iterate_fixed (step_of_result hover) more

/-- In whatever order moves are tried, a deployment of one entity at a time ends in one state. -/
theorem sequential_unique (hsequential : options.entityConcurrency ≤ 1)
    {schedule schedule' : List Nat} {result result' : Except DeploymentError Report}
    (hover : ((Rollout.start options stamp topology []).run platform schedule).result? =
      some result)
    (hover' : ((Rollout.start options stamp topology []).run platform schedule').result? =
      some result') :
    (Rollout.start options stamp topology []).run platform schedule =
      (Rollout.start options stamp topology []).run platform schedule' := by
  have hcourse := start_course platform options stamp topology
  obtain ⟨steps, hsteps⟩ := run_eq_iterate hcourse hsequential schedule
  obtain ⟨steps', hsteps'⟩ := run_eq_iterate hcourse hsequential schedule'
  rw [hsteps] at hover
  rw [hsteps'] at hover'
  rw [hsteps, hsteps']
  rcases Nat.le_total steps steps' with hle | hle
  · exact (eq_of_iterate_result hle hover).symm
  · exact eq_of_iterate_result hle hover'

end

section

variable {answer : (call : Call) → Except PlatformError call.Result}
  {platform platform' : Platform} {options : DeploymentOptions} {stamp stamp' : RunStamp}
  {topology : Topology}

/-- Two deployments in step are given the same answers by platforms that answer by one table. -/
theorem InStep.answer?_eq {dryRun : Bool} {r r' : Rollout}
    (hstep : r.InStep (alongside dryRun dryRun) r') (hanswers : platform.Answers answer)
    (hanswers' : platform'.Answers answer) (index : Nat) :
    r.answer? platform index = r'.answer? platform' index := by
  obtain ⟨_, hstages⟩ := hstep
  obtain ⟨topology, options, stamp, report, stage, calls, history⟩ := r
  obtain ⟨topology', options', stamp', report', stage', calls', history'⟩ := r'
  cases hstages with
  | listing => simp only [answer?, hanswers _ _ _, hanswers' _ _ _]; rfl
  | ended => rfl
  | @tier run run' hrun rest =>
      simp only [answer?, hrun.slot?_eq index]
      cases run'.slot? index with
      | none => rfl
      | some slot => exact hrun.answer?_eq hanswers hanswers' slot

/-- A deployment in step with one that is over is over, and came to the same. -/
theorem InStep.exists_result {c : Comparison} {r r' : Rollout} (hstep : r.InStep c r')
    {result' : Except DeploymentError Report} (hover' : r'.result? = some result') :
    ∃ result, r.result? = some result ∧ Agrees result result' := by
  have hstages := hstep.stages
  unfold result? at hover' ⊢
  generalize r.stage = stage at hstages ⊢
  generalize r'.stage = stage' at hstages hover'
  cases hstages with
  | listing => cases hover'
  | tier => cases hover'
  | ended hagrees =>
      cases hover'
      exact ⟨_, rfl, hagrees⟩

/-- Two deployments with the same moves are in step with platforms that answer by one table. -/
theorem run_inStep_of_answers (hanswers : platform.Answers answer)
    (hanswers' : platform'.Answers answer) (schedule : List Nat) :
    ((Rollout.start options stamp topology []).run platform schedule).InStep
      (alongside options.dryRun options.dryRun)
      ((Rollout.start options stamp' topology []).run platform' schedule) := by
  have hstart := start_inStep (c := alongside options.dryRun options.dryRun) rfl rfl
    (rfl : options.verifyTemplates = options.verifyTemplates)
    (rfl : options.window = options.window) rfl rfl stamp stamp' topology
  apply hstart.run
  intro front index back _ hfront serial o o' hanswer hanswer'
  rw [hfront.answer?_eq hanswers hanswers', hanswer', Option.some_inj, Prod.mk.injEq] at hanswer
  exact hanswer.2 ▸ Outturn.Alike.refl o'

/-- Deployments of one entity at a time make the same calls and come to the same with platforms
that answer by one table, in whatever order their moves are tried. -/
theorem sequential_alike (hsequential : options.entityConcurrency ≤ 1)
    (hanswers : platform.Answers answer) (hanswers' : platform'.Answers answer)
    {schedule schedule' : List Nat} {result result' : Except DeploymentError Report}
    (hover : ((Rollout.start options stamp topology []).run platform schedule).result? =
      some result)
    (hover' : ((Rollout.start options stamp' topology []).run platform' schedule').result? =
      some result') :
    ((Rollout.start options stamp topology []).run platform schedule).history.made =
        ((Rollout.start options stamp' topology []).run platform' schedule').history.made ∧
      Agrees result result' := by
  let r := (Rollout.start options stamp topology []).run platform schedule'
  let r' := (Rollout.start options stamp' topology []).run platform' schedule'
  have hstep : r.InStep (alongside options.dryRun options.dryRun) r' :=
    run_inStep_of_answers hanswers hanswers' schedule'
  have hself : r'.InStep (alongside options.dryRun options.dryRun) r' :=
    run_inStep_of_answers hanswers' hanswers' schedule'
  obtain ⟨result₁, hover₁, hagrees⟩ := hstep.exists_result hover'
  have hunique := sequential_unique hsequential hover hover₁
  refine ⟨?_, ?_⟩
  · rw [hunique]
    exact hstep.past.made_eq.trans hself.past.made_eq.symm
  · rw [hunique] at hover
    cases hover.symm.trans hover₁
    exact hagrees

end

end Rollout

end PolicyRollout
