import PolicyRollout.Proofs.Deployment.ParallelRollouts
/-!
Dry runs.  A dry run makes the same calls as the real run, each marked as a dry run, and
comes to the same, as long as the platform answers the calls of both alike: with the same
errors, the same verdicts and the same numbers of rules.
-/
namespace PolicyRollout

namespace History

/-- The answers to calls of the same serial number are alike. -/
def AnsweredAlike (h h' : History) : Prop :=
  ∀ serial entity entity' o o', .answered serial entity o ∈ h → .answered serial entity' o' ∈ h' →
    o.Alike o'

end History

namespace Rollout

section

variable {platform platform' : Platform} {options options' : DeploymentOptions}
  {stamp stamp' : RunStamp} {topology : Topology}

/-- Deployments that are compared from their start. -/
def alongside (dryRun dryRun' : Bool) : Comparison where
  ahead := 0
  base := []
  dryRun
  dryRun'
  alike := Outturn.Alike
  alike_sound := id

/-- Deployments that were answered alike are in step. -/
theorem run_inStep (hverify : options.verifyTemplates = options'.verifyTemplates)
    (hwindow : options.window = options'.window) (schedule : List Nat)
    (halike : History.AnsweredAlike
      ((Rollout.start options stamp topology []).run platform schedule).history
      ((Rollout.start options' stamp' topology []).run platform' schedule).history) :
    ((Rollout.start options stamp topology []).run platform schedule).InStep
      (alongside options.dryRun options'.dryRun)
      ((Rollout.start options' stamp' topology []).run platform' schedule) := by
  have hstart := start_inStep (c := alongside options.dryRun options'.dryRun) rfl rfl hverify
    hwindow rfl rfl stamp stamp' topology
  apply hstart.run
  rintro front index back rfl _ serial o o' hanswer hanswer'
  obtain ⟨entity, hmem⟩ :=
    (run_course platform options stamp topology front).answered_mem hanswer back
  obtain ⟨entity', hmem'⟩ :=
    (run_course platform' options' stamp' topology front).answered_mem hanswer' back
  rw [← run_append] at hmem hmem'
  exact halike serial entity entity' o o' hmem hmem'

/-- All instantiations of a deployment are marked as its options have it. -/
theorem called_dryRun (schedule : List Nat) {serial : Nat} {entity : Option Nat} {id : String}
    {vars : Variables} {switch : Option String} {dryRun : Bool}
    (hcalled : .called serial entity (.instantiate id vars switch dryRun) ∈
      ((Rollout.start options stamp topology []).run platform schedule).history) :
    dryRun = options.dryRun := by
  let r := (Rollout.start options stamp topology []).run platform schedule
  have hstart := start_inStep (c := alongside options.dryRun options.dryRun) rfl rfl rfl
    (rfl : options.window = options.window) rfl rfl stamp stamp topology
  have hstep : r.InStep (alongside options.dryRun options.dryRun) r := by
    apply hstart.run
    intro front index back _ _ serial o o' hanswer hanswer'
    cases hanswer.symm.trans hanswer'
    exact .refl o
  have hmem : (serial, entity, Call.instantiate id vars switch dryRun) ∈ r.history.made :=
    List.mem_filterMap.mpr ⟨_, hcalled, rfl⟩
  rw [hstep.past.made_eq] at hmem
  obtain ⟨⟨serial', entity', call⟩, _, heq⟩ := List.mem_map.mp ((List.append_nil _) ▸ hmem)
  have hcall : call.withDryRun options.dryRun = .instantiate id vars switch dryRun :=
    congrArg (·.2.2) heq
  cases call with
  | list category tags => cases hcall
  | validate id vars => cases hcall
  | instantiate id vars switch dryRun =>
      cases hcall
      rfl

end

/-- A dry run marks all its instantiations as such.  If the platform answered the calls
of a dry run and of the real run alike, the dry run made the calls of the real run, each
marked as a dry run, and came to the same: only the identity of the run and the mark in
its report are others. -/
theorem dryRun_predicts (options : DeploymentOptions) (platform platform' : Platform)
    (stamp stamp' : RunStamp) (topology : Topology) (schedule : List Nat) :
    let dry : DeploymentOptions := { options with dryRun := true }
    let real : DeploymentOptions := { options with dryRun := false }
    let r := (Rollout.start dry stamp topology []).run platform schedule
    let r' := (Rollout.start real stamp' topology []).run platform' schedule
    (∀ serial entity id vars switch dryRun,
      .called serial entity (.instantiate id vars switch dryRun) ∈ r.history → dryRun = true) ∧
    (r.history.AnsweredAlike r'.history →
      r.history.made = r'.history.made.map (fun (serial, entity, call) =>
        (serial, entity, call.withDryRun true)) ∧
      r.result? = r'.result?.map (rerun dry stamp)) := by
  intro dry real r r'
  refine ⟨fun serial entity id vars switch dryRun => called_dryRun schedule, fun halike => ?_⟩
  have hverify : dry.verifyTemplates = real.verifyTemplates := rfl
  have hwindow : dry.window = real.window := rfl
  have hstep : r.InStep (alongside dry.dryRun real.dryRun) r' :=
    run_inStep hverify hwindow schedule halike
  refine ⟨?_, hstep.result?_eq (run_course platform dry stamp topology schedule)⟩
  have hmade := hstep.past.made_eq
  exact hmade.trans (List.append_nil _)

end Rollout

namespace Previewing

/-- A platform that creates the rules of an instance, and only shows them in a dry run. -/
def platform : Platform := fun _ _ call =>
  match call with
  | .list .. => ⟨.ok [], []⟩
  | .validate .. => ⟨.ok .accepted, []⟩
  | .instantiate _ _ _ true => ⟨.ok ⟨none, some [.null], []⟩, []⟩
  | .instantiate _ _ _ false => ⟨.ok (.ofRules [.null]), []⟩

def topology : Topology :=
  ⟨[⟨"web", "ls-web", none, none, .servers [Outage.server "a" true]⟩]⟩

def options : DeploymentOptions := ⟨false, 1, false⟩

def dry : Rollout :=
  (Rollout.start { options with dryRun := true } ⟨"dry", "morning", "noon"⟩ topology []).run
    platform [0, 0, 0]

def real : Rollout :=
  (Rollout.start { options with dryRun := false } ⟨"real", "evening", "night"⟩ topology []).run
    platform [0, 0, 0]

def answers (h : History) : List (Nat × Outturn) :=
  h.filterMap fun o => match o with
    | .answered serial _ outturn => some (serial, outturn)
    | _ => none

theorem answers_dry :
    answers dry.history = [(1, .created (.ok ⟨none, some [.null], []⟩)),
      (0, .judged (.ok .accepted))] := by
  with_unfolding_all rfl

theorem answers_real :
    answers real.history = [(1, .created (.ok (.ofRules [.null]))),
      (0, .judged (.ok .accepted))] := by
  with_unfolding_all rfl

theorem answeredAlike : dry.history.AnsweredAlike real.history := by
  intro serial entity entity' o o' ho ho'
  have hmem : (serial, o) ∈ answers dry.history := List.mem_filterMap.mpr ⟨_, ho, rfl⟩
  have hmem' : (serial, o') ∈ answers real.history := List.mem_filterMap.mpr ⟨_, ho', rfl⟩
  simp only [answers_dry, List.mem_cons, Prod.mk.injEq, List.not_mem_nil, or_false] at hmem
  simp only [answers_real, List.mem_cons, Prod.mk.injEq, List.not_mem_nil, or_false] at hmem'
  rcases hmem with ⟨rfl, rfl⟩ | ⟨rfl, rfl⟩
  · rcases hmem' with ⟨_, rfl⟩ | ⟨hserial, _⟩
    · exact .created rfl
    · cases hserial
  · rcases hmem' with ⟨hserial, _⟩ | ⟨_, rfl⟩
    · cases hserial
    · exact .judged rfl rfl

theorem dryRun_predicts_previewing :
    dry.history.made = real.history.made.map (fun (serial, entity, call) =>
        (serial, entity, call.withDryRun true)) ∧
      dry.result? = some (.ok ⟨"dry", true, "morning", some "noon",
        [⟨"web", .web, "ls-web", [.deployed "a" "web-server" 1]⟩]⟩) := by
  obtain ⟨hmade, hresult⟩ := (Rollout.dryRun_predicts options platform platform
    ⟨"dry", "morning", "noon"⟩ ⟨"real", "evening", "night"⟩ topology [0, 0, 0]).2 answeredAlike
  have hreal : real.result? = some (.ok ⟨"real", false, "evening", some "night",
      [⟨"web", .web, "ls-web", [.deployed "a" "web-server" 1]⟩]⟩) := by
    decide +kernel
  refine ⟨hmade, ?_⟩
  exact hresult.trans (congrArg (Option.map _) hreal)

end Previewing

end PolicyRollout
