import PolicyRollout.Proofs.Cli.Preparation
import PolicyRollout.Proofs.Document.Origins
/-!
How the program fails.  A deployment that cannot start has sent and printed nothing; one that starts
prints one report, the whole one or, when it is given up, as far as it came, and only then does the
status tell of a failure.  A plan is printed without anything being sent.
-/
namespace PolicyRollout.Cli

open Http (Client)

variable {lookup : String → Option String} {w : World} {p : Progress}

theorem Invocation.exists_arguments {rest : List String} {command : Command}
    (hcommand : Invocation.deploy lookup rest = .ok command) : ∃ a, command = .deploy a := by
  unfold Invocation.deploy at hcommand
  obtain ⟨a, _, hcommand⟩ := Document.bind_eq_ok_iff.mp hcommand
  obtain ⟨topology, _, hcommand⟩ := Document.bind_eq_ok_iff.mp hcommand
  exact ⟨_, (Except.ok.inj hcommand).symm⟩

theorem Invocation.exists_path {rest : List String} {command : Command}
    (hcommand : Invocation.plan lookup rest = .ok command) : ∃ path, command = .plan path := by
  unfold Invocation.plan at hcommand
  obtain ⟨a, _, hcommand⟩ := Document.bind_eq_ok_iff.mp hcommand
  obtain ⟨topology, _, hcommand⟩ := Document.bind_eq_ok_iff.mp hcommand
  exact ⟨_, (Except.ok.inj hcommand).symm⟩

namespace DeployJob

/-- The report of a deployment that is over is printed whole and the program succeeds; that of one
that was given up is printed as far as it came and the program fails. -/
theorem Ended.report {job : DeployJob} {r : Rollout} {result : Except DeploymentError Report}
    {out : Transcript} (hended : job.Ended r result out) :
    (∃ report, result = .ok report ∧ out.texts = [job.format.render report] ∧
      out.ending.status = 0) ∨
    ∃ e, result = .error e ∧ out.texts = [job.format.render e.completed] ∧
      out.ending.status ≠ 0 ∧ out.ending.complaint = (Failure.deployment e).text := by
  cases result with
  | ok report => exact Or.inl ⟨report, rfl, hended.texts, hended.status⟩
  | error e =>
      refine Or.inr ⟨e, rfl, hended.texts, ?_, hended.complaint⟩
      rw [hended.status]
      exact Nat.one_ne_zero

end DeployJob

theorem recordAll_leads (events : List Event) (next : Dialogue) (hfresh : p.Fresh) :
    ∃ p', Leads w (.recordAll events next) p next p' := by
  induction events generalizing p with
  | nil => exact ⟨p, .refl hfresh⟩
  | cons event rest ih =>
      obtain ⟨p', hleads⟩ := ih (hfresh.record event)
      exact ⟨p', (Leads.record hfresh event).trans hleads⟩

def planText (t : Topology) : String :=
  (Json.Value.array (t.plan.map Instantiation.toJson)).prettyText ++ "\n"

/-- A plan is printed if there is a topology, and nothing is sent either way. -/
theorem printPlan_cases (w : World) (path : Option String) :
    let out := (printPlan path).converse w
    out.requests = [] ∧
      ∀ t, w.Loads t path → out.texts = [planText t] ∧ out.ending.status = 0 := by
  rcases withTopology_cases w path _ Progress.start_fresh with
    ⟨hunloadable, hrefused⟩ | ⟨t, p, hloads, hleads⟩
  · exact ⟨hrefused.requests, fun t hloads => absurd hunloadable hloads.not_unloadable⟩
  · obtain ⟨p', hrecord⟩ := recordAll_leads (t.droppedDependencies.map .droppedDependency)
      (.say (planText t) (.stop .success)) hleads.fresh
    have hall := hleads.trans hrecord
    have hout : (printPlan path).converse w =
        (Dialogue.say (planText t) (.stop .success)).converseFrom w p' := hall.converse
    refine ⟨?_, fun t' hloads' => ?_⟩
    · rw [hout]
      exact hall.fresh.sent
    · obtain rfl := hloads.unique hloads'
      rw [hout]
      refine ⟨?_, rfl⟩
      exact (Progress.texts_put_text p' (planText t)).trans (by rw [hall.fresh.silent]; rfl)

section Program

variable {rest : List String}

theorem program_of_deploy {a : DeployArguments}
    (hinvocation : Invocation.deploy lookup rest = .ok (.deploy a)) :
    program lookup ("deploy" :: rest) = deployTopology lookup a := by
  rw [program, Invocation.ofArguments, hinvocation]
  rfl

theorem program_of_plan {path : Option String}
    (hinvocation : Invocation.plan lookup rest = .ok (.plan path)) :
    program lookup ("plan" :: rest) = printPlan path := by
  rw [program, Invocation.ofArguments, hinvocation]
  rfl

/-- Arguments that make no sense are refused. -/
theorem refused_of_misuse {error : UsageError}
    (hinvocation : Invocation.deploy lookup rest = .error (.misuse error)) :
    Refused ((program lookup ("deploy" :: rest)).converse w) := by
  rw [program, Invocation.ofArguments, hinvocation]
  exact ⟨rfl, rfl, Nat.succ_ne_zero 1⟩

theorem plan_requests (lookup : String → Option String) (rest : List String) (w : World) :
    ((program lookup ("plan" :: rest)).converse w).requests = [] := by
  cases hinvocation : Invocation.plan lookup rest with
  | ok command =>
      obtain ⟨path, rfl⟩ := Invocation.exists_path hinvocation
      rw [program_of_plan hinvocation]
      exact (printPlan_cases w path).1
  | error stop =>
      rw [program, Invocation.ofArguments, hinvocation]
      cases stop <;> rfl

end Program

end PolicyRollout.Cli
