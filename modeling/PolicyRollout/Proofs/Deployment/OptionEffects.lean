import PolicyRollout.Proofs.Deployment.Gating
import PolicyRollout.Proofs.Deployment.Growth
import PolicyRollout.Proofs.Deployment.PlanAgreement
import PolicyRollout.Proofs.Deployment.TierBarrier
/-!
What the options of a deployment do.  They decide on whether templates are listed before anything
else is called, on the mark that each instantiation and the report bear, and on how many entities
are under way at once.
-/
namespace PolicyRollout

/-- A call asks for what is planned: an entry of the plan is validated, or it is instantiated and
marked as a dry run or not. -/
def Topology.Asks (t : Topology) (dryRun : Bool) (call : Call) : Prop :=
  ∃ p ∈ t.plan, call = p.validation ∨ call = p.creation dryRun

theorem Topology.Asks.lists_eq {t : Topology} {dryRun : Bool} {call : Call}
    (hasks : t.Asks dryRun call) : call.lists = false := by
  obtain ⟨p, _, rfl | rfl⟩ := hasks
  · rfl
  · rfl

namespace History

/-- The calls of a history, in the order in which they were made. -/
def callsMade (h : History) : List Call :=
  h.reverse.filterMap Occurrence.call?

theorem callsMade_append (later earlier : History) :
    callsMade (later ++ earlier) = earlier.callsMade ++ later.callsMade := by
  simp [callsMade]

theorem callsMade_notes (events : List Event) : callsMade (events.map .noted) = [] := by
  apply List.filterMap_eq_nil_iff.mpr
  intro o ho
  obtain ⟨event, _, rfl⟩ := List.mem_map.mp (List.mem_reverse.mp ho)
  rfl

theorem exists_called {h : History} {call : Call} (hcall : call ∈ h.callsMade) :
    ∃ serial entity, .called serial entity call ∈ h := by
  obtain ⟨o, ho, hmade⟩ := List.mem_filterMap.mp hcall
  cases o with
  | called serial entity call' =>
      obtain rfl := Option.some_inj.mp hmade
      exact ⟨serial, entity, List.mem_reverse.mp ho⟩
  | _ => contradiction

end History

/-- A call that was made in a tier validates one of its entities or instantiates it. -/
theorem TierRun.Sound.called_cases {platform : Platform} {options : DeploymentOptions} {tier : Tier}
    {before : History} {closed : List Slot} {log : History} {r : TierRun}
    (hsound : Sound platform options tier before closed log r) {serial : Nat} {entity : Option Nat}
    {call : Call} (hcalled : .called serial entity call ∈ log) :
    ∃ p ∈ tier.plan, call = p.validation ∨ call = p.creation options.dryRun := by
  rcases hsound.recorded.known _ hcalled with ⟨event, hevent⟩ | ⟨slot, hslot, hentity⟩
  · contradiction
  · have hseat := (hsound.enrolled.seats_getElem? (hsound.enrolled.getElem?_index hslot)).2
    refine ⟨_, List.mem_map_of_mem (List.mem_of_getElem? hseat), ?_⟩
    have hmem : call ∈ (History.about slot.index log).filterMap Occurrence.call? :=
      List.mem_filterMap.mpr ⟨_, History.mem_about_iff.mpr ⟨hcalled, hentity⟩, rfl⟩
    rcases (hsound.recorded.trail slot hslot).calls_cases with hnone | hone | htwo
    · rw [hnone] at hmem
      contradiction
    · rw [hone] at hmem
      exact Or.inl (List.mem_singleton.mp hmem)
    · rw [htwo] at hmem
      exact (List.mem_pair.mp hmem).symm

theorem Occurrence.lists_of_isGeneral {serial : Nat} {entity : Option Nat} {call : Call}
    (hgeneral : (Occurrence.called serial entity call).isGeneral = true) : call.lists = true :=
  of_isGeneral (P := fun o => ∀ call ∈ o.call?, call.lists = true) (by simp [call?])
    (by simp [call?, Call.lists]) (by simp [call?]) hgeneral call rfl

namespace Rollout

variable {platform : Platform} {options : DeploymentOptions} {stamp : RunStamp}
  {topology : Topology} {r : Rollout}

/-- A call that was made by a deployment lists templates or asks for what is planned. -/
theorem Course.called_cases (hcourse : Course platform options stamp topology r) {serial : Nat}
    {entity : Option Nat} {call : Call} (hcalled : .called serial entity call ∈ r.history) :
    call.lists = true ∨ topology.Asks options.dryRun call := by
  obtain ⟨chapters, hchronicle⟩ := hcourse.exists_chronicle
  obtain ⟨opening, closing, hhistory, hgeneral⟩ := hchronicle.history_eq
  rw [hhistory, List.mem_append, List.mem_append] at hcalled
  rcases hcalled with (hclosing | hchapters) | hopening
  · exact Or.inl (Occurrence.lists_of_isGeneral (hgeneral _ (List.mem_append_left _ hclosing)))
  · right
    obtain ⟨c, hc, hlog⟩ := List.mem_flatMap.mp hchapters
    have hc := List.mem_reverse.mp hc
    obtain ⟨before, closed, log, events, hsound, _, hcut⟩ := (hchronicle.told c hc).exists_sound
    have hcalled : .called serial entity call ∈ log := by
      rw [hcut] at hlog
      simpa using hlog
    obtain ⟨p, hp, hasks⟩ := hsound.called_cases hcalled
    have htier := hchronicle.order.subset (List.mem_map_of_mem hc)
    exact ⟨p, List.mem_flatMap.mpr ⟨c.run.tier, htier, hp⟩, hasks⟩
  · exact Or.inl (Occurrence.lists_of_isGeneral (hgeneral _ (List.mem_append_right _ hopening)))

theorem start_callsMade (options : DeploymentOptions) (stamp : RunStamp) (topology : Topology) :
    (Rollout.start options stamp topology []).history.callsMade =
      if options.verifyTemplates then [listing] else [] := by
  obtain ⟨events, hhistory⟩ := start_history options stamp topology
  rw [hhistory, History.callsMade_append, History.callsMade_notes, List.append_nil]
  cases options.verifyTemplates <;> rfl

/-- Templates are listed first if that is asked for, and all other calls follow. -/
theorem run_callsMade (platform : Platform) (options : DeploymentOptions) (stamp : RunStamp)
    (topology : Topology) (schedule : List Nat) :
    ∃ later, ((Rollout.start options stamp topology []).run platform schedule).history.callsMade =
        (if options.verifyTemplates then [listing] else []) ++ later ∧
      ∀ call ∈ later, topology.Asks options.dryRun call := by
  obtain ⟨added, hrun, hadded⟩ :=
    (start_course platform options stamp topology).run_history schedule
  refine ⟨History.callsMade added, ?_, ?_⟩
  · rw [hrun, History.callsMade_append, start_callsMade]
  · intro call hcall
    obtain ⟨serial, entity, hcalled⟩ := History.exists_called hcall
    have hmem : .called serial entity call ∈
        ((Rollout.start options stamp topology []).run platform schedule).history := by
      rw [hrun]
      exact List.mem_append_left _ hcalled
    refine ((run_course ..).called_cases hmem).resolve_left fun hlists => ?_
    rw [show call.lists = false from hadded _ hcalled] at hlists
    contradiction

theorem Course.reported_dryRun (hcourse : Course platform options stamp topology r)
    {result : Except DeploymentError Report} (hresult : r.result? = some result) :
    (reported result).dryRun = options.dryRun := by
  rw [(hcourse.reported_eq hresult).1]
  rfl

/-- No more entities of a tier are under way than a window. -/
theorem Course.window_length_le (hcourse : Course platform options stamp topology r)
    {run : TierRun} {rest : List Tier} (hstage : r.stage = .tier run rest) :
    run.window.length ≤ options.window := by
  cases hcourse with
  | deploying hopened hpassed horder hreached hover =>
      obtain ⟨rfl, rfl⟩ := Stage.tier.inj hstage
      obtain ⟨closed, log, hsound⟩ := hreached.sound
      exact hsound.width
  | _ => contradiction

end Rollout

end PolicyRollout
