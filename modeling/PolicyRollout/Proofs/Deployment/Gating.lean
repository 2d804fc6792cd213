import PolicyRollout.Proofs.Deployment.Chronicle
/-!
Validation before instantiation.  Whatever calls of different entities lie
between them, the calls for one entity are its validation and, once that has been
answered and granted, its instantiation, each with the variables of the entity in
its tier.
-/
namespace PolicyRollout

/-- The calls made for the entity at a position, the earliest first. -/
def History.callsFor (index : Nat) (h : History) : List Call :=
  ((about index h).filterMap Occurrence.call?).reverse

/-- The calls a history may hold for the entities of a tier. -/
structure Tier.Gated (t : Tier) (dryRun : Bool) (log : History) : Prop where
  known : ∀ serial entity call, .called serial entity call ∈ log →
    ∃ index < t.entities.size, entity = some index
  calls : ∀ index e, t.entities.toList[index]? = some e →
    log.callsFor index = [] ∨
    log.callsFor index = [.validate t.templateId (e.vars (.ofTier t))] ∨
    log.callsFor index = [.validate t.templateId (e.vars (.ofTier t)),
      .instantiate t.templateId (e.vars (.ofTier t)) (some t.switch) dryRun]
  /-- When an instantiation is asked for, all that has happened for its entity is
  that the same variables were validated and accepted. -/
  gate : ∀ (later earlier : History) serial index templateId vars targetSwitch dry,
    log = later ++ .called serial (some index) (.instantiate templateId vars targetSwitch dry) ::
      earlier →
    ∃ own verdict, Verdict.valid verdict = true ∧ earlier.about index =
      [.answered own (some index) (.judged (.ok verdict)),
        .called own (some index) (.validate templateId vars)]

namespace Trail

variable {platform : Platform} {ctx : TierContext} {dryRun : Bool} {index : Nat} {e : Entity}
  {phase : Phase} {trail : History}

theorem calls_cases (htrail : Trail platform ctx dryRun index e phase trail) :
    trail.filterMap Occurrence.call? = [] ∨
    trail.filterMap Occurrence.call? = [e.validation ctx] ∨
    trail.filterMap Occurrence.call? = [e.creation ctx dryRun, e.validation ctx] := by
  cases htrail with
  | admitted | skipped => exact Or.inl rfl
  | validating | unjudged | refused => exact Or.inr (Or.inl rfl)
  | instantiating | uncreated | deployed => exact Or.inr (Or.inr rfl)

/-- In a trail that ends with the answer to an instantiation, that instantiation is the
only one. -/
theorem eq_of_created {own second serial : Nat} {verdict : Verdict}
    {result : Except PlatformError Creation} {later earlier : History} {templateId : String}
    {vars : Variables} {targetSwitch : Option String} {dry : Bool}
    (hcut : [.answered second (some index) (.created result),
        .called second (some index) (e.creation ctx dryRun),
        .answered own (some index) (.judged (.ok verdict)),
        .called own (some index) (e.validation ctx)] =
      later ++ .called serial (some index) (.instantiate templateId vars targetSwitch dry) ::
        earlier) :
    templateId = ctx.templateId ∧ vars = e.vars ctx ∧ earlier =
      [.answered own (some index) (.judged (.ok verdict)),
        .called own (some index) (e.validation ctx)] := by
  simp only [Entity.creation, Entity.validation, List.cons_eq_append_iff, List.cons.injEq,
    reduceCtorEq, false_and, and_false, Occurrence.called.injEq, Call.instantiate.injEq, true_and,
    List.nil_eq, List.append_eq_nil_iff, exists_const, or_self, or_false, false_or] at hcut
  obtain ⟨_, _, _, ⟨_, rfl, rfl, _⟩, rfl⟩ := hcut
  exact ⟨rfl, rfl, rfl⟩

/-- What lies before an instantiation in a trail. -/
theorem before_creation (htrail : Trail platform ctx dryRun index e phase trail)
    {later earlier : History} {serial : Nat} {templateId : String} {vars : Variables}
    {targetSwitch : Option String} {dry : Bool}
    (hcut : trail =
      later ++ .called serial (some index) (.instantiate templateId vars targetSwitch dry) ::
        earlier) :
    templateId = ctx.templateId ∧ vars = e.vars ctx ∧
    ∃ own verdict, verdict.valid = true ∧ earlier =
      [.answered own (some index) (.judged (.ok verdict)),
        .called own (some index) (e.validation ctx)] := by
  cases htrail with
  | admitted => simp at hcut
  | skipped => simp at hcut
  | validating => simp [Entity.validation, List.cons_eq_append_iff] at hcut
  | unjudged => simp [Entity.validation, List.cons_eq_append_iff] at hcut
  | refused => simp [Entity.validation, List.cons_eq_append_iff] at hcut
  | instantiating own second _ hvalid =>
      simp [Entity.validation, Entity.creation, List.cons_eq_append_iff] at hcut
      obtain ⟨_, ⟨_, rfl, rfl, _⟩, rfl⟩ := hcut
      exact ⟨rfl, rfl, own, _, hvalid, rfl⟩
  | uncreated own second _ hvalid =>
      obtain ⟨rfl, rfl, rfl⟩ := eq_of_created hcut
      exact ⟨rfl, rfl, own, _, hvalid, rfl⟩
  | deployed own second _ hvalid =>
      obtain ⟨rfl, rfl, rfl⟩ := eq_of_created hcut
      exact ⟨rfl, rfl, own, _, hvalid, rfl⟩

end Trail

namespace Recorded

variable {platform : Platform} {options : DeploymentOptions} {calls : Nat} {tier : Tier}
  {slots : List Slot} {waiting : List (Nat × Entity)} {log : History}

/-- Nothing happens for an entity that has not been admitted. -/
theorem about_eq_nil {ctx : TierContext}
    (hrecorded : Recorded platform ctx options calls slots log) {index : Nat}
    (hindex : ∀ slot ∈ slots, slot.index ≠ index) : log.about index = [] := by
  apply List.eq_nil_iff_forall_not_mem.mpr
  intro o ho
  obtain ⟨hmem, habout⟩ := History.mem_about_iff.mp ho
  rcases hrecorded.known o hmem with ⟨event, rfl⟩ | ⟨slot, hslot, hentity⟩
  · simp [Occurrence.entity?] at habout
  · rw [hentity, Option.some_inj] at habout
    exact hindex slot hslot habout

theorem gated (hrecorded : Recorded platform (.ofTier tier) options calls slots log)
    (henrolled : Enrolled tier slots waiting) : tier.Gated options.dryRun log where
  known := by
    intro serial entity call hcall
    rcases hrecorded.known _ hcall with ⟨event, hevent⟩ | ⟨slot, hslot, hentity⟩
    · contradiction
    · have hlt := henrolled.index_lt hslot
      have hsize := henrolled.length_add
      exact ⟨slot.index, by omega, hentity⟩
  calls := by
    intro index e he
    by_cases hadmitted : ∃ slot ∈ slots, slot.index = index
    · obtain ⟨slot, hslot, rfl⟩ := hadmitted
      have hentity := (henrolled.seats_getElem? (henrolled.getElem?_index hslot)).2
      rw [he, Option.some_inj] at hentity
      subst hentity
      rcases (hrecorded.trail slot hslot).calls_cases with hnone | hone | htwo
      · exact Or.inl (by rw [History.callsFor, hnone]; rfl)
      · exact Or.inr (Or.inl (by rw [History.callsFor, hone]; rfl))
      · exact Or.inr (Or.inr (by rw [History.callsFor, htwo]; rfl))
    · have hnone : log.about index = [] := hrecorded.about_eq_nil fun slot hslot hindex =>
        hadmitted ⟨slot, hslot, hindex⟩
      exact Or.inl (by rw [History.callsFor, hnone]; rfl)
  gate := by
    intro later earlier serial index templateId vars targetSwitch dry hlog
    have hcall : .called serial (some index) (.instantiate templateId vars targetSwitch dry) ∈
        log := by
      simp [hlog]
    rcases hrecorded.known _ hcall with ⟨event, hevent⟩ | ⟨slot, hslot, hentity⟩
    · contradiction
    · obtain rfl : index = slot.index := Option.some_inj.mp hentity
      have htrail := hrecorded.trail slot hslot
      rw [hlog, History.about_append, History.about_called_self] at htrail
      obtain ⟨rfl, rfl, hown⟩ := htrail.before_creation rfl
      exact hown

end Recorded

/-- For every platform and every order of moves, no entity gets any calls but its
validation and, after that was answered and granted, one instantiation; all its
calls carry the template of the tier and the variables of the entity.  In a whole
deployment this holds tier by tier, each of which is begun once. -/
theorem validation_gates_instantiation (platform : Platform) (options : DeploymentOptions) :
    (∀ tier calls before schedule,
      let r := (TierRun.start options tier calls before).run platform schedule
      ∃ log, r.history = log ++ before ∧ tier.Gated options.dryRun log) ∧
    ∀ stamp topology schedule,
      let r := (Rollout.start options stamp topology []).run platform schedule
      ∃ chapters, Rollout.Chronicle platform options topology chapters r ∧
        ∀ c ∈ chapters, c.run.tier.Gated options.dryRun c.log := by
  constructor
  · intro tier calls before schedule r
    obtain ⟨closed, log, hsound⟩ := TierRun.run_sound platform options tier calls before schedule
    exact ⟨log, hsound.history_eq, hsound.recorded.gated hsound.enrolled⟩
  · intro stamp topology schedule r
    obtain ⟨chapters, hchronicle⟩ :=
      (Rollout.run_course platform options stamp topology schedule).exists_chronicle
    refine ⟨chapters, hchronicle, fun c hc => ?_⟩
    obtain ⟨before, closed, log, events, hsound, _, hlog⟩ := (hchronicle.told c hc).exists_sound
    rw [hlog]
    exact (hsound.recorded.notes events).gated hsound.enrolled

end PolicyRollout
