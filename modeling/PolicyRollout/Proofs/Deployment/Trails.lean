import PolicyRollout.Proofs.Deployment.Settling
/-!
The trail of an entity: the calls made and answered on its behalf, the latest
first.  How far an entity has come fixes its trail up to serial numbers and
answers, so no entity is validated or instantiated twice, and none is
instantiated that was not accepted.
-/
namespace PolicyRollout

/-- Whether no call has been made for an admitted entity. -/
def Phase.isIdle : Phase → Bool
  | .admitted | .skipped => true
  | _ => false

theorem Phase.isIdle_of_isFailed {phase : Phase} (hfailed : phase.isFailed = true) :
    phase.isIdle = false := by
  cases phase <;> simp_all [Phase.isFailed, Phase.isIdle]

/-- An entity that has finished without a call was skipped. -/
theorem Phase.eq_skipped {phase : Phase} (hfinal : phase.isFinal = true)
    (hidle : phase.isIdle = true) : phase = .skipped := by
  cases phase with
  | skipped => rfl
  | _ => contradiction

def Entity.validation (ctx : TierContext) (e : Entity) : Call :=
  .validate ctx.templateId (e.vars ctx)

/-- The instantiation asked for an entity in its tier. -/
def Entity.creation (ctx : TierContext) (dryRun : Bool) (e : Entity) : Call :=
  .instantiate ctx.templateId (e.vars ctx) (some ctx.switch) dryRun

/-- What has happened on behalf of an entity that has come to a phase. -/
inductive Trail (platform : Platform) (ctx : TierContext) (dryRun : Bool) (index : Nat)
    (e : Entity) : Phase → History → Prop
  | admitted : Trail platform ctx dryRun index e .admitted []
  | skipped : Trail platform ctx dryRun index e .skipped []
  | validating (serial : Nat) :
      Trail platform ctx dryRun index e (.validating serial)
        [.called serial (some index) (e.validation ctx)]
  | unjudged (serial : Nat) {source : PlatformError}
      (hgives : platform.Gives (e.validation ctx) (.error source)) :
      Trail platform ctx dryRun index e (.failed source)
        [.answered serial (some index) (.judged (.error source)),
          .called serial (some index) (e.validation ctx)]
  | refused (serial : Nat) {verdict : Verdict}
      (hgives : platform.Gives (e.validation ctx) (.ok verdict)) (hvalid : verdict.valid = false) :
      Trail platform ctx dryRun index e (.done (.rejected e.name ctx.templateId verdict.errors))
        [.answered serial (some index) (.judged (.ok verdict)),
          .called serial (some index) (e.validation ctx)]
  | instantiating (serial second : Nat) {verdict : Verdict}
      (hgives : platform.Gives (e.validation ctx) (.ok verdict)) (hvalid : verdict.valid = true) :
      Trail platform ctx dryRun index e (.instantiating second)
        [.called second (some index) (e.creation ctx dryRun),
          .answered serial (some index) (.judged (.ok verdict)),
          .called serial (some index) (e.validation ctx)]
  | uncreated (serial second : Nat) {verdict : Verdict} {source : PlatformError}
      (hgives : platform.Gives (e.validation ctx) (.ok verdict)) (hvalid : verdict.valid = true)
      (hfails : platform.Gives (e.creation ctx dryRun) (.error source)) :
      Trail platform ctx dryRun index e (.failed source)
        [.answered second (some index) (.created (.error source)),
          .called second (some index) (e.creation ctx dryRun),
          .answered serial (some index) (.judged (.ok verdict)),
          .called serial (some index) (e.validation ctx)]
  | deployed (serial second : Nat) {verdict : Verdict} {creation : Creation}
      (hgives : platform.Gives (e.validation ctx) (.ok verdict)) (hvalid : verdict.valid = true)
      (hcreates : platform.Gives (e.creation ctx dryRun) (.ok creation)) :
      Trail platform ctx dryRun index e
        (.done (.deployed e.name ctx.templateId creation.ruleCount))
        [.answered second (some index) (.created (.ok creation)),
          .called second (some index) (e.creation ctx dryRun),
          .answered serial (some index) (.judged (.ok verdict)),
          .called serial (some index) (e.validation ctx)]

namespace Trail

variable {platform : Platform} {ctx : TierContext} {dryRun : Bool} {index : Nat} {e : Entity}
  {phase : Phase} {trail : History}

/-- Every entity that has started and was not skipped has been validated. -/
theorem validated (htrail : Trail platform ctx dryRun index e phase trail)
    (hidle : phase.isIdle = false) :
    ∃ serial, .called serial (some index) (e.validation ctx) ∈ trail := by
  cases htrail with
  | admitted => contradiction
  | skipped => contradiction
  | validating serial => exact ⟨serial, by simp⟩
  | unjudged serial => exact ⟨serial, by simp⟩
  | refused serial => exact ⟨serial, by simp⟩
  | instantiating serial => exact ⟨serial, by simp⟩
  | uncreated serial => exact ⟨serial, by simp⟩
  | deployed serial => exact ⟨serial, by simp⟩

theorem eq_nil_of_isIdle (htrail : Trail platform ctx dryRun index e phase trail)
    (hidle : phase.isIdle = true) : trail = [] := by
  cases htrail with
  | admitted => rfl
  | skipped => rfl
  | _ => contradiction

theorem failed_iff (htrail : Trail platform ctx dryRun index e phase trail) :
    (∃ serial outturn, .answered serial (some index) outturn ∈ trail ∧
      outturn.isFailure = true) ↔ phase.isFailed = true := by
  constructor
  · rintro ⟨serial, outturn, hmem, hfailure⟩
    cases htrail <;> simp at hmem <;> grind [Outturn.isFailure, Phase.isFailed]
  · intro hfailed
    cases htrail with
    | unjudged serial => exact ⟨serial, _, List.mem_cons_self, rfl⟩
    | uncreated serial second => exact ⟨second, _, List.mem_cons_self, rfl⟩
    | _ => simp [Phase.isFailed] at hfailed

/-- A finished entity has no call that is not answered. -/
theorem answered_of_isFinal (htrail : Trail platform ctx dryRun index e phase trail)
    (hfinal : phase.isFinal = true) {serial : Nat} {call : Call}
    (hcall : .called serial (some index) call ∈ trail) :
    ∃ outturn, .answered serial (some index) outturn ∈ trail := by
  cases htrail <;> simp [Phase.isFinal] at hfinal hcall ⊢
  case unjudged => simp [hcall.1]
  case refused => simp [hcall.1]
  case uncreated => grind
  case deployed => grind

end Trail

namespace TierRun

variable {platform : Platform} {r : TierRun} {slot : Slot} {dest : Phase} {calls : Nat}
  {added : History}

/-- A move extends the trail of the entity that moves. -/
theorem Moves.trail {before : History} (hmoves : Moves platform r slot dest calls added)
    (htrail : Trail platform r.ctx r.options.dryRun slot.index slot.entity slot.phase before) :
    Trail platform r.ctx r.options.dryRun slot.index slot.entity dest
      (History.about slot.index added ++ before) := by
  cases hmoves with
  | skips hphase =>
      rw [hphase] at htrail
      cases htrail
      exact .skipped
  | starts hphase =>
      rw [hphase] at htrail
      cases htrail
      simp only [History.about_called_self, History.about_notes]
      exact .validating r.calls
  | unjudged _ hphase hgives =>
      rw [hphase] at htrail
      cases htrail
      simp only [History.about_answered_self, History.about_notes]
      exact .unjudged _ hgives
  | refused _ hphase hgives hvalid =>
      rw [hphase] at htrail
      cases htrail
      simp only [History.about_noted, History.about_answered_self, History.about_notes]
      exact .refused _ hgives hvalid
  | accepted _ hphase hgives hvalid =>
      rw [hphase] at htrail
      cases htrail
      simp only [History.about_called_self, History.about_answered_self, History.about_notes]
      exact .instantiating _ r.calls hgives hvalid
  | uncreated _ hphase hfails =>
      rw [hphase] at htrail
      cases htrail with
      | instantiating serial _ hgives hvalid =>
          simp only [History.about_answered_self, History.about_notes]
          exact .uncreated serial _ hgives hvalid hfails
  | created _ hphase hcreates =>
      rw [hphase] at htrail
      cases htrail with
      | instantiating serial _ hgives hvalid =>
          simp only [History.about_noted, History.about_answered_self, History.about_notes]
          exact .deployed serial _ hgives hvalid hcreates

/-- A move adds events and what is about the entity that moves. -/
theorem Moves.mem_added (hmoves : Moves platform r slot dest calls added) {o : Occurrence}
    (ho : o ∈ added) : (∃ event, o = .noted event) ∨ o.entity? = some slot.index := by
  cases hmoves <;> simp at ho <;> grind [Occurrence.entity?]

/-- A move makes its calls under the next serial numbers. -/
theorem Moves.serials (hmoves : Moves platform r slot dest calls added) :
    added.filterMap Occurrence.serial? = List.range' r.calls calls := by
  cases hmoves <;> simp [Occurrence.serial?, Function.comp_def]

/-- An entity that was to be skipped is skipped, and no other. -/
theorem Moves.skipped_iff (hmoves : Moves platform r slot dest calls added)
    (hidle : slot.skip = true → slot.phase.isIdle = true) :
    dest = .skipped ↔ slot.skip = true := by
  cases hmoves <;> simp_all [Phase.isIdle]

/-- A move adds nothing about any other entity. -/
theorem Moves.about_of_ne (hmoves : Moves platform r slot dest calls added) {index : Nat}
    (hne : index ≠ slot.index) : History.about index added = [] := by
  apply List.eq_nil_iff_forall_not_mem.mpr
  intro o ho
  obtain ⟨hadded, habout⟩ := History.mem_about_iff.mp ho
  rcases hmoves.mem_added hadded with ⟨event, rfl⟩ | hself
  · simp [Occurrence.entity?] at habout
  · rw [hself, Option.some_inj] at habout
    exact hne habout.symm

end TierRun

end PolicyRollout
