import PolicyRollout.Proofs.Deployment.Occurrences
/-!
What one move of an entity can do, said once: `TierRun.Moves` has a case for
every branch of a move, and `TierRun.moveSlot_moves` shows that there is
no other.  All that a run keeps is read off these cases.
-/
namespace PolicyRollout

/-- The platform gives this result to a call at some moment. -/
def Platform.Gives (platform : Platform) (call : Call)
    (result : Except PlatformError call.Result) : Prop :=
  ∃ history serial, (platform history serial call).result = result

/-- Whether an entity has come to a failed call. -/
def Phase.isFailed : Phase → Bool
  | .failed _ => true
  | _ => false

def Slot.outcome? (slot : Slot) : Option Outcome :=
  match slot.phase with
  | .done outcome => some outcome
  | _ => none

/-- The failed call of an entity, by the name of the entity. -/
def Slot.failure? (slot : Slot) : Option (String × PlatformError) :=
  match slot.phase with
  | .failed source => some (slot.entity.name, source)
  | _ => none

theorem Phase.isFinal_of_isFailed {phase : Phase} (hfailed : phase.isFailed = true) :
    phase.isFinal = true := by
  cases phase <;> simp_all [Phase.isFailed, Phase.isFinal]

namespace TierRun

/-- The run with something added to its history. -/
def record (added : History) (r : TierRun) : TierRun :=
  { r with history := added ++ r.history }

/-- What a move can do to an entity that is not finished: the phase it leads
to, the number of calls it makes, and what it adds to the history. -/
inductive Moves (platform : Platform) (r : TierRun) (slot : Slot) :
    (dest : Phase) → (calls : Nat) → (added : History) → Prop
  | skips (hphase : slot.phase = .admitted) (hskip : slot.skip = true) :
      Moves platform r slot .skipped 0 []
  | starts (hphase : slot.phase = .admitted) (hskip : slot.skip = false) :
      Moves platform r slot (.validating r.calls) 1
        (.called r.calls (some slot.index) (r.validation slot) ::
          (Event.configuring slot.entity.name slot.entity.ip r.ctx.templateId ::
            ((slot.entity.unlistedDependencies r.ctx).map .droppedDependency).reverse).map .noted)
  | unjudged {serial : Nat} {source : PlatformError} (notes : List Event)
      (hphase : slot.phase = .validating serial)
      (hgives : platform.Gives (r.validation slot) (.error source)) :
      Moves platform r slot (.failed source) 0
        (.answered serial (some slot.index) (.judged (.error source)) :: notes.map .noted)
  | refused {serial : Nat} {verdict : Verdict} (notes : List Event)
      (hphase : slot.phase = .validating serial)
      (hgives : platform.Gives (r.validation slot) (.ok verdict)) (hvalid : verdict.valid = false) :
      Moves platform r slot
        (.done (.rejected slot.entity.name r.ctx.templateId verdict.errors)) 0
        (.noted (.validationFailed slot.entity.name verdict.errors) ::
          .answered serial (some slot.index) (.judged (.ok verdict)) :: notes.map .noted)
  | accepted {serial : Nat} {verdict : Verdict} (notes : List Event)
      (hphase : slot.phase = .validating serial)
      (hgives : platform.Gives (r.validation slot) (.ok verdict)) (hvalid : verdict.valid = true) :
      Moves platform r slot (.instantiating r.calls) 1
        (.called r.calls (some slot.index) (r.instantiation slot) ::
          .answered serial (some slot.index) (.judged (.ok verdict)) :: notes.map .noted)
  | uncreated {serial : Nat} {source : PlatformError} (notes : List Event)
      (hphase : slot.phase = .instantiating serial)
      (hgives : platform.Gives (r.instantiation slot) (.error source)) :
      Moves platform r slot (.failed source) 0
        (.answered serial (some slot.index) (.created (.error source)) :: notes.map .noted)
  | created {serial : Nat} {creation : Creation} (notes : List Event)
      (hphase : slot.phase = .instantiating serial)
      (hgives : platform.Gives (r.instantiation slot) (.ok creation)) :
      Moves platform r slot
        (.done (.deployed slot.entity.name r.ctx.templateId creation.ruleCount)) 0
        (.noted (.created r.options.dryRun creation.ruleCount slot.entity.name) ::
          .answered serial (some slot.index) (.created (.ok creation)) :: notes.map .noted)

/-- The run after an entity has come to a phase, with so many calls made and
this much added to the history. -/
def brought (slot : Slot) (dest : Phase) (calls : Nat) (added : History) (r : TierRun) : TierRun :=
  { r with failed := r.failed || dest.isFailed
           calls := r.calls + calls
           history := added ++ r.history }.setPhase slot.index dest

theorem noteAll_eq_record (events : List Event) (r : TierRun) :
    r.noteAll events = r.record (events.reverse.map .noted) := by
  induction events generalizing r with
  | nil => rfl
  | cons event rest ih =>
      change (r.note event).noteAll rest = _
      rw [ih]
      simp [record, note]

theorem startSlot_of_not_skip {slot : Slot} (hskip : slot.skip = false) (r : TierRun) :
    r.startSlot slot = r.brought slot (.validating r.calls) 1
      (.called r.calls (some slot.index) (r.validation slot) ::
        (Event.configuring slot.entity.name slot.entity.ip r.ctx.templateId ::
          ((slot.entity.unlistedDependencies r.ctx).map .droppedDependency).reverse).map .noted) := by
  simp [startSlot, hskip, noteAll_eq_record, record, note, ask, brought, validation,
    Phase.isFailed, setPhase]

theorem judge_error (slot : Slot) (serial : Nat) (source : PlatformError) (notes : List Event)
    (r : TierRun) :
    r.judge slot serial ⟨.error source, notes⟩ = r.brought slot (.failed source) 0
      (.answered serial (some slot.index) (.judged (.error source)) ::
        notes.reverse.map .noted) := by
  simp [judge, answered, noteAll_eq_record, record, fail, brought, setPhase, Phase.isFailed]

theorem judge_refused (slot : Slot) (serial : Nat) {verdict : Verdict}
    (hvalid : verdict.valid = false) (notes : List Event) (r : TierRun) :
    r.judge slot serial ⟨.ok verdict, notes⟩ = r.brought slot
      (.done (.rejected slot.entity.name r.ctx.templateId verdict.errors)) 0
      (.noted (.validationFailed slot.entity.name verdict.errors) ::
        .answered serial (some slot.index) (.judged (.ok verdict)) ::
        notes.reverse.map .noted) := by
  simp [judge, hvalid, answered, noteAll_eq_record, record, note, brought, setPhase,
    Phase.isFailed]

theorem judge_accepted (slot : Slot) (serial : Nat) {verdict : Verdict}
    (hvalid : verdict.valid = true) (notes : List Event) (r : TierRun) :
    r.judge slot serial ⟨.ok verdict, notes⟩ = r.brought slot (.instantiating r.calls) 1
      (.called r.calls (some slot.index) (r.instantiation slot) ::
        .answered serial (some slot.index) (.judged (.ok verdict)) ::
        notes.reverse.map .noted) := by
  simp [judge, hvalid, answered, noteAll_eq_record, record, ask, brought, instantiation,
    setPhase, Phase.isFailed]

theorem create_error (slot : Slot) (serial : Nat) (source : PlatformError) (notes : List Event)
    (r : TierRun) :
    r.create slot serial ⟨.error source, notes⟩ = r.brought slot (.failed source) 0
      (.answered serial (some slot.index) (.created (.error source)) ::
        notes.reverse.map .noted) := by
  simp [create, answered, noteAll_eq_record, record, fail, brought, setPhase, Phase.isFailed]

theorem create_ok (slot : Slot) (serial : Nat) (creation : Creation) (notes : List Event)
    (r : TierRun) :
    r.create slot serial ⟨.ok creation, notes⟩ = r.brought slot
      (.done (.deployed slot.entity.name r.ctx.templateId creation.ruleCount)) 0
      (.noted (.created r.options.dryRun creation.ruleCount slot.entity.name) ::
        .answered serial (some slot.index) (.created (.ok creation)) ::
        notes.reverse.map .noted) := by
  simp [create, answered, noteAll_eq_record, record, note, brought, setPhase, Phase.isFailed]

/-- The answer to a validation, as a change of the entity that waited for it. -/
theorem judge_moves {platform : Platform} {slot : Slot} {serial : Nat} {reply : Reply Verdict}
    (r : TierRun) (hphase : slot.phase = .validating serial)
    (hgives : platform.Gives (r.validation slot) reply.result) :
    ∃ dest calls added, Moves platform r slot dest calls added ∧
      r.judge slot serial reply = r.brought slot dest calls added := by
  obtain ⟨result, notes⟩ := reply
  cases result with
  | error source =>
      exact ⟨_, _, _, .unjudged notes.reverse hphase hgives, judge_error ..⟩
  | ok verdict =>
      cases hvalid : verdict.valid with
      | false =>
          exact ⟨_, _, _, .refused notes.reverse hphase hgives hvalid, judge_refused _ _ hvalid ..⟩
      | true =>
          exact ⟨_, _, _, .accepted notes.reverse hphase hgives hvalid,
            judge_accepted _ _ hvalid ..⟩

/-- The answer to an instantiation, as a change of the entity that waited for it. -/
theorem create_moves {platform : Platform} {slot : Slot} {serial : Nat} {reply : Reply Creation}
    (r : TierRun) (hphase : slot.phase = .instantiating serial)
    (hgives : platform.Gives (r.instantiation slot) reply.result) :
    ∃ dest calls added, Moves platform r slot dest calls added ∧
      r.create slot serial reply = r.brought slot dest calls added := by
  obtain ⟨result, notes⟩ := reply
  cases result with
  | error source =>
      exact ⟨_, _, _, .uncreated notes.reverse hphase hgives, create_error ..⟩
  | ok creation =>
      exact ⟨_, _, _, .created notes.reverse hphase hgives, create_ok ..⟩

/-- Every move of an entity that is not finished is one of `Moves`. -/
theorem moveSlot_moves (platform : Platform) {slot : Slot} (r : TierRun)
    (hfinal : slot.phase.isFinal = false) :
    ∃ dest calls added, Moves platform r slot dest calls added ∧
      r.moveSlot platform slot = r.brought slot dest calls added := by
  cases hphase : slot.phase with
  | admitted =>
      cases hskip : slot.skip with
      | false =>
          refine ⟨_, _, _, .starts hphase hskip, ?_⟩
          rw [moveSlot, hphase]
          exact startSlot_of_not_skip hskip r
      | true =>
          refine ⟨_, _, _, .skips hphase hskip, ?_⟩
          simp [moveSlot, hphase, startSlot, hskip, brought, Phase.isFailed]
  | validating serial =>
      rw [moveSlot, hphase]
      exact judge_moves r hphase ⟨_, _, rfl⟩
  | instantiating serial =>
      rw [moveSlot, hphase]
      exact create_moves r hphase ⟨_, _, rfl⟩
  | skipped => simp [hphase, Phase.isFinal] at hfinal
  | failed source => simp [hphase, Phase.isFinal] at hfinal
  | done outcome => simp [hphase, Phase.isFinal] at hfinal

/-- A finished entity does not move. -/
theorem moveSlot_of_final (platform : Platform) {slot : Slot} (r : TierRun)
    (hfinal : slot.phase.isFinal = true) : r.moveSlot platform slot = r := by
  cases hphase : slot.phase <;> simp_all [moveSlot, Phase.isFinal]

/-- What a scheduled move can do: nothing if the entity has no place in the window,
settle if it has finished, and else bring it to another phase and settle. -/
theorem move_cases (platform : Platform) (index : Nat) (r : TierRun) :
    r.move platform index = r ∨ r.move platform index = r.settle ∨
      ∃ slot dest calls added, slot ∈ r.window ∧ slot.phase.isFinal = false ∧
        Moves platform r slot dest calls added ∧
        r.move platform index = (r.brought slot dest calls added).settle := by
  cases hslot : r.slot? index with
  | none =>
      have hmove : r.move platform index = r := by rw [move, hslot]
      exact .inl hmove
  | some slot =>
      have hmem : slot ∈ r.window := List.mem_of_find?_eq_some hslot
      have hmove : r.move platform index = (r.moveSlot platform slot).settle := by
        rw [move, hslot]
      cases hfinal : slot.phase.isFinal with
      | true =>
          rw [moveSlot_of_final platform r hfinal] at hmove
          exact .inr (.inl hmove)
      | false =>
          obtain ⟨dest, calls, added, hmoves, heq⟩ := moveSlot_moves platform r hfinal
          rw [heq] at hmove
          exact .inr (.inr ⟨slot, dest, calls, added, hmem, hfinal, hmoves, hmove⟩)

end TierRun

end PolicyRollout
