import Mathlib.Data.List.Forall2
import PolicyRollout.Proofs.Deployment.Growth
/-!
Two runs of a tier side by side.  Their entities make the same moves, but one run may
have made some calls before the other began, only one of them may be a dry run, and
their platforms need only give answers that are alike.  What a move does depends on
nothing else, so that the two stay in step.
-/
namespace PolicyRollout

def Call.withDryRun (dryRun : Bool) : Call → Call
  | .instantiate id vars switch _ => .instantiate id vars switch dryRun
  | call => call

@[simp]
theorem Call.withDryRun_withDryRun (dryRun dryRun' : Bool) (call : Call) :
    (call.withDryRun dryRun).withDryRun dryRun' = call.withDryRun dryRun' := by
  cases call <;> rfl

/-- Two calls came to the same as far as a deployment is concerned. -/
inductive Outturn.Alike : Outturn → Outturn → Prop
  | listed (result : Except PlatformError (List TemplateDescriptor)) :
      Alike (.listed result) (.listed result)
  | unjudged (source : PlatformError) : Alike (.judged (.error source)) (.judged (.error source))
  | judged {verdict verdict' : Verdict} (hvalid : verdict.valid = verdict'.valid)
      (herrors : verdict.errors = verdict'.errors) :
      Alike (.judged (.ok verdict)) (.judged (.ok verdict'))
  | uncreated (source : PlatformError) :
      Alike (.created (.error source)) (.created (.error source))
  | created {creation creation' : Creation} (hcount : creation.ruleCount = creation'.ruleCount) :
      Alike (.created (.ok creation)) (.created (.ok creation'))

theorem Outturn.Alike.refl (o : Outturn) : o.Alike o := by
  cases o with
  | listed result => exact .listed result
  | judged result =>
      cases result with
      | error source => exact .unjudged source
      | ok verdict => exact .judged rfl rfl
  | created result =>
      cases result with
      | error source => exact .uncreated source
      | ok creation => exact .created rfl

/-- Whether an occurrence is a call or an answer. -/
def Occurrence.isExchange : Occurrence → Bool
  | .noted _ => false
  | _ => true

namespace History

/-- The calls and answers of a history. -/
def exchanges (h : History) : History :=
  h.filter Occurrence.isExchange

@[simp]
theorem exchanges_append (later earlier : History) :
    exchanges (later ++ earlier) = exchanges later ++ exchanges earlier :=
  List.filter_append ..

@[simp]
theorem exchanges_notes (events : List Event) : exchanges (events.map .noted) = [] := by
  simp [exchanges, Occurrence.isExchange]

@[simp]
theorem exchanges_called (serial : Nat) (entity : Option Nat) (call : Call) (h : History) :
    exchanges (.called serial entity call :: h) = .called serial entity call :: exchanges h :=
  rfl

@[simp]
theorem exchanges_answered (serial : Nat) (entity : Option Nat) (outturn : Outturn)
    (h : History) :
    exchanges (.answered serial entity outturn :: h) =
      .answered serial entity outturn :: exchanges h :=
  rfl

end History

open History (exchanges)

/-- How two deployments are compared. -/
structure Comparison where
  /-- How many calls the first one has made before. -/
  ahead : Nat
  /-- The calls and answers the first one has had before. -/
  base : History
  /-- Whether the first one is a dry run. -/
  dryRun : Bool
  /-- Whether the second one is a dry run. -/
  dryRun' : Bool
  /-- The answers that are taken for the same. -/
  alike : Outturn → Outturn → Prop
  alike_sound : ∀ {o o' : Outturn}, alike o o' → o.Alike o'

namespace Comparison

/-- The same call, or its answers. -/
inductive Pairs (c : Comparison) : Occurrence → Occurrence → Prop
  | called (serial : Nat) (entity : Option Nat) (call : Call) :
      Pairs c (.called (serial + c.ahead) entity (call.withDryRun c.dryRun))
        (.called serial entity (call.withDryRun c.dryRun'))
  | answered (serial : Nat) (entity : Option Nat) {o o' : Outturn} (halike : c.alike o o') :
      Pairs c (.answered (serial + c.ahead) entity o) (.answered serial entity o')

/-- Histories with the same calls and answers, but for those the first has had before. -/
def Past (c : Comparison) (h h' : History) : Prop :=
  ∃ later, exchanges h = later ++ c.base ∧ List.Forall₂ c.Pairs later (exchanges h')

/-- What the same call comes to in both is alike. -/
def Meets (c : Comparison) (answer answer' : Option (Nat × Outturn)) : Prop :=
  ∀ serial o o', answer = some (serial + c.ahead, o) → answer' = some (serial, o') → c.alike o o'

variable {c : Comparison} {h h' : History}

theorem Past.notes (hpast : c.Past h h') (events events' : List Event) :
    c.Past (events.map .noted ++ h) (events'.map .noted ++ h') := by
  simpa [Past] using hpast

theorem Past.noted (hpast : c.Past h h') (event event' : Event) :
    c.Past (.noted event :: h) (.noted event' :: h') :=
  hpast.notes [event] [event']

theorem Past.called (hpast : c.Past h h') (serial : Nat) (entity : Option Nat) (call : Call) :
    c.Past (.called (serial + c.ahead) entity (call.withDryRun c.dryRun) :: h)
      (.called serial entity (call.withDryRun c.dryRun') :: h') := by
  obtain ⟨later, heq, hpairs⟩ := hpast
  refine ⟨.called (serial + c.ahead) entity (call.withDryRun c.dryRun) :: later, ?_, ?_⟩
  · rw [History.exchanges_called, heq, List.cons_append]
  · exact .cons (.called serial entity call) hpairs

theorem Past.answered (hpast : c.Past h h') (serial : Nat) (entity : Option Nat)
    {o o' : Outturn} (halike : c.alike o o') :
    c.Past (.answered (serial + c.ahead) entity o :: h) (.answered serial entity o' :: h') := by
  obtain ⟨later, heq, hpairs⟩ := hpast
  refine ⟨.answered (serial + c.ahead) entity o :: later, ?_, ?_⟩
  · rw [History.exchanges_answered, heq, List.cons_append]
  · exact .cons (.answered serial entity halike) hpairs

end Comparison

/-- The phase of an entity whose call was made so many calls later. -/
def Phase.later (ahead : Nat) : Phase → Phase
  | .validating serial => .validating (serial + ahead)
  | .instantiating serial => .instantiating (serial + ahead)
  | phase => phase

@[simp]
theorem Phase.isFinal_later (ahead : Nat) (phase : Phase) :
    (phase.later ahead).isFinal = phase.isFinal := by
  cases phase <;> rfl

@[simp]
theorem Phase.isFailed_later (ahead : Nat) (phase : Phase) :
    (phase.later ahead).isFailed = phase.isFailed := by
  cases phase <;> rfl

namespace Slot

/-- An entity whose call was made so many calls later. -/
def later (ahead : Nat) (slot : Slot) : Slot :=
  { slot with phase := slot.phase.later ahead }

variable (ahead : Nat) (slot : Slot)

@[simp]
theorem later_index : (slot.later ahead).index = slot.index := rfl

@[simp]
theorem later_entity : (slot.later ahead).entity = slot.entity := rfl

@[simp]
theorem later_skip : (slot.later ahead).skip = slot.skip := rfl

@[simp]
theorem later_phase : (slot.later ahead).phase = slot.phase.later ahead := rfl

@[simp]
theorem outcome?_later : (slot.later ahead).outcome? = slot.outcome? := by
  cases hphase : slot.phase <;> simp [outcome?, Phase.later, hphase]

@[simp]
theorem failure?_later : (slot.later ahead).failure? = slot.failure? := by
  cases hphase : slot.phase <;> simp [failure?, Phase.later, hphase]

@[simp]
theorem notice?_later (tier : String) : (slot.later ahead).notice? tier = slot.notice? tier := by
  cases hphase : slot.phase <;> simp [notice?, Phase.later, hphase]

end Slot

namespace TierRun

/-- The run with its calls made so many calls later, other options and another history. -/
def restaged (ahead : Nat) (options : DeploymentOptions) (history : History) (r : TierRun) :
    TierRun :=
  { r with options, history, window := r.window.map (Slot.later ahead), calls := r.calls + ahead }

section Restaged

variable (ahead : Nat) (options : DeploymentOptions) (history : History) (r : TierRun)

theorem restaged_brought (slot : Slot) (dest : Phase) (calls : Nat) (added added' : History) :
    (r.restaged ahead options history).brought (slot.later ahead) (dest.later ahead) calls added =
      (r.brought slot dest calls added').restaged ahead options (added ++ history) := by
  have hcalls : r.calls + ahead + calls = r.calls + calls + ahead := by omega
  simp only [restaged, brought, setPhase, Phase.isFailed_later, hcalls, List.map_map,
    Slot.later_index]
  congr 1
  apply List.map_congr_left
  intro other _
  by_cases hindex : other.index = slot.index
  · simp [hindex, Slot.later]
  · simp [hindex]

theorem restaged_finished :
    (r.restaged ahead options history).finished = r.finished.map (Slot.later ahead) := by
  simp [finished, restaged, List.takeWhile_map, Function.comp_def]

theorem restaged_unfinished :
    (r.restaged ahead options history).unfinished = r.unfinished.map (Slot.later ahead) := by
  simp [unfinished, restaged, List.dropWhile_map, Function.comp_def]

theorem restaged_drain :
    (r.restaged ahead options history).drain =
      r.drain.restaged ahead options (r.notices.map .noted ++ history) := by
  rw [drain_eq, drain_eq, restaged_finished, restaged_unfinished]
  simp [reportAll, record, restaged, notices, List.filterMap_map, List.findSome?_map,
    Function.comp_def]

theorem restaged_refill (hwindow : options.window = r.options.window) :
    (r.restaged ahead options history).refill = r.refill.restaged ahead options history := by
  have hroom : (r.restaged ahead options history).room = r.room := by
    simp [room, restaged, hwindow]
  have hadmitted : (r.restaged ahead options history).admitted =
      r.admitted.map (Slot.later ahead) := by
    rw [admitted, admitted, hroom, List.map_map]
    rfl
  rw [refill_eq, refill_eq, hadmitted, hroom]
  simp [restaged]

theorem restaged_slot? (index : Nat) :
    (r.restaged ahead options history).slot? index = (r.slot? index).map (Slot.later ahead) :=
  List.find?_map ..

theorem restaged_isOver : (r.restaged ahead options history).isOver = r.isOver := by
  simp [isOver, restaged]

theorem restaged_result : (r.restaged ahead options history).result = r.result :=
  rfl

end Restaged

/-- Two runs of a tier that are in step. -/
structure InStep (c : Comparison) (r r' : TierRun) : Prop where
  same : r = r'.restaged c.ahead r.options r.history
  window : r.options.window = r'.options.window
  dryRun : r.options.dryRun = c.dryRun
  dryRun' : r'.options.dryRun = c.dryRun'
  past : c.Past r.history r'.history

namespace InStep

variable {c : Comparison} {r r' : TierRun} {slot : Slot}

theorem calls_eq (hstep : r.InStep c r') : r.calls = r'.calls + c.ahead := by
  rw [hstep.same]
  rfl

theorem ctx_eq (hstep : r.InStep c r') : r.ctx = r'.ctx := by
  rw [hstep.same]
  rfl

theorem validation_eq (hstep : r.InStep c r') :
    r.validation (slot.later c.ahead) = r'.validation slot := by
  rw [validation, validation, hstep.ctx_eq]
  rfl

theorem instantiation_eq (hstep : r.InStep c r') :
    r.instantiation (slot.later c.ahead) = (r'.instantiation slot).withDryRun c.dryRun := by
  rw [instantiation, instantiation, hstep.ctx_eq, hstep.dryRun]
  rfl

theorem instantiation_eq' (hstep : r.InStep c r') :
    r'.instantiation slot = (r'.instantiation slot).withDryRun c.dryRun' := by
  rw [instantiation, hstep.dryRun']
  rfl

/-- Runs stay in step when an entity comes to the same phase in both. -/
theorem brought (hstep : r.InStep c r') (dest : Phase) (calls : Nat) {added added' : History}
    (hpast : c.Past (added ++ r.history) (added' ++ r'.history)) :
    (r.brought (slot.later c.ahead) (dest.later c.ahead) calls added).InStep c
      (r'.brought slot dest calls added') where
  same := by
    have hbrought := restaged_brought c.ahead r.options r.history r' slot dest calls added added'
    rw [← hstep.same] at hbrought
    exact hbrought
  window := hstep.window
  dryRun := hstep.dryRun
  dryRun' := hstep.dryRun'
  past := hpast

theorem note (hstep : r.InStep c r') (event event' : Event) :
    (r.note event).InStep c (r'.note event') where
  same := congrArg (TierRun.note event) hstep.same
  window := hstep.window
  dryRun := hstep.dryRun
  dryRun' := hstep.dryRun'
  past := hstep.past.noted event event'

theorem drain (hstep : r.InStep c r') : r.drain.InStep c r'.drain := by
  have hdrain := restaged_drain c.ahead r.options r.history r'
  rw [← hstep.same] at hdrain
  rw [hdrain, drain_eq r']
  exact ⟨rfl, hstep.window, hstep.dryRun, hstep.dryRun', hstep.past.notes _ _⟩

theorem refill (hstep : r.InStep c r') : r.refill.InStep c r'.refill := by
  have hrefill := restaged_refill c.ahead r.options r.history r' hstep.window
  rw [← hstep.same] at hrefill
  rw [hrefill]
  exact ⟨rfl, hstep.window, hstep.dryRun, hstep.dryRun', hstep.past⟩

theorem settle (hstep : r.InStep c r') : r.settle.InStep c r'.settle :=
  hstep.drain.refill

theorem startSlot (hstep : r.InStep c r') (slot : Slot) :
    (r.startSlot (slot.later c.ahead)).InStep c (r'.startSlot slot) := by
  cases hskip : slot.skip with
  | true =>
      have hbrought := @brought _ _ _ slot hstep .skipped 0 [] [] hstep.past
      simpa [TierRun.startSlot, hskip, TierRun.brought, Phase.isFailed, Phase.later] using hbrought
  | false =>
      have hskip' : (slot.later c.ahead).skip = false := hskip
      rw [startSlot_of_not_skip hskip, startSlot_of_not_skip hskip', hstep.calls_eq,
        hstep.validation_eq]
      apply hstep.brought (.validating r'.calls)
      exact (hstep.past.notes _ _).called r'.calls (some slot.index) (r'.validation slot)

theorem judge (hstep : r.InStep c r') (slot : Slot) (serial : Nat) {reply reply' : Reply Verdict}
    (halike : c.alike (.judged reply.result) (.judged reply'.result)) :
    (r.judge (slot.later c.ahead) (serial + c.ahead) reply).InStep c
      (r'.judge slot serial reply') := by
  obtain ⟨result, notes⟩ := reply
  obtain ⟨result', notes'⟩ := reply'
  have hanswered := (hstep.past.notes notes.reverse notes'.reverse).answered serial
    (some slot.index) halike
  cases c.alike_sound halike with
  | unjudged source =>
      rw [judge_error, judge_error]
      exact hstep.brought (.failed source) 0 hanswered
  | @judged verdict verdict' hvalid herrors =>
      cases haccept : verdict'.valid with
      | true =>
          have hcalled := hanswered.called r'.calls (some slot.index) (r'.instantiation slot)
          rw [← hstep.instantiation_eq, ← hstep.instantiation_eq'] at hcalled
          rw [judge_accepted _ _ (hvalid.trans haccept), judge_accepted _ _ haccept,
            hstep.calls_eq]
          exact hstep.brought (.instantiating r'.calls) 1 hcalled
      | false =>
          rw [judge_refused _ _ (hvalid.trans haccept), judge_refused _ _ haccept, herrors,
            hstep.ctx_eq]
          exact hstep.brought (.done _) 0 (hanswered.noted _ _)

theorem create (hstep : r.InStep c r') (slot : Slot) (serial : Nat)
    {reply reply' : Reply Creation}
    (halike : c.alike (.created reply.result) (.created reply'.result)) :
    (r.create (slot.later c.ahead) (serial + c.ahead) reply).InStep c
      (r'.create slot serial reply') := by
  obtain ⟨result, notes⟩ := reply
  obtain ⟨result', notes'⟩ := reply'
  have hanswered := (hstep.past.notes notes.reverse notes'.reverse).answered serial
    (some slot.index) halike
  cases c.alike_sound halike with
  | uncreated source =>
      rw [create_error, create_error]
      exact hstep.brought (.failed source) 0 hanswered
  | created hcount =>
      rw [create_ok, create_ok, hcount, hstep.ctx_eq]
      exact hstep.brought (.done _) 0 (hanswered.noted _ _)

/-- One entity moves in both runs. -/
theorem moveSlot (hstep : r.InStep c r') {platform platform' : Platform}
    (hmeets : c.Meets (r.answer? platform (slot.later c.ahead)) (r'.answer? platform' slot)) :
    (r.moveSlot platform (slot.later c.ahead)).InStep c (r'.moveSlot platform' slot) := by
  unfold answer? at hmeets
  unfold TierRun.moveSlot
  rw [Slot.later_phase] at hmeets ⊢
  cases hphase : slot.phase with
  | admitted => exact hstep.startSlot slot
  | validating serial =>
      simp only [hphase, Phase.later] at hmeets
      exact hstep.judge slot serial (hmeets _ _ _ rfl rfl)
  | instantiating serial =>
      simp only [hphase, Phase.later] at hmeets
      exact hstep.create slot serial (hmeets _ _ _ rfl rfl)
  | skipped => exact hstep
  | failed source => exact hstep
  | done outcome => exact hstep

theorem slot?_eq (hstep : r.InStep c r') (index : Nat) :
    r.slot? index = (r'.slot? index).map (Slot.later c.ahead) := by
  rw [hstep.same]
  exact restaged_slot? ..

/-- The entity at a position moves in both runs. -/
theorem move (hstep : r.InStep c r') {platform platform' : Platform} (index : Nat)
    (hmeets : c.Meets ((r.slot? index).bind (r.answer? platform))
      ((r'.slot? index).bind (r'.answer? platform'))) :
    (r.move platform index).InStep c (r'.move platform' index) := by
  have hslot := hstep.slot?_eq index
  unfold TierRun.move
  cases hslot' : r'.slot? index with
  | none =>
      rw [hslot', Option.map_none] at hslot
      rw [hslot]
      exact hstep
  | some slot =>
      rw [hslot', Option.map_some] at hslot
      rw [hslot, hslot'] at hmeets
      rw [hslot]
      exact (hstep.moveSlot hmeets).settle

theorem isOver_eq (hstep : r.InStep c r') : r.isOver = r'.isOver := by
  rw [hstep.same]
  exact restaged_isOver ..

theorem result_eq (hstep : r.InStep c r') : r.result = r'.result := by
  rw [hstep.same]
  exact restaged_result ..

theorem failure_eq (hstep : r.InStep c r') : r.failure = r'.failure := by
  rw [hstep.same]
  rfl

theorem report_eq (hstep : r.InStep c r') : r.report = r'.report := by
  rw [hstep.same]
  rfl

theorem close (hstep : r.InStep c r') : r.close.InStep c r'.close := by
  unfold TierRun.close
  rw [hstep.failure_eq]
  cases r'.failure with
  | some failure => exact hstep
  | none => exact hstep.note _ _

end InStep

/-- Runs of the same tier begin in step. -/
theorem start_inStep {c : Comparison} {options options' : DeploymentOptions}
    (hwindow : options.window = options'.window) (hdryRun : options.dryRun = c.dryRun)
    (hdryRun' : options'.dryRun = c.dryRun') {h h' : History} (hpast : c.Past h h') (tier : Tier)
    (calls : Nat) :
    (TierRun.start options tier (calls + c.ahead) h).InStep c
      (TierRun.start options' tier calls h') := by
  apply InStep.refill
  apply InStep.note
  exact ⟨rfl, hwindow, hdryRun, hdryRun', hpast⟩

end TierRun

end PolicyRollout
