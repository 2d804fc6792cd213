import Mathlib.Data.List.TakeWhile
import PolicyRollout.Proofs.Deployment.Moves
/-!
Reporting and admitting.  Entities at the front of the window that have finished
leave it together; what they leave behind is a function of their phases alone.
-/
namespace PolicyRollout

/-- The event recorded when an entity without an outcome is reported. -/
def Slot.notice? (tier : String) (slot : Slot) : Option Event :=
  match slot.phase with
  | .done _ => none
  | .failed source => some (.serviceFailure slot.entity.name tier source)
  | _ => some (.skipping slot.entity.name tier)

/-- The entity of a slot with its position. -/
def Slot.seat (slot : Slot) : Nat × Entity := (slot.index, slot.entity)

def Tier.seats (t : Tier) : List (Nat × Entity) :=
  t.entities.toList.zipIdx.map fun (entity, index) => (index, entity)

namespace TierRun

/-- The run with some slots reported. -/
def reportAll (slots : List Slot) (r : TierRun) : TierRun :=
  { r with outcomes := r.outcomes ++ slots.filterMap Slot.outcome?
           failure := r.failure.or (slots.findSome? Slot.failure?) }.record
    ((slots.filterMap (Slot.notice? r.tier.name)).reverse.map .noted)

theorem reportSlot_eq_reportAll (slot : Slot) (r : TierRun) :
    r.reportSlot slot = r.reportAll [slot] := by
  unfold reportSlot reportAll record
  cases hphase : slot.phase <;>
    simp [hphase, Slot.outcome?, Slot.failure?, Slot.notice?, note]

theorem reportAll_append (first second : List Slot) (r : TierRun) :
    r.reportAll (first ++ second) = (r.reportAll first).reportAll second := by
  simp [reportAll, record, List.findSome?_append, Option.or_assoc]

theorem foldl_reportSlot (slots : List Slot) (r : TierRun) :
    slots.foldl (fun r slot => r.reportSlot slot) r = r.reportAll slots := by
  induction slots generalizing r with
  | nil => simp [reportAll, record]
  | cons slot rest ih =>
      rw [List.foldl_cons, ih, reportSlot_eq_reportAll, ← reportAll_append]
      rfl

/-- The finished slots at the front of the window. -/
def finished (r : TierRun) : List Slot :=
  r.window.takeWhile (·.phase.isFinal)

/-- The window from its first unfinished slot on. -/
def unfinished (r : TierRun) : List Slot :=
  r.window.dropWhile (·.phase.isFinal)

theorem drain_eq (r : TierRun) :
    r.drain = { r with window := r.unfinished }.reportAll r.finished :=
  foldl_reportSlot ..

theorem finished_append_unfinished (r : TierRun) : r.finished ++ r.unfinished = r.window :=
  List.takeWhile_append_dropWhile

theorem isFinal_of_mem_finished {r : TierRun} {slot : Slot} (hslot : slot ∈ r.finished) :
    slot.phase.isFinal = true :=
  List.mem_takeWhile_imp (p := fun slot : Slot => slot.phase.isFinal) hslot

/-- What reporting the finished slots adds to the history. -/
def notices (r : TierRun) : List Event :=
  (r.finished.filterMap (Slot.notice? r.tier.name)).reverse

/-- How many entities are admitted when the window is filled. -/
def room (r : TierRun) : Nat :=
  r.options.window - r.window.length

/-- The slots of the entities that are admitted when the window is filled. -/
def admitted (r : TierRun) : List Slot :=
  (r.waiting.take r.room).map fun (index, entity) => Slot.mk index entity r.failed .admitted

theorem refill_eq (r : TierRun) :
    r.refill = { r with window := r.window ++ r.admitted, waiting := r.waiting.drop r.room } :=
  rfl

theorem settle_history (r : TierRun) :
    r.settle.history = r.notices.map .noted ++ r.history := by
  rw [settle, refill_eq, drain_eq]
  rfl

theorem admitted_map_seat (r : TierRun) :
    r.admitted.map Slot.seat = r.waiting.take r.room := by
  simp [admitted, Slot.seat, Function.comp_def]

theorem mem_admitted {r : TierRun} {slot : Slot} (hslot : slot ∈ r.admitted) :
    slot.skip = r.failed ∧ slot.phase = .admitted := by
  simp only [admitted, List.mem_map] at hslot
  obtain ⟨seat, _, rfl⟩ := hslot
  exact ⟨rfl, rfl⟩

end TierRun

end PolicyRollout
