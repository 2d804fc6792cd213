import PolicyRollout.Proofs.Deployment.Reached
import PolicyRollout.Proofs.Deployment.Shares
/-!
What a run of a tier records itself, and what it only hears.  Events come with the answers of the
platform, and the run adds its own: one when the tier begins, some for each entity when it starts,
when it comes to an outcome, and when it is reported without one.  How far an entity has come fixes
which of them have been recorded for it, so all events of a run can be told from the phases of its
entities, up to their order.
-/
namespace PolicyRollout

def History.events (h : History) : List Event :=
  h.filterMap fun
    | .noted event => some event
    | _ => none

namespace History

variable {h : History}

@[simp]
theorem events_append (later earlier : History) :
    events (later ++ earlier) = events later ++ events earlier :=
  List.filterMap_append

@[simp]
theorem events_nil : events [] = [] :=
  rfl

@[simp]
theorem events_noted (event : Event) (h : History) :
    events (.noted event :: h) = event :: events h :=
  rfl

@[simp]
theorem events_called (serial : Nat) (entity : Option Nat) (call : Call) (h : History) :
    events (.called serial entity call :: h) = events h :=
  rfl

@[simp]
theorem events_answered (serial : Nat) (entity : Option Nat) (outturn : Outturn) (h : History) :
    events (.answered serial entity outturn :: h) = events h :=
  rfl

@[simp]
theorem events_notes (notes : List Event) : events (notes.map .noted) = notes := by
  induction notes with
  | nil => rfl
  | cons event rest ih => rw [List.map_cons, events_noted, ih]

end History

/-- What is recorded when an entity starts. -/
def Entity.startEvents (ctx : TierContext) (e : Entity) : List Event :=
  .configuring e.name e.ip ctx.templateId ::
    (e.unlistedDependencies ctx).map .droppedDependency

/-- What is recorded when an entity comes to an outcome. -/
def Outcome.event (dryRun : Bool) : Outcome → Event
  | .deployed entity _ ruleCount => .created dryRun ruleCount entity
  | .rejected entity _ errors => .validationFailed entity errors

/-- What has been recorded for an admitted entity. -/
def Slot.remarks (ctx : TierContext) (dryRun : Bool) (slot : Slot) : List Event :=
  match slot.phase with
  | .admitted | .skipped => []
  | .validating _ | .instantiating _ | .failed _ => slot.entity.startEvents ctx
  | .done outcome => outcome.event dryRun :: slot.entity.startEvents ctx

/-- What has been recorded for a reported entity. -/
def Slot.account (ctx : TierContext) (dryRun : Bool) (tier : String) (slot : Slot) : List Event :=
  slot.remarks ctx dryRun ++ (slot.notice? tier).toList

namespace TierRun

/-- The events that come with the answer an entity waits for. -/
def notesFor (r : TierRun) (platform : Platform) (slot : Slot) : List Event :=
  match r.outstanding? slot with
  | some (serial, call) => (platform r.history serial call).notes
  | none => []

/-- The events that come with the answers a run is given while it moves. -/
def heard (platform : Platform) : (schedule : List Nat) → TierRun → List Event
  | [], _ => []
  | index :: rest, r =>
    (r.slot? index).elim [] (r.notesFor platform) ++ heard platform rest (r.move platform index)

section Moves

variable {platform : Platform} {slot : Slot}

/-- What a move adds to the history is heard with an answer or belongs to the remarks on its
entity. -/
def Remarks (platform : Platform) (slot : Slot) (r : TierRun) (notes : List Event)
    (moved : TierRun) : Prop :=
  ∃ dest calls added, Moves platform r slot dest calls added ∧
    moved = r.brought slot dest calls added ∧
    (History.events added ++ slot.remarks r.ctx r.options.dryRun).Perm
      ({ slot with phase := dest }.remarks r.ctx r.options.dryRun ++ notes)

/-- Events that come with an answer are recorded before what is made of it. -/
theorem reverse_notes_perm (front notes start : List Event) :
    (front ++ notes.reverse ++ start).Perm (front ++ start ++ notes) := by
  rw [List.append_assoc, List.append_assoc]
  exact (List.perm_append_comm.trans (notes.reverse_perm.append_left start)).append_left front

theorem startSlot_remarks (r : TierRun) (hphase : slot.phase = .admitted) :
    Remarks platform slot r [] (r.startSlot slot) := by
  cases hskip : slot.skip with
  | true =>
      refine ⟨_, _, _, .skips hphase hskip, ?_, ?_⟩
      · simp [startSlot, hskip, brought, Phase.isFailed]
      · simp [Slot.remarks, hphase]
  | false =>
      refine ⟨_, _, _, .starts hphase hskip, startSlot_of_not_skip hskip r, ?_⟩
      rw [History.events_called, History.events_notes]
      simp only [Slot.remarks, hphase, Entity.startEvents, List.append_nil]
      exact (List.reverse_perm _).cons _

theorem judge_remarks {serial : Nat} {reply : Reply Verdict} (r : TierRun)
    (hphase : slot.phase = .validating serial)
    (hgives : platform.Gives (r.validation slot) reply.result) :
    Remarks platform slot r reply.notes (r.judge slot serial reply) := by
  obtain ⟨result, notes⟩ := reply
  cases result with
  | error source =>
      refine ⟨_, _, _, .unjudged notes.reverse hphase hgives, judge_error .., ?_⟩
      rw [History.events_answered, History.events_notes]
      simp only [Slot.remarks, hphase]
      exact reverse_notes_perm [] notes _
  | ok verdict =>
      cases hvalid : verdict.valid with
      | false =>
          refine ⟨_, _, _, .refused notes.reverse hphase hgives hvalid,
            judge_refused _ _ hvalid .., ?_⟩
          rw [History.events_noted, History.events_answered, History.events_notes]
          simp only [Slot.remarks, hphase]
          exact reverse_notes_perm [_] notes _
      | true =>
          refine ⟨_, _, _, .accepted notes.reverse hphase hgives hvalid,
            judge_accepted _ _ hvalid .., ?_⟩
          rw [History.events_called, History.events_answered, History.events_notes]
          simp only [Slot.remarks, hphase]
          exact reverse_notes_perm [] notes _

theorem create_remarks {serial : Nat} {reply : Reply Creation} (r : TierRun)
    (hphase : slot.phase = .instantiating serial)
    (hgives : platform.Gives (r.instantiation slot) reply.result) :
    Remarks platform slot r reply.notes (r.create slot serial reply) := by
  obtain ⟨result, notes⟩ := reply
  cases result with
  | error source =>
      refine ⟨_, _, _, .uncreated notes.reverse hphase hgives, create_error .., ?_⟩
      rw [History.events_answered, History.events_notes]
      simp only [Slot.remarks, hphase]
      exact reverse_notes_perm [] notes _
  | ok creation =>
      refine ⟨_, _, _, .created notes.reverse hphase hgives, create_ok .., ?_⟩
      rw [History.events_noted, History.events_answered, History.events_notes]
      simp only [Slot.remarks, hphase]
      exact reverse_notes_perm [_] notes _

theorem moveSlot_remarks (platform : Platform) (r : TierRun) (hfinal : slot.phase.isFinal = false) :
    Remarks platform slot r (r.notesFor platform slot) (r.moveSlot platform slot) := by
  unfold moveSlot notesFor outstanding?
  cases hphase : slot.phase with
  | admitted => exact startSlot_remarks r hphase
  | validating serial => exact judge_remarks r hphase ⟨_, _, rfl⟩
  | instantiating serial => exact create_remarks r hphase ⟨_, _, rfl⟩
  | skipped => simp [hphase, Phase.isFinal] at hfinal
  | failed source => simp [hphase, Phase.isFinal] at hfinal
  | done outcome => simp [hphase, Phase.isFinal] at hfinal

theorem notesFor_of_final (platform : Platform) (r : TierRun) (hfinal : slot.phase.isFinal = true) :
    r.notesFor platform slot = [] := by
  unfold notesFor outstanding?
  cases hphase : slot.phase <;> simp_all [Phase.isFinal]

end Moves

/-- The event that is recorded when a tier begins. -/
def announcement (tier : Tier) : Event :=
  .deployingTier tier.kind tier.name tier.switch tier.entities.size

/-- What a run has added to the history are the announcement of its tier, the accounts of its
reported entities, the remarks on those in the window, and what it has heard. -/
def Logged (tier : Tier) (options : DeploymentOptions) (heard : List Event) (closed : List Slot)
    (log : History) (r : TierRun) : Prop :=
  (History.events log).Perm
    (announcement tier :: closed.flatMap (Slot.account (.ofTier tier) options.dryRun tier.name) ++
      r.window.flatMap (Slot.remarks (.ofTier tier) options.dryRun) ++ heard)

section Logged

variable {platform : Platform} {options : DeploymentOptions} {tier : Tier} {before : History}
  {closed : List Slot} {log : History} {r : TierRun} {heard notes : List Event}

/-- Slots at other positions stay as they are. -/
theorem map_set_of_not_mem {slots : List Slot} {index : Nat}
    (hindex : index ∉ slots.map Slot.index) (dest : Phase) :
    slots.map (Slot.set index dest) = slots := by
  calc slots.map (Slot.set index dest) = slots.map id := by
        apply List.map_congr_left
        intro slot hslot
        exact Slot.set_of_ne fun heq => hindex (heq ▸ List.mem_map_of_mem hslot)
    _ = slots := List.map_id slots

/-- Of what is read off the slots only the part of the one that is set is exchanged. -/
theorem flatMap_set_perm {slots : List Slot} {slot : Slot} (hslot : slot ∈ slots)
    (hindexes : (slots.map Slot.index).Nodup) (dest : Phase) (f : Slot → List Event) :
    ((slots.map (Slot.set slot.index dest)).flatMap f ++ f slot).Perm
      (slots.flatMap f ++ f { slot with phase := dest }) := by
  obtain ⟨front, back, rfl⟩ := List.append_of_mem hslot
  rw [List.map_append, List.map_cons] at hindexes
  obtain ⟨_, hback, hdisjoint⟩ := List.nodup_append.mp hindexes
  have hfront : slot.index ∉ front.map Slot.index := fun hin =>
    hdisjoint _ hin _ List.mem_cons_self rfl
  rw [List.map_append, List.map_cons, map_set_of_not_mem hfront,
    map_set_of_not_mem (List.nodup_cons.mp hback).1, Slot.set_self, List.perm_iff_count]
  intro event
  simp only [List.flatMap_append, List.flatMap_cons, List.count_append]
  omega

theorem Sound.window_indexes_nodup (hsound : Sound platform options tier before closed log r) :
    (r.window.map Slot.index).Nodup := by
  have hall : ((closed ++ r.window).map Slot.index).Nodup := by
    rw [hsound.enrolled.map_index]
    exact List.nodup_range
  rw [List.map_append] at hall
  exact (List.nodup_append.mp hall).2.1

theorem Logged.moved (hlogged : Logged tier options heard closed log r)
    (hsound : Sound platform options tier before closed log r) {slot : Slot}
    (hslot : slot ∈ r.window) {dest : Phase} {calls : Nat} {added : History}
    (hadded : (History.events added ++ slot.remarks r.ctx r.options.dryRun).Perm
      ({ slot with phase := dest }.remarks r.ctx r.options.dryRun ++ notes)) :
    Logged tier options (heard ++ notes) closed (added ++ log)
      (r.brought slot dest calls added) := by
  rw [hsound.ctx_eq, hsound.options_eq] at hadded
  have hwindow := flatMap_set_perm hslot hsound.window_indexes_nodup dest
    (Slot.remarks (.ofTier tier) options.dryRun)
  have hset : (r.brought slot dest calls added).window =
      r.window.map (Slot.set slot.index dest) := rfl
  unfold Logged at hlogged ⊢
  rw [hset, List.perm_iff_count]
  intro event
  have hlogged := hlogged.count_eq event
  have hadded := hadded.count_eq event
  have hwindow := hwindow.count_eq event
  simp only [History.events_append, List.count_append] at hlogged hadded hwindow ⊢
  omega

theorem flatMap_account_perm (ctx : TierContext) (dryRun : Bool) (name : String)
    (slots : List Slot) :
    (slots.flatMap (Slot.account ctx dryRun name)).Perm
      (slots.flatMap (Slot.remarks ctx dryRun) ++ slots.filterMap (Slot.notice? name)) := by
  induction slots with
  | nil => exact .nil
  | cons slot rest ih =>
      rw [List.perm_iff_count] at ih ⊢
      intro event
      have hrest := ih event
      cases hnotice : slot.notice? name with
      | none =>
          simp only [List.flatMap_cons, List.filterMap_cons_none hnotice, Slot.account, hnotice,
            Option.toList_none, List.append_nil, List.count_append] at hrest ⊢
          omega
      | some notice =>
          simp only [List.flatMap_cons, List.filterMap_cons_some hnotice, Slot.account, hnotice,
            Option.toList_some, List.count_append, List.count_cons, List.count_nil] at hrest ⊢
          omega

theorem Logged.drained (hlogged : Logged tier options heard closed log r) (htier : r.tier = tier) :
    Logged tier options heard (closed ++ r.finished) (r.notices.map .noted ++ log) r.drain := by
  have hfinished := flatMap_account_perm (.ofTier tier) options.dryRun tier.name r.finished
  have hnotices : r.notices.Perm (r.finished.filterMap (Slot.notice? tier.name)) :=
    htier ▸ List.reverse_perm _
  have hwindow : r.drain.window = r.unfinished := by
    rw [drain_eq]
    rfl
  unfold Logged at hlogged ⊢
  rw [← r.finished_append_unfinished] at hlogged
  rw [hwindow, List.perm_iff_count]
  intro event
  have hlogged := hlogged.count_eq event
  have hfinished := hfinished.count_eq event
  have hnotices := hnotices.count_eq event
  simp only [History.events_append, History.events_notes, List.flatMap_append, List.count_append,
    List.count_cons] at hlogged hfinished hnotices ⊢
  omega

theorem Logged.refilled (hlogged : Logged tier options heard closed log r) :
    Logged tier options heard closed log r.refill := by
  have hnone : r.admitted.flatMap (Slot.remarks (.ofTier tier) options.dryRun) = [] := by
    rw [List.flatMap_eq_nil_iff]
    intro slot hslot
    rw [Slot.remarks, (mem_admitted hslot).2]
  unfold Logged at hlogged ⊢
  rwa [refill_eq, List.flatMap_append, hnone, List.append_nil]

theorem Sound.settle_logged (hsound : Sound platform options tier before closed log r)
    (hlogged : Logged tier options heard closed log r) :
    ∃ closed' log', Sound platform options tier before closed' log' r.settle ∧
      Logged tier options heard closed' log' r.settle :=
  ⟨_, _, (sound_kept platform options tier before).settle hsound,
    (hlogged.drained hsound.tier_eq).refilled⟩

theorem Sound.move_logged (hsound : Sound platform options tier before closed log r)
    (hlogged : Logged tier options heard closed log r) (index : Nat) :
    ∃ closed' log', Sound platform options tier before closed' log' (r.move platform index) ∧
      Logged tier options (heard ++ (r.slot? index).elim [] (r.notesFor platform)) closed' log'
        (r.move platform index) := by
  unfold move
  cases hfound : r.slot? index with
  | none => exact ⟨closed, log, hsound, by simpa using hlogged⟩
  | some slot =>
      have hslot : slot ∈ r.window := List.mem_of_find?_eq_some hfound
      cases hfinal : slot.phase.isFinal with
      | true =>
          simp only [moveSlot_of_final platform r hfinal, Option.elim_some,
            notesFor_of_final platform r hfinal, List.append_nil]
          exact hsound.settle_logged hlogged
      | false =>
          obtain ⟨dest, calls, added, hmoves, hbrought, hadded⟩ :=
            moveSlot_remarks platform r hfinal
          have hmoved := (sound_kept platform options tier before).moved hsound hslot hfinal hmoves
          simp only [hbrought, Option.elim_some]
          exact hmoved.settle_logged (hlogged.moved hsound hslot hadded)

/-- Whatever moves are made, the events a run has added to the history are told by its slots and by
what it has heard. -/
theorem Sound.run_logged (hsound : Sound platform options tier before closed log r)
    (hlogged : Logged tier options heard closed log r) (schedule : List Nat) :
    ∃ closed' log', Sound platform options tier before closed' log' (r.run platform schedule) ∧
      Logged tier options (heard ++ r.heard platform schedule) closed' log'
        (r.run platform schedule) := by
  induction schedule generalizing closed log r heard with
  | nil =>
      refine ⟨closed, log, hsound, ?_⟩
      rw [TierRun.heard, List.append_nil]
      exact hlogged
  | cons index rest ih =>
      obtain ⟨closed', log', hsound', hlogged'⟩ := hsound.move_logged hlogged index
      obtain ⟨closed'', log'', hsound'', hlogged''⟩ := ih hsound' hlogged'
      refine ⟨closed'', log'', hsound'', ?_⟩
      rwa [List.append_assoc] at hlogged''

theorem start_logged (options : DeploymentOptions) (tier : Tier) (calls : Nat) (before : History) :
    Logged tier options [] [] (opening tier) (TierRun.start options tier calls before) := by
  rw [start_eq_refill]
  apply Logged.refilled
  exact .refl _

end Logged

end TierRun

end PolicyRollout
