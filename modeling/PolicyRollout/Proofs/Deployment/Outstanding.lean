import Mathlib.Data.List.Perm.Lattice
import Mathlib.Data.List.Range
import PolicyRollout.Proofs.Deployment.Growth
/-!
The calls of a deployment that wait for their answers.  Calls are numbered in the order in which
they are made, an answer is taken for the call that was waited for, and so the calls that some
entity waits for are at every moment those that have been made and not been answered.
-/
namespace PolicyRollout

def Occurrence.answeredSerial? : Occurrence → Option Nat
  | .answered serial _ _ => some serial
  | _ => none

namespace History

/-- The serial numbers of the calls that have been made, in their order. -/
def calledSerials (h : History) : List Nat :=
  h.reverse.filterMap Occurrence.serial?

/-- The serial numbers of the calls that have been answered, the latest first. -/
def answeredSerials (h : History) : List Nat :=
  h.filterMap Occurrence.answeredSerial?

/-- The serial numbers of the calls that have not been answered, in the order of the calls. -/
def unanswered (h : History) : List Nat :=
  h.calledSerials.filter fun serial => serial ∉ h.answeredSerials

theorem calledSerials_append (later earlier : History) :
    calledSerials (later ++ earlier) = earlier.calledSerials ++ later.calledSerials := by
  simp [calledSerials]

theorem answeredSerials_append (later earlier : History) :
    answeredSerials (later ++ earlier) = later.answeredSerials ++ earlier.answeredSerials :=
  List.filterMap_append

section

variable (serial : Nat) (entity : Option Nat) (call : Call) (outturn : Outturn) (event : Event)
  (h : History)

@[simp]
theorem calledSerials_called :
    calledSerials (.called serial entity call :: h) = h.calledSerials ++ [serial] := by
  simp [calledSerials, Occurrence.serial?]

@[simp]
theorem calledSerials_answered :
    calledSerials (.answered serial entity outturn :: h) = h.calledSerials := by
  simp [calledSerials, Occurrence.serial?, List.filterMap_cons]

@[simp]
theorem calledSerials_noted : calledSerials (.noted event :: h) = h.calledSerials := by
  simp [calledSerials, Occurrence.serial?, List.filterMap_cons]

@[simp]
theorem answeredSerials_called :
    answeredSerials (.called serial entity call :: h) = h.answeredSerials :=
  rfl

@[simp]
theorem answeredSerials_answered :
    answeredSerials (.answered serial entity outturn :: h) = serial :: h.answeredSerials :=
  rfl

@[simp]
theorem answeredSerials_noted : answeredSerials (.noted event :: h) = h.answeredSerials :=
  rfl

end

@[simp]
theorem calledSerials_notes (events : List Event) :
    calledSerials (events.map .noted) = [] := by
  simp [calledSerials, Occurrence.serial?, Function.comp_def]

@[simp]
theorem answeredSerials_notes (events : List Event) :
    answeredSerials (events.map .noted) = [] := by
  simp [answeredSerials, Occurrence.answeredSerial?, Function.comp_def]

/-- So many calls have been made, under the numbers up to there, and only such were answered. -/
structure Numbered (calls : Nat) (h : History) : Prop where
  called : h.calledSerials = List.range calls
  answered : ∀ serial ∈ h.answeredSerials, serial < calls

section Numbered

variable {calls : Nat} {h added : History}

theorem mem_unanswered {serial : Nat} :
    serial ∈ h.unanswered ↔ serial ∈ h.calledSerials ∧ serial ∉ h.answeredSerials := by
  simp [unanswered]

theorem Numbered.lt_of_mem_unanswered (hnumbered : h.Numbered calls) {serial : Nat}
    (hserial : serial ∈ h.unanswered) : serial < calls := by
  have hcalled := (mem_unanswered.mp hserial).1
  rw [hnumbered.called] at hcalled
  exact List.mem_range.mp hcalled

theorem Numbered.unanswered_ordered (hnumbered : h.Numbered calls) :
    h.unanswered.Pairwise (· < ·) := by
  rw [unanswered, hnumbered.called]
  exact List.pairwise_lt_range.filter _

theorem Numbered.unanswered_nodup (hnumbered : h.Numbered calls) : h.unanswered.Nodup :=
  hnumbered.unanswered_ordered.imp Nat.ne_of_lt

/-- Further calls are made, and an earlier one is answered. -/
theorem Numbered.append (hnumbered : h.Numbered calls) {made : Nat} {answer? : Option Nat}
    (hcalled : added.calledSerials = List.range' calls made)
    (hanswered : added.answeredSerials = answer?.toList) (hearlier : ∀ s ∈ answer?, s < calls) :
    History.Numbered (calls + made) (added ++ h) ∧
      unanswered (added ++ h) =
        h.unanswered.filter (fun serial => serial ∉ answer?) ++ List.range' calls made := by
  have hmem : ∀ serial, serial ∈ answeredSerials (added ++ h) ↔
      serial ∈ answer? ∨ serial ∈ h.answeredSerials := by
    intro serial
    rw [answeredSerials_append, hanswered, List.mem_append, Option.mem_toList, Option.mem_def]
  have hrange : calledSerials (added ++ h) = List.range calls ++ List.range' calls made := by
    rw [calledSerials_append, hcalled, hnumbered.called]
  refine ⟨⟨?_, ?_⟩, ?_⟩
  · have hjoin := @List.range'_append_1 0 calls made
    rw [Nat.zero_add] at hjoin
    rw [hrange, List.range_eq_range', List.range_eq_range', hjoin]
  · intro serial hserial
    rcases (hmem serial).mp hserial with hnew | hold
    · exact Nat.lt_add_right made (hearlier serial hnew)
    · exact Nat.lt_add_right made (hnumbered.answered serial hold)
  · rw [unanswered, hrange, List.filter_append]
    congr 1
    · rw [unanswered, hnumbered.called, List.filter_filter]
      apply List.filter_congr
      intro serial _
      rw [← Bool.decide_and, decide_eq_decide, hmem, not_or]
    · apply List.filter_eq_self.mpr
      intro serial hserial
      have hle := (List.mem_range'_1.mp hserial).1
      rw [decide_eq_true_iff, hmem]
      rintro (hnew | hold)
      · exact absurd (hearlier serial hnew) (by omega)
      · exact absurd (hnumbered.answered serial hold) (by omega)

/-- Events change nothing about calls. -/
theorem Numbered.notes (hnumbered : h.Numbered calls) (events : List Event) :
    History.Numbered calls (events.map .noted ++ h) ∧
      unanswered (events.map .noted ++ h) = h.unanswered := by
  obtain ⟨hnotes, hsame⟩ := @append calls h (events.map .noted) hnumbered 0 none
    (calledSerials_notes events) (answeredSerials_notes events) nofun
  exact ⟨hnotes, by simpa using hsame⟩

end Numbered

end History

/-- The serial number of the call that an entity waits for. -/
def Phase.awaits? : Phase → Option Nat
  | .validating serial | .instantiating serial => some serial
  | _ => none

theorem Phase.awaits?_of_isFinal {phase : Phase} (hfinal : phase.isFinal = true) :
    phase.awaits? = none := by
  cases phase with
  | skipped => rfl
  | failed source => rfl
  | done outcome => rfl
  | _ => contradiction

namespace TierRun

/-- The serial numbers of the calls that entities of a tier wait for. -/
def awaited (r : TierRun) : List Nat :=
  r.window.filterMap fun slot => slot.phase.awaits?

section Moves

variable {platform : Platform} {r : TierRun} {slot : Slot} {dest : Phase} {calls : Nat}
  {added : History}

theorem Moves.calledSerials (hmoves : Moves platform r slot dest calls added) :
    added.calledSerials = List.range' r.calls calls := by
  cases hmoves with
  | skips => rfl
  | starts =>
      rw [History.calledSerials_called, History.calledSerials_notes]
      rfl
  | _ => simp

theorem Moves.answeredSerials (hmoves : Moves platform r slot dest calls added) :
    added.answeredSerials = slot.phase.awaits?.toList := by
  cases hmoves with
  | skips hphase =>
      rw [hphase]
      rfl
  | starts hphase =>
      rw [hphase, History.answeredSerials_called, History.answeredSerials_notes]
      rfl
  | _ => simp_all [Phase.awaits?]

theorem Moves.awaits?_dest (hmoves : Moves platform r slot dest calls added) :
    dest.awaits?.toList = List.range' r.calls calls := by
  cases hmoves <;> simp [Phase.awaits?]

end Moves

/-- The calls that are waited for are those that have not been answered. -/
structure Tally (r : TierRun) : Prop where
  numbered : r.history.Numbered r.calls
  awaited : r.awaited.Perm r.history.unanswered

theorem Tally.of_awaited_eq {r r' : TierRun} (htally : r.Tally) (hcalls : r'.calls = r.calls)
    (hawaited : r'.awaited = r.awaited) (events : List Event)
    (hhistory : r'.history = events.map .noted ++ r.history) : r'.Tally := by
  obtain ⟨hnumbered, hunanswered⟩ := htally.numbered.notes events
  rw [← hhistory] at hnumbered hunanswered
  exact ⟨hcalls ▸ hnumbered, hawaited ▸ hunanswered ▸ htally.awaited⟩

theorem awaited_eq_nil {slots : List Slot} (hnone : ∀ slot ∈ slots, slot.phase.awaits? = none) :
    slots.filterMap (fun slot => slot.phase.awaits?) = [] :=
  List.filterMap_eq_nil_iff.mpr hnone

theorem Tally.drain {r : TierRun} (htally : r.Tally) : r.drain.Tally := by
  rw [drain_eq]
  refine htally.of_awaited_eq rfl ?_ r.notices rfl
  have hfinished : r.finished.filterMap (fun slot => slot.phase.awaits?) = [] :=
    awaited_eq_nil fun slot hslot => Phase.awaits?_of_isFinal (isFinal_of_mem_finished hslot)
  rw [TierRun.awaited, TierRun.awaited, ← r.finished_append_unfinished, List.filterMap_append,
    hfinished]
  rfl

theorem Tally.refill {r : TierRun} (htally : r.Tally) : r.refill.Tally := by
  rw [refill_eq]
  refine htally.of_awaited_eq rfl ?_ [] rfl
  have hadmitted : r.admitted.filterMap (fun slot => slot.phase.awaits?) = [] := by
    apply awaited_eq_nil
    intro slot hslot
    rw [(mem_admitted hslot).2]
    rfl
  rw [TierRun.awaited, List.filterMap_append, hadmitted, List.append_nil]
  rfl

/-- Of numbers that all differ, those other than one that stands among them. -/
theorem filter_eq_of_nodup {front back : List Nat} {o : Option Nat}
    (hnodup : (front ++ (o.toList ++ back)).Nodup) :
    (front ++ (o.toList ++ back)).filter (fun n => n ∉ o) = front ++ back := by
  cases o with
  | none => simp
  | some m =>
      have hperm : (front ++ m :: back).Perm (m :: (front ++ back)) := List.perm_middle
      have hfresh := (List.nodup_cons.mp (hperm.nodup_iff.mp hnodup)).1
      rw [List.mem_append, not_or] at hfresh
      have hkeep : ∀ others : List Nat, m ∉ others → others.filter (fun n => n ∉ some m) = others :=
        fun others hothers => List.filter_eq_self.mpr fun n hn => by
          have hne : m ≠ n := fun heq => hothers (heq ▸ hn)
          simpa using hne
      rw [List.filter_append, List.filter_append, hkeep front hfresh.1, hkeep back hfresh.2]
      simp

/-- The slots before and behind a slot of the window, and what setting its phase does. -/
theorem exists_cut_window {tier : Tier} {slots : List Slot} {waiting : List (Nat × Entity)}
    {r : TierRun} (henrolled : Enrolled tier (slots ++ r.window) waiting) {slot : Slot}
    (hslot : slot ∈ r.window) : ∃ front back, r.window = front ++ slot :: back ∧
      ∀ dest, r.window.map (Slot.set slot.index dest) =
        front ++ { slot with phase := dest } :: back := by
  obtain ⟨front, back, hwindow⟩ := List.append_of_mem hslot
  refine ⟨front, back, hwindow, fun dest => ?_⟩
  have hindexes : ((slots ++ r.window).map Slot.index).Nodup := by
    have hseats : (tier.seats.map Prod.fst).Nodup := by
      simp [Tier.seats, Function.comp_def, List.zipIdx_map_snd, List.nodup_range']
    rw [← henrolled, List.map_append, List.map_map] at hseats
    exact (List.nodup_append.mp hseats).1
  rw [List.map_append, hwindow, List.map_append, List.map_cons] at hindexes
  have hwindow' := (List.nodup_append.mp hindexes).2.1
  obtain ⟨_, hbehind, hbefore⟩ := List.nodup_append.mp hwindow'
  have hkeep : ∀ others : List Slot, (∀ other ∈ others, other.index ≠ slot.index) →
      others.map (Slot.set slot.index dest) = others := by
    intro others hothers
    calc others.map (Slot.set slot.index dest) = others.map id :=
          List.map_congr_left fun other hother => Slot.set_of_ne (hothers other hother)
      _ = others := List.map_id others
  rw [hwindow, List.map_append, List.map_cons, Slot.set_self, hkeep front, hkeep back]
  · intro other hother heq
    exact (List.nodup_cons.mp hbehind).1 (heq ▸ List.mem_map_of_mem hother)
  · intro other hother heq
    exact hbefore _ (List.mem_map_of_mem hother) _ List.mem_cons_self heq

theorem Tally.moved {platform : Platform} {tier : Tier} {slots : List Slot} {r : TierRun}
    (htally : r.Tally) (henrolled : Enrolled tier (slots ++ r.window) r.waiting) {slot : Slot}
    (hslot : slot ∈ r.window) {dest : Phase} {calls : Nat} {added : History}
    (hmoves : Moves platform r slot dest calls added) :
    (r.brought slot dest calls added).Tally := by
  obtain ⟨front, back, hwindow, hset⟩ := exists_cut_window henrolled hslot
  have hawaited : r.awaited = front.filterMap (fun slot => slot.phase.awaits?) ++
      (slot.phase.awaits?.toList ++ back.filterMap fun slot => slot.phase.awaits?) := by
    rw [TierRun.awaited, hwindow, List.filterMap_append, List.filterMap_cons]
    cases slot.phase.awaits? <;> rfl
  have hawaited' : (r.brought slot dest calls added).awaited =
      front.filterMap (fun slot => slot.phase.awaits?) ++
      (dest.awaits?.toList ++ back.filterMap fun slot => slot.phase.awaits?) := by
    change (r.window.map (Slot.set slot.index dest)).filterMap _ = _
    rw [hset dest, List.filterMap_append, List.filterMap_cons]
    cases dest.awaits? <;> rfl
  have hperm := htally.awaited
  have hnodup := hperm.nodup_iff.mpr htally.numbered.unanswered_nodup
  have hearlier : ∀ s ∈ slot.phase.awaits?, s < r.calls := by
    intro s hs
    apply htally.numbered.lt_of_mem_unanswered
    apply hperm.subset
    rw [hawaited]
    simp [Option.mem_def.mp hs]
  obtain ⟨hnumbered, hunanswered⟩ :=
    htally.numbered.append hmoves.calledSerials hmoves.answeredSerials hearlier
  refine ⟨hnumbered, ?_⟩
  change List.Perm _ (History.unanswered (added ++ r.history))
  rw [hunanswered, hawaited', hmoves.awaits?_dest]
  rw [hawaited] at hperm hnodup
  have hothers := hperm.filter fun serial => decide (serial ∉ slot.phase.awaits?)
  rw [filter_eq_of_nodup hnodup] at hothers
  refine .trans ?_ (hothers.append_right _)
  rw [List.append_assoc]
  exact .append_left _ List.perm_append_comm

theorem tally_kept (platform : Platform) (options : DeploymentOptions) (tier : Tier)
    (before : History) :
    Kept platform fun closed log r => Sound platform options tier before closed log r ∧ r.Tally where
  moved := by
    rintro closed log r slot dest calls added ⟨hsound, htally⟩ hslot hfinal hmoves
    exact ⟨(sound_kept platform options tier before).moved hsound hslot hfinal hmoves,
      htally.moved hsound.enrolled hslot hmoves⟩
  drained := by
    rintro closed log r ⟨hsound, htally⟩
    exact ⟨(sound_kept platform options tier before).drained hsound, htally.drain⟩
  refilled := by
    rintro closed log r ⟨hsound, htally⟩
    exact ⟨(sound_kept platform options tier before).refilled hsound, htally.refill⟩

section Tiers

variable {platform : Platform} {options : DeploymentOptions} {tier : Tier} {calls calls' : Nat}
  {before history : History} {runs : List TierRun} {r : TierRun}

/-- A tier begins when all calls have been answered. -/
theorem start_tally (options : DeploymentOptions) (tier : Tier) (hnumbered : before.Numbered calls)
    (hnone : before.unanswered = []) : (TierRun.start options tier calls before).Tally := by
  rw [start_eq_refill]
  apply Tally.refill
  obtain ⟨hopened, hsame⟩ := hnumbered.notes
    [.deployingTier tier.kind tier.name tier.switch tier.entities.size]
  exact ⟨hopened, .of_eq (hsame.trans hnone).symm⟩

theorem Reached.tally (hreached : r.Reached platform options tier calls before)
    (hnumbered : before.Numbered calls) (hnone : before.unanswered = []) : r.Tally := by
  obtain ⟨schedule, rfl⟩ := hreached
  obtain ⟨closed, log, _, htally⟩ := (tally_kept platform options tier before).run schedule
    ⟨start_sound platform options tier calls before, start_tally options tier hnumbered hnone⟩
  exact htally

theorem Tally.unanswered_eq_nil (htally : r.Tally) (hover : r.isOver = true) :
    r.history.unanswered = [] := by
  have hnone : r.awaited = [] := by
    rw [TierRun.awaited, window_eq_nil_of_isOver hover, List.filterMap_nil]
  exact (hnone ▸ htally.awaited).nil_eq.symm

theorem close_calls (r : TierRun) : r.close.calls = r.calls := by
  unfold close
  split <;> rfl

theorem Passed.numbered (hpassed : Passed platform options calls before runs calls' history)
    (hnumbered : before.Numbered calls) (hnone : before.unanswered = []) :
    history.Numbered calls' ∧ history.unanswered = [] := by
  induction hpassed with
  | none => exact ⟨hnumbered, hnone⟩
  | @more runs calls' history tier r hpassed hreached hover hok ih =>
      have htally := hreached.tally ih.1 ih.2
      obtain ⟨events, hclose⟩ := r.close_history
      obtain ⟨hclosed, hsame⟩ := htally.numbered.notes events
      rw [r.close_calls, hclose]
      exact ⟨hclosed, hsame.trans (htally.unanswered_eq_nil hover)⟩

end Tiers

end TierRun

namespace Rollout

variable {platform : Platform} {options : DeploymentOptions} {stamp : RunStamp}
  {topology : Topology} {r : Rollout}

theorem listingHistory_numbered :
    (listingHistory options stamp topology).Numbered 1 ∧
      (listingHistory options stamp topology).unanswered = [0] :=
  ⟨⟨rfl, nofun⟩, rfl⟩

theorem heard_numbered (notes : List Event) (result : Except PlatformError (List TemplateDescriptor)) :
    let h : History := .answered 0 none (.listed result) ::
      (notes.map .noted ++ listingHistory options stamp topology)
    h.Numbered 1 ∧ h.unanswered = [] := by
  intro h
  obtain ⟨hnumbered, hsame⟩ :=
    (@listingHistory_numbered options stamp topology).1.notes notes
  obtain ⟨hheard, hnone⟩ := @History.Numbered.append _ _ [.answered 0 none (.listed result)]
    hnumbered 0 (some 0) rfl rfl (by simp)
  refine ⟨hheard, hnone.trans ?_⟩
  rw [hsame, listingHistory_numbered.2]
  rfl

theorem Opened.numbered {calls : Nat} {before : History}
    (hopened : Opened platform options stamp topology calls before) :
    before.Numbered calls ∧ before.unanswered = [] := by
  cases hopened with
  | unverified => exact ⟨⟨rfl, nofun⟩, rfl⟩
  | verified hverify notes hgives hfine => exact heard_numbered notes _

/-- The serial numbers of the calls that a deployment waits for. -/
def awaited (r : Rollout) : List Nat :=
  match r.stage with
  | .over _ => []
  | .listing serial => [serial]
  | .tier run _ => run.awaited

/-- The calls that a deployment waits for are those that have not been answered. -/
theorem Course.tally (hcourse : Course platform options stamp topology r) :
    r.history.Numbered r.calls ∧ r.awaited.Perm r.history.unanswered := by
  cases hcourse with
  | listing hverify =>
      exact ⟨listingHistory_numbered.1, .of_eq listingHistory_numbered.2.symm⟩
  | refused hverify notes hgives hsource =>
      obtain ⟨hnumbered, hnone⟩ := heard_numbered notes _
      obtain ⟨hended, hsame⟩ := hnumbered.notes [_]
      exact ⟨hended, .of_eq (hsame.trans hnone).symm⟩
  | deploying hopened hpassed horder hreached hover =>
      obtain ⟨hnumbered, hnone⟩ := hopened.numbered
      obtain ⟨hnumbered, hnone⟩ := hpassed.numbered hnumbered hnone
      have htally := hreached.tally hnumbered hnone
      exact ⟨htally.numbered, htally.awaited⟩
  | aborted hopened hpassed horder hreached hover habort hreport =>
      obtain ⟨hnumbered, hnone⟩ := hopened.numbered
      obtain ⟨hnumbered, hnone⟩ := hpassed.numbered hnumbered hnone
      have htally := hreached.tally hnumbered hnone
      obtain ⟨hended, hsame⟩ := htally.numbered.notes [_]
      exact ⟨hended, .of_eq (hsame.trans (htally.unanswered_eq_nil hover)).symm⟩
  | completed hopened hpassed horder hreport =>
      obtain ⟨hnumbered, hnone⟩ := hopened.numbered
      obtain ⟨hnumbered, hnone⟩ := hpassed.numbered hnumbered hnone
      obtain ⟨hended, hsame⟩ := hnumbered.notes [_]
      exact ⟨hended, .of_eq (hsame.trans hnone).symm⟩

end Rollout

end PolicyRollout
