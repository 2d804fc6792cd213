import PolicyRollout.Proofs.Deployment.Attempts
import PolicyRollout.Proofs.Number.Total
/-!
Every run of a tier can be brought to its end.  The first entity of the window
is never finished, so it can move, and each move of an unfinished entity brings
the whole tier one step nearer to its end.
-/
namespace PolicyRollout

/-- The number of moves an entity can still make at most. -/
def Phase.toGo : Phase → Nat
  | .admitted => 3
  | .validating _ => 2
  | .instantiating _ => 1
  | _ => 0

namespace TierRun

/-- The number of moves some slots can still make at most. -/
def slotsToGo (slots : List Slot) : Nat :=
  total (slots.map (·.phase.toGo))

/-- The number of moves a tier can still make at most. -/
def toGo (r : TierRun) : Nat :=
  slotsToGo r.window + 3 * r.waiting.length

theorem slotsToGo_append (first second : List Slot) :
    slotsToGo (first ++ second) = slotsToGo first + slotsToGo second := by
  simp [slotsToGo, total_append]

theorem Moves.toGo_lt {platform : Platform} {r : TierRun} {slot : Slot} {dest : Phase} {calls : Nat}
    {added : History} (hmoves : Moves platform r slot dest calls added) :
    dest.toGo < slot.phase.toGo := by
  cases hmoves <;> simp_all [Phase.toGo]

theorem slotsToGo_map_set_le {slots : List Slot} {index : Nat} {dest : Phase}
    (hle : ∀ slot ∈ slots, slot.index = index → dest.toGo ≤ slot.phase.toGo) :
    slotsToGo (slots.map (Slot.set index dest)) ≤ slotsToGo slots := by
  induction slots with
  | nil => exact Nat.le_refl _
  | cons slot rest ih =>
      have hrest := ih fun other hother => hle other (List.mem_cons_of_mem slot hother)
      have hslot : (slot.set index dest).phase.toGo ≤ slot.phase.toGo := by
        unfold Slot.set
        split
        case isTrue hindex => exact hle slot List.mem_cons_self hindex
        case isFalse => exact Nat.le_refl _
      simp only [slotsToGo, List.map_cons, total] at hrest ⊢
      omega

/-- A move of a slot lessens what is to go. -/
theorem slotsToGo_map_set_lt {slots : List Slot} {slot : Slot} {dest : Phase} (hslot : slot ∈ slots)
    (hunique : ∀ other ∈ slots, other.index = slot.index → other = slot)
    (hlt : dest.toGo < slot.phase.toGo) :
    slotsToGo (slots.map (Slot.set slot.index dest)) < slotsToGo slots := by
  obtain ⟨front, back, rfl⟩ := List.append_of_mem hslot
  have hle : ∀ other ∈ front ++ slot :: back, other.index = slot.index →
      dest.toGo ≤ other.phase.toGo := by
    intro other hother hindex
    rw [hunique other hother hindex]
    exact Nat.le_of_lt hlt
  have hfront : slotsToGo (front.map (Slot.set slot.index dest)) ≤ slotsToGo front :=
    slotsToGo_map_set_le fun other hother => hle other (by simp [hother])
  have hback : slotsToGo (back.map (Slot.set slot.index dest)) ≤ slotsToGo back :=
    slotsToGo_map_set_le fun other hother => hle other (by simp [hother])
  simp only [slotsToGo, List.map_append, List.map_cons, total_append, total, Slot.set_self]
    at hfront hback ⊢
  omega

theorem slotsToGo_drain_le (r : TierRun) : slotsToGo r.unfinished ≤ slotsToGo r.window := by
  rw [← r.finished_append_unfinished, slotsToGo_append]
  exact Nat.le_add_left ..

theorem slotsToGo_admitted (r : TierRun) : slotsToGo r.admitted = 3 * r.admitted.length := by
  have hall : ∀ slots : List Slot, (∀ slot ∈ slots, slot.phase = .admitted) →
      slotsToGo slots = 3 * slots.length := by
    intro slots hslots
    induction slots with
    | nil => rfl
    | cons slot rest ih =>
        have hrest := ih fun other hother => hslots other (List.mem_cons_of_mem slot hother)
        simp only [slotsToGo, List.map_cons, total, hslots slot List.mem_cons_self, Phase.toGo,
          List.length_cons] at hrest ⊢
        omega
  exact hall r.admitted fun slot hslot => (mem_admitted hslot).2

/-- Admitting leaves as much to go as before. -/
theorem refill_toGo (r : TierRun) : r.refill.toGo = r.toGo := by
  have hadmitted := slotsToGo_admitted r
  have hlength : r.admitted.length = min r.room r.waiting.length := by
    simp [admitted]
  rw [refill_eq]
  simp only [toGo, slotsToGo_append, List.length_drop, hadmitted, hlength]
  omega

/-- Reporting and admitting leave no more to go than before. -/
theorem settle_toGo_le (r : TierRun) : r.settle.toGo ≤ r.toGo := by
  have hdrain : r.drain.toGo ≤ r.toGo := by
    rw [drain_eq]
    exact Nat.add_le_add_right (slotsToGo_drain_le r) _
  rw [settle, refill_toGo]
  exact hdrain

namespace Sound

variable {platform : Platform} {options : DeploymentOptions} {tier : Tier} {before : History}
  {closed : List Slot} {log : History} {r : TierRun}

/-- An entity of the window is found by its position. -/
theorem slot?_eq (hsound : Sound platform options tier before closed log r) {slot : Slot}
    (hslot : slot ∈ r.window) : r.slot? slot.index = some slot := by
  cases hfound : r.slot? slot.index with
  | none =>
      have hnone := List.find?_eq_none.mp hfound slot hslot
      simp at hnone
  | some other =>
      have hother : other ∈ r.window := List.mem_of_find?_eq_some hfound
      have hindex : other.index = slot.index := by simpa using List.find?_some hfound
      rw [hsound.enrolled.eq_of_index_eq (List.mem_append_right _ hother)
        (List.mem_append_right _ hslot) hindex]

/-- A move of an unfinished entity brings its tier nearer to its end. -/
theorem move_toGo_lt (hsound : Sound platform options tier before closed log r)
    (platform' : Platform) {slot : Slot} (hslot : slot ∈ r.window)
    (hfinal : slot.phase.isFinal = false) : (r.move platform' slot.index).toGo < r.toGo := by
  obtain ⟨dest, calls, added, hmoves, heq⟩ := moveSlot_moves platform' r hfinal
  simp only [TierRun.move, hsound.slot?_eq hslot, heq]
  refine Nat.lt_of_le_of_lt (settle_toGo_le _) ?_
  refine Nat.add_lt_add_right (slotsToGo_map_set_lt hslot ?_ hmoves.toGo_lt) _
  intro other hother hindex
  exact hsound.enrolled.eq_of_index_eq (List.mem_append_right _ hother)
    (List.mem_append_right _ hslot) hindex

/-- The first entity of the window can move, which brings the tier nearer to its end. -/
theorem exists_move (hsound : Sound platform options tier before closed log r)
    (hsettled : r.Settled) (hover : r.isOver = false) :
    ∃ index, (r.move platform index).toGo < r.toGo := by
  cases hwindow : r.window with
  | nil => simp [isOver, hwindow] at hover
  | cons slot rest =>
      have hfinal : slot.phase.isFinal = false := hsettled.unreported slot (by simp [hwindow])
      exact ⟨slot.index, hsound.move_toGo_lt platform (by simp [hwindow]) hfinal⟩

end Sound

theorem Sound.exists_isOver {platform : Platform} {options : DeploymentOptions} {tier : Tier}
    {before : History} {closed : List Slot} {log : History} {r : TierRun}
    (hsound : Sound platform options tier before closed log r) (hsettled : r.Settled) :
    ∃ schedule, (r.run platform schedule).isOver = true := by
  induction hgo : r.toGo using Nat.strong_induction_on generalizing closed log r with
  | _ n ih =>
      cases hover : r.isOver with
      | true => exact ⟨[], hover⟩
      | false =>
          obtain ⟨index, hlt⟩ := hsound.exists_move hsettled hover
          obtain ⟨closed', log', hsound'⟩ :=
            (sound_kept platform options tier before).move index hsound
          obtain ⟨schedule, hschedule⟩ :=
            ih _ (hgo ▸ hlt) hsound' (move_settled platform index hsettled) rfl
          exact ⟨index :: schedule, hschedule⟩

/-- Whatever has happened, a run of a tier can be brought to its end. -/
theorem run_exists_isOver (platform : Platform) (options : DeploymentOptions) (tier : Tier)
    (calls : Nat) (before : History) (schedule : List Nat) :
    ∃ later, (((TierRun.start options tier calls before).run platform schedule).run
      platform later).isOver = true := by
  obtain ⟨closed, log, hsound⟩ := run_sound platform options tier calls before schedule
  exact hsound.exists_isOver (run_settled platform schedule (start_settled ..))

end TierRun

end PolicyRollout
