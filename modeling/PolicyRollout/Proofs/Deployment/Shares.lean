import Mathlib.Data.List.Basic
import PolicyRollout.Proofs.Deployment.Attempts
/-!
How the history of a tier falls to its entities.  All that is not an event is
about one admitted entity, so what is read off the occurrences one by one can be
read off the trails of the slots, up to order; while only one entity at a time
is under way the order is that of the slots as well.
-/
namespace PolicyRollout

namespace History

/-- What happened on behalf of the entities at positions below a bound. -/
def below (bound : Nat) (h : History) : History :=
  h.filter fun o => o.entity?.any fun index => decide (index < bound)

theorem below_zero (h : History) : below 0 h = [] := by
  apply List.filter_eq_nil_iff.mpr
  intro o _
  cases o.entity? <;> simp

theorem below_cons_of_none {o : Occurrence} (hnone : o.entity? = none) (bound : Nat)
    (h : History) : below bound (o :: h) = below bound h := by
  simp [below, hnone]

theorem below_cons_of_some {o : Occurrence} {index : Nat} (hsome : o.entity? = some index)
    (bound : Nat) (h : History) :
    below bound (o :: h) = if index < bound then o :: below bound h else below bound h := by
  simp [below, List.filter_cons, hsome]

theorem about_cons_of_some {o : Occurrence} {index : Nat} (hsome : o.entity? = some index)
    (other : Nat) (h : History) :
    about other (o :: h) = if index = other then o :: about other h else about other h := by
  simp [about, List.filter_cons, hsome]

theorem about_cons_of_none {o : Occurrence} (hnone : o.entity? = none) (index : Nat)
    (h : History) : about index (o :: h) = about index h := by
  simp [about, hnone]

/-- The share of one more entity is added. -/
theorem below_succ_perm (bound : Nat) (h : History) :
    (below bound h ++ about bound h).Perm (below (bound + 1) h) := by
  induction h with
  | nil => exact .nil
  | cons o rest ih =>
      cases hentity : o.entity? with
      | none =>
          rw [below_cons_of_none hentity, below_cons_of_none hentity, about_cons_of_none hentity]
          exact ih
      | some index =>
          rw [below_cons_of_some hentity, below_cons_of_some hentity, about_cons_of_some hentity]
          rcases Nat.lt_trichotomy index bound with hlt | rfl | hgt
          · rw [if_pos hlt, if_neg (Nat.ne_of_lt hlt), if_pos (Nat.lt_succ_of_lt hlt)]
            exact ih.cons o
          · rw [if_neg (Nat.lt_irrefl _), if_pos rfl, if_pos (Nat.lt_succ_self _)]
            exact List.perm_middle.trans (ih.cons o)
          · rw [if_neg (by omega), if_neg (by omega), if_neg (by omega)]
            exact ih

theorem shares_perm (bound : Nat) (h : History) :
    ((List.range bound).flatMap fun index => about index h).Perm (below bound h) := by
  induction bound with
  | zero =>
      rw [below_zero]
      exact .nil
  | succ bound ih =>
      rw [List.range_succ, List.flatMap_append, List.flatMap_singleton]
      exact (ih.append_right _).trans (below_succ_perm bound h)

/-- Entities that never overlap have their shares one after another, the last one first. -/
theorem below_succ_of_ordered {h : History}
    (hordered : h.Pairwise fun later earlier => ∀ i j, later.entity? = some i →
      earlier.entity? = some j → j < i + 1) (bound : Nat) :
    below (bound + 1) h = about bound h ++ below bound h := by
  induction h with
  | nil => rfl
  | cons o rest ih =>
      obtain ⟨hfirst, hrest⟩ := List.pairwise_cons.mp hordered
      cases hentity : o.entity? with
      | none =>
          rw [below_cons_of_none hentity, below_cons_of_none hentity, about_cons_of_none hentity]
          exact ih hrest
      | some index =>
          rw [below_cons_of_some hentity, below_cons_of_some hentity, about_cons_of_some hentity,
            ih hrest]
          rcases Nat.lt_trichotomy index bound with hlt | rfl | hgt
          · -- All that came before is about entities up to this one.
            have hnone : about bound rest = [] := by
              apply List.eq_nil_iff_forall_not_mem.mpr
              intro earlier hearlier
              obtain ⟨hmem, habout⟩ := mem_about_iff.mp hearlier
              have hlater := hfirst earlier hmem index bound hentity habout
              omega
            rw [if_pos hlt, if_neg (Nat.ne_of_lt hlt), if_pos (Nat.lt_succ_of_lt hlt), hnone]
            rfl
          · rw [if_neg (Nat.lt_irrefl _), if_pos rfl, if_pos (Nat.lt_succ_self _)]
            rfl
          · rw [if_neg (by omega), if_neg (by omega), if_neg (by omega)]

theorem shares_eq {h : History}
    (hordered : h.Pairwise fun later earlier => ∀ i j, later.entity? = some i →
      earlier.entity? = some j → j < i + 1) (bound : Nat) :
    ((List.range bound).reverse.flatMap fun index => about index h) = below bound h := by
  induction bound with
  | zero => rw [below_zero]; rfl
  | succ bound ih =>
      rw [List.range_succ, List.reverse_append, List.flatMap_append, ih,
        below_succ_of_ordered hordered]
      simp

end History

theorem Enrolled.map_index {tier : Tier} {slots : List Slot} {waiting : List (Nat × Entity)}
    (henrolled : Enrolled tier slots waiting) : slots.map Slot.index = List.range slots.length := by
  apply List.ext_getElem?
  intro k
  rw [List.getElem?_map]
  cases hslot : slots[k]? with
  | none =>
      have hle := List.getElem?_eq_none_iff.mp hslot
      rw [Option.map_none, eq_comm, List.getElem?_eq_none_iff, List.length_range]
      exact hle
  | some slot =>
      have hlt : k < slots.length := (List.getElem?_eq_some_iff.mp hslot).1
      rw [Option.map_some, (henrolled.seats_getElem? hslot).1, List.getElem?_range hlt]

namespace Recorded

variable {platform : Platform} {ctx : TierContext} {options : DeploymentOptions} {calls : Nat}
  {tier : Tier} {slots : List Slot} {waiting : List (Nat × Entity)} {log : History}
  {β : Type} {f : Occurrence → Option β}

/-- What is not read off events is read off the shares of the slots. -/
theorem filterMap_below (hrecorded : Recorded platform ctx options calls slots log)
    (henrolled : Enrolled tier slots waiting) (hnoted : ∀ event, f (.noted event) = none) :
    (History.below slots.length log).filterMap f = log.filterMap f := by
  have hnone : ∀ o ∈ log, f o = if o.entity?.any (fun index => decide (index < slots.length))
      then f o else none := by
    intro o ho
    rcases hrecorded.known o ho with ⟨event, rfl⟩ | ⟨slot, hslot, hentity⟩
    · simp [hnoted]
    · simp [hentity, henrolled.index_lt hslot]
  rw [History.below, List.filterMap_filter]
  exact (List.filterMap_congr hnone).symm

theorem filterMap_perm (hrecorded : Recorded platform ctx options calls slots log)
    (henrolled : Enrolled tier slots waiting) (hnoted : ∀ event, f (.noted event) = none) :
    (log.filterMap f).Perm
      (slots.flatMap fun slot => (History.about slot.index log).filterMap f) := by
  have hshares := (History.shares_perm slots.length log).filterMap f
  rw [hrecorded.filterMap_below henrolled hnoted, ← henrolled.map_index, List.flatMap_map,
    List.filterMap_flatMap] at hshares
  exact hshares.symm

/-- With one entity at a time, the history has the shares of the slots in their order. -/
theorem filterMap_eq (hrecorded : Recorded platform ctx options calls slots log)
    (henrolled : Enrolled tier slots waiting) (hnoted : ∀ event, f (.noted event) = none)
    (hwindow : options.window = 1) :
    log.filterMap f =
      slots.reverse.flatMap fun slot => (History.about slot.index log).filterMap f := by
  have hspaced := hrecorded.spaced
  rw [hwindow] at hspaced
  have hshares := congrArg (List.filterMap f) (History.shares_eq hspaced slots.length)
  rw [hrecorded.filterMap_below henrolled hnoted, ← henrolled.map_index, ← List.map_reverse,
    List.flatMap_map, List.filterMap_flatMap] at hshares
  exact hshares.symm

end Recorded

end PolicyRollout
