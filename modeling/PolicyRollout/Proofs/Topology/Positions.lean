import Mathlib.Data.List.Basic
/-!
Lists in another order.  An order is given by the positions of the items, each position once, and
whatever is done to the items one by one is done to them in any order.
-/
namespace PolicyRollout

/-- The items at some positions, in the order of the positions. -/
def pick {α : Type} (positions : List Nat) (items : List α) : List α :=
  positions.filterMap (items[·]?)

section

variable {α β : Type} {positions : List Nat} {items : List α}

theorem pick_map (f : α → β) (positions : List Nat) (items : List α) :
    pick positions (items.map f) = (pick positions items).map f := by
  simp only [pick, List.getElem?_map, List.map_filterMap]

theorem pick_range (items : List α) : pick (List.range items.length) items = items := by
  induction items with
  | nil => rfl
  | cons a rest ih =>
      have hrest : (List.range rest.length).filterMap (fun i => (a :: rest)[i + 1]?) = rest := ih
      rw [pick, List.length_cons, List.range_succ_eq_map, List.filterMap_cons, List.filterMap_map]
      exact congrArg (a :: ·) hrest

/-- The items picked that a test keeps are picked by the positions of such items. -/
theorem filter_pick (keep : α → Bool) (positions : List Nat) (items : List α) :
    (pick positions items).filter keep =
      pick (positions.filter fun i => items[i]?.any keep) items := by
  simp only [pick, List.filter_filterMap, List.filterMap_filter]
  apply List.filterMap_congr
  intro i _
  cases items[i]? with
  | none => rfl
  | some a => simp [Option.filter]

/-- All positions, in whatever order, pick all items. -/
theorem pick_perm (hall : positions.Perm (List.range items.length)) :
    (pick positions items).Perm items := by
  have hpicked := hall.filterMap (items[·]?)
  rwa [← pick, ← pick, pick_range] at hpicked

/-- An order that leaves the items of one sort in their order is not seen among those items. -/
theorem filter_pick_of_increasing {keep : α → Bool}
    (hall : positions.Perm (List.range items.length))
    (hkept : (positions.filter fun i => items[i]?.any keep).Pairwise (· < ·)) :
    (pick positions items).filter keep = items.filter keep := by
  have hincreasing : ((List.range items.length).filter fun i => items[i]?.any keep).Pairwise
      (· < ·) := List.pairwise_lt_range.filter _
  have hsame : (positions.filter fun i => items[i]?.any keep) =
      (List.range items.length).filter fun i => items[i]?.any keep := by
    apply List.Perm.eq_of_pairwise _ hkept hincreasing (hall.filter _)
    intro i j _ _ hij hji
    omega
  rw [filter_pick, hsame, ← filter_pick, pick_range]

end

end PolicyRollout
