import PolicyRollout.Number.Basic
/-!
Sums of natural numbers do not depend on how their terms are arranged.
-/
namespace PolicyRollout

theorem total_append (first second : List Nat) :
    total (first ++ second) = total first + total second := by
  induction first with
  | nil => simp [total]
  | cons n rest ih =>
      simp only [List.cons_append, total, ih]
      omega

theorem total_perm {first second : List Nat} (hperm : first.Perm second) :
    total first = total second := by
  induction hperm with
  | nil => rfl
  | cons n _ ih => rw [total, total, ih]
  | swap m n rest =>
      simp only [total]
      omega
  | trans _ _ ih ih' => exact ih.trans ih'

theorem total_flatMap {α : Type} (l : List α) (f : α → List Nat) :
    total (l.flatMap f) = total (l.map fun a => total (f a)) := by
  induction l with
  | nil => rfl
  | cons a rest ih => rw [List.flatMap_cons, total_append, ih, List.map_cons, total]

/-- The length of lists put together is the sum of their lengths. -/
theorem length_flatMap_eq_total {α β : Type} (l : List α) (f : α → List β) :
    (l.flatMap f).length = total (l.map fun a => (f a).length) := by
  induction l with
  | nil => rfl
  | cons a rest ih => rw [List.flatMap_cons, List.length_append, ih, List.map_cons, total]

theorem total_map_add {α : Type} (l : List α) (f g : α → Nat) :
    total (l.map f) + total (l.map g) = total (l.map fun a => f a + g a) := by
  induction l with
  | nil => rfl
  | cons a rest ih =>
      simp only [List.map_cons, total, ← ih]
      omega

theorem total_eq_zero_iff {numbers : List Nat} : total numbers = 0 ↔ ∀ n ∈ numbers, n = 0 := by
  induction numbers with
  | nil => simp [total]
  | cons n rest ih =>
      rw [total, Nat.add_eq_zero_iff, ih, List.forall_mem_cons]

end PolicyRollout
