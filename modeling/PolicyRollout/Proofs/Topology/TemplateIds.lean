import PolicyRollout.Topology.Basic
/-!
The templates a deployment needs are those of its tiers, each once and in increasing
order.
-/
namespace PolicyRollout

theorem mem_insertText {text other : String} {set : List String} :
    other ∈ insertText text set ↔ other = text ∨ other ∈ set := by
  induction set with
  | nil => simp [insertText]
  | cons first rest ih =>
      unfold insertText
      by_cases hlt : text < first
      · simp [hlt]
      · by_cases heq : text = first
        · simp [heq]
        · simp only [hlt, heq, if_false, List.mem_cons, ih]
          exact or_left_comm

theorem mem_foldl_insertText {text : String} {texts set : List String} :
    text ∈ texts.foldl (fun set text => insertText text set) set ↔ text ∈ texts ∨ text ∈ set := by
  induction texts generalizing set with
  | nil => simp
  | cons first rest ih =>
      rw [List.foldl_cons, ih, mem_insertText, List.mem_cons, or_assoc]
      exact or_left_comm

theorem mem_textSet {text : String} {texts : List String} :
    text ∈ textSet texts ↔ text ∈ texts := by
  rw [textSet, mem_foldl_insertText]
  simp

theorem insertText_ordered {text : String} {set : List String}
    (hordered : set.Pairwise (· < ·)) : (insertText text set).Pairwise (· < ·) := by
  induction set with
  | nil => exact List.pairwise_singleton ..
  | cons first rest ih =>
      obtain ⟨hfirst, hrest⟩ := List.pairwise_cons.mp hordered
      unfold insertText
      by_cases hlt : text < first
      · rw [if_pos hlt]
        apply List.pairwise_cons.mpr
        refine ⟨fun other hother => ?_, hordered⟩
        rcases List.mem_cons.mp hother with rfl | hother
        · exact hlt
        · exact String.lt_trans hlt (hfirst other hother)
      · by_cases heq : text = first
        · rw [if_neg hlt, if_pos heq]
          exact hordered
        · rw [if_neg hlt, if_neg heq]
          apply List.pairwise_cons.mpr
          refine ⟨fun other hother => ?_, ih hrest⟩
          rcases mem_insertText.mp hother with rfl | hother
          · exact Std.lt_of_le_of_ne (String.not_lt.mp hlt) (Ne.symm heq)
          · exact hfirst other hother

theorem foldl_insertText_ordered {texts set : List String} (hordered : set.Pairwise (· < ·)) :
    (texts.foldl (fun set text => insertText text set) set).Pairwise (· < ·) := by
  induction texts generalizing set with
  | nil => exact hordered
  | cons first rest ih => exact ih (insertText_ordered hordered)

theorem Topology.templateIds_ordered (t : Topology) : t.templateIds.Pairwise (· < ·) :=
  foldl_insertText_ordered .nil

theorem Topology.mem_templateIds {t : Topology} {id : String} :
    id ∈ t.templateIds ↔ ∃ tier ∈ t.tiers, tier.templateId = id := by
  rw [templateIds, mem_textSet, List.mem_map]

end PolicyRollout
