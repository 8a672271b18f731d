import Mathlib.Data.String.Basic
import ShapeForge.Text.Order

/-!
# Sorted texts

`sortedDistinct` keeps every text once, in ascending order.
-/

namespace ShapeForge.Text

theorem mem_insertSorted {text other : String} {sorted : List String} :
    other ∈ insertSorted text sorted ↔ other = text ∨ other ∈ sorted := by
  induction sorted with
  | nil => simp [insertSorted]
  | cons first rest ih =>
    rw [insertSorted]
    split
    case isTrue same =>
      rw [beq_iff_eq] at same
      simp [same]
    split
    · simp
    · simp only [List.mem_cons, ih]
      tauto

theorem mem_sortedDistinct {other : String} {texts : List String} :
    other ∈ sortedDistinct texts ↔ other ∈ texts := by
  have onto (sorted : List String) :
      other ∈ texts.foldl (fun sorted text => insertSorted text sorted) sorted ↔
        other ∈ texts ∨ other ∈ sorted := by
    induction texts generalizing sorted with
    | nil => simp
    | cons first rest ih =>
      rw [List.foldl_cons, ih, mem_insertSorted, List.mem_cons]
      tauto
  simpa [sortedDistinct] using onto []

theorem pairwise_insertSorted {sorted : List String}
    (ascending : sorted.Pairwise (· < ·)) (text : String) :
    (insertSorted text sorted).Pairwise (· < ·) := by
  induction sorted with
  | nil => simp [insertSorted]
  | cons first rest ih =>
    rcases List.pairwise_cons.mp ascending with ⟨below, ascendingRest⟩
    rw [insertSorted]
    split
    case isTrue => exact ascending
    case isFalse other =>
      rw [beq_iff_eq] at other
      split
      case isTrue less =>
        apply List.pairwise_cons.mpr
        refine ⟨?_, ascending⟩
        intro later isLater
        rcases List.mem_cons.mp isLater with rfl | isRest
        · exact less
        · exact lt_trans less (below later isRest)
      case isFalse notLess =>
        have greater : first < text := lt_of_le_of_ne (not_lt.mp notLess) (Ne.symm other)
        apply List.pairwise_cons.mpr
        refine ⟨?_, ih ascendingRest⟩
        intro later isLater
        rcases mem_insertSorted.mp isLater with rfl | isRest
        · exact greater
        · exact below later isRest

theorem pairwise_sortedDistinct (texts : List String) :
    (sortedDistinct texts).Pairwise (· < ·) := by
  have onto (sorted : List String) (ascending : sorted.Pairwise (· < ·)) :
      (texts.foldl (fun sorted text => insertSorted text sorted) sorted).Pairwise (· < ·) := by
    induction texts generalizing sorted with
    | nil => exact ascending
    | cons first rest ih => exact ih _ (pairwise_insertSorted ascending first)
  exact onto [] List.Pairwise.nil

theorem nodup_sortedDistinct (texts : List String) : (sortedDistinct texts).Nodup :=
  (pairwise_sortedDistinct texts).imp fun less => ne_of_lt less

end ShapeForge.Text
