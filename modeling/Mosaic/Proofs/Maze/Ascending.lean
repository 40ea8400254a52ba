import Mosaic.Maze

/-!
# Ascending positions

A set of cells is kept as the ascending list of its members.  Putting a cell into such a list leaves
it ascending, and a list that is ascending already stays as it is when it is sorted.
-/

namespace Mosaic
namespace Position

/-- Positions in ascending order, each once. -/
def Ascending (places : List Position) : Prop :=
  places.Pairwise fun place next => place.isBefore next = true

theorem isBefore_iff {place next : Position} :
    place.isBefore next = true ↔
      place.row < next.row ∨ place.row = next.row ∧ place.column < next.column := by
  unfold isBefore
  simp only [Bool.or_eq_true, Bool.and_eq_true, decide_eq_true_eq, beq_iff_eq]

theorem mem_insert {place other : Position} {places : List Position} :
    other ∈ insert place places ↔ other = place ∨ other ∈ places := by
  induction places with
  | nil => simp [insert]
  | cons first rest ih =>
      rw [insert]
      split
      · rename_i hsame
        subst hsame
        simp
      · split
        · exact List.mem_cons
        · rw [List.mem_cons, ih, List.mem_cons]
          constructor
          · intro hgiven
            rcases hgiven with hfirst | hplace | hrest
            · exact Or.inr (Or.inl hfirst)
            · exact Or.inl hplace
            · exact Or.inr (Or.inr hrest)
          · intro hgiven
            rcases hgiven with hplace | hfirst | hrest
            · exact Or.inr (Or.inl hplace)
            · exact Or.inl hfirst
            · exact Or.inr (Or.inr hrest)

theorem insert_of_before {place : Position} {places : List Position}
    (h : forall other, other ∈ places -> place.isBefore other = true) :
    insert place places = place :: places := by
  cases places with
  | nil => rfl
  | cons other rest =>
      have hbefore := h other (by simp)
      have hne : place ≠ other := by
        intro hsame
        rw [hsame, isBefore_iff] at hbefore
        omega
      rw [insert, if_neg hne, if_pos hbefore]

theorem sorted_of_ascending {places : List Position} (h : Ascending places) :
    sorted places = places := by
  induction places with
  | nil => rfl
  | cons place rest ih =>
      rcases List.pairwise_cons.mp h with ⟨hfirst, hrest⟩
      show insert place (sorted rest) = _
      rw [ih hrest, insert_of_before hfirst]

theorem ascending_insert {place : Position} {places : List Position} (h : Ascending places) :
    Ascending (insert place places) := by
  induction places with
  | nil => exact List.pairwise_singleton _ _
  | cons other rest ih =>
      rcases List.pairwise_cons.mp h with ⟨hfirst, hrest⟩
      rw [insert]
      split
      · exact h
      · rename_i hne
        split
        · rename_i hbefore
          refine List.pairwise_cons.mpr ⟨?_, h⟩
          intro next hnext
          rcases List.mem_cons.mp hnext with rfl | hlater
          · exact hbefore
          · have hafter := hfirst next hlater
            rw [isBefore_iff] at hbefore hafter ⊢
            omega
        · rename_i hnot
          refine List.pairwise_cons.mpr ⟨?_, ih hrest⟩
          intro next hnext
          rcases mem_insert.mp hnext with rfl | hlater
          · rw [isBefore_iff] at hnot ⊢
            have hdiffer : Not (next.row = other.row ∧ next.column = other.column) := by
              intro hsame
              exact hne (by cases next; cases other; simp_all)
            omega
          · exact hfirst next hlater

theorem ascending_sorted (places : List Position) : Ascending (sorted places) := by
  induction places with
  | nil => exact List.Pairwise.nil
  | cons place rest ih => exact ascending_insert ih

theorem mem_sorted {place : Position} {places : List Position} :
    place ∈ sorted places ↔ place ∈ places := by
  induction places with
  | nil => exact Iff.rfl
  | cons other rest ih =>
      show place ∈ insert other (sorted rest) ↔ _
      rw [mem_insert, ih, List.mem_cons]

end Position

end Mosaic
