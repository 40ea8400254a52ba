import Mosaic.Proofs.Goal.Rows

/-!
# Table goals can be drawn

The goals of TABLE and GRID are pictures of a size that can be declared: strips are painted on an
unlit table, in primary colours only, and no strip changes the size of what it is painted on.  So
some text draws each of them.
-/

namespace Mosaic

namespace Goal

open Draw

/-!
## Drawn tables
-/

variable {σ : Type} [RandomSource σ]

theorem declarable_of_between {rows columns : Nat} (hrows : 3 ≤ rows ∧ rows ≤ 14)
    (hcolumns : 3 ≤ columns ∧ columns ≤ 14) : Program.Declarable rows columns := by
  constructor
  · exact Nat.le_trans (by decide) hrows.left
  · exact Nat.le_trans (by decide) hcolumns.left
  · exact Nat.le_trans hrows.right (by decide)
  · exact Nat.le_trans hcolumns.right (by decide)

theorem drawTable_isPaintable : Always (drawTable : Draw σ Grid) Grid.IsPaintable := by
  refine always_drawTable.imp fun grid hgrid => ?_
  rcases hgrid with ⟨rows, columns, hrows, hcolumns, hpicture, _⟩
  exact ⟨rows, columns, declarable_of_between (by omega) (by omega), hpicture⟩

theorem drawChallengeTable_isPaintable :
    Always (drawChallengeTable : Draw σ Grid) Grid.IsPaintable := by
  refine always_drawChallengeTable.imp fun grid hgrid => ?_
  rcases hgrid with ⟨rows, columns, hrows, hcolumns, hpicture, _⟩
  have hheight : 3 ≤ rows := Nat.le_trans (by decide) hrows.left
  exact ⟨rows, columns, declarable_of_between ⟨hheight, hrows.right⟩ (by omega), hpicture⟩

/-!
## Goals
-/

theorem draw_isPaintable {mode : Mode} (hmode : mode.declaresSize = true) :
    Always (draw mode : Draw σ (Except Fault Goal)) fun result => exists grid,
      result = .ok ⟨mode, some grid, none, none, none⟩ ∧ grid.IsPaintable := by
  unfold draw
  cases mode with
  | table =>
      exact always_bind drawTable_isPaintable fun grid hgrid => always_pure ⟨grid, rfl, hgrid⟩
  | grid =>
      exact always_bind drawTable_isPaintable fun grid hgrid => always_pure ⟨grid, rfl, hgrid⟩
  | _ => cases hmode

theorem drawChallenge_isPaintable {mode : Mode} (hmode : mode.declaresSize = true)
    (secondsPerRow mazeBudget : Int) :
    Always (drawChallenge mode secondsPerRow mazeBudget : Draw σ (Except Fault Goal))
      fun result => exists grid seconds,
        result = .ok ⟨mode, some grid, none, some seconds, none⟩ ∧ grid.IsPaintable := by
  unfold drawChallenge drawTimedTable
  rw [if_pos hmode]
  refine always_bind (P := fun table => table.1.IsPaintable) ?_ fun table htable =>
    always_pure ⟨table.1, table.2, rfl, htable⟩
  exact always_bind drawChallengeTable_isPaintable fun grid hgrid => always_pure hgrid

/-- In TABLE and GRID some text draws every picture in the primary colours that is not larger than a
table can be, and the goals that are drawn, in free play or for a challenge, are such pictures. -/
theorem tables_canBeDrawn {mode : Mode} (hmode : mode.declaresSize = true) :
    (forall grid : Grid, grid.IsPaintable -> Run.CanBeDrawn mode grid) ∧
    (forall (σ : Type) [RandomSource σ], Always (draw mode : Draw σ (Except Fault Goal))
      fun result => exists grid, result = .ok ⟨mode, some grid, none, none, none⟩ ∧
        Run.CanBeDrawn mode grid) ∧
    (forall (σ : Type) [RandomSource σ] (secondsPerRow mazeBudget : Int),
      Always (drawChallenge mode secondsPerRow mazeBudget : Draw σ (Except Fault Goal))
        fun result => exists grid seconds,
          result = .ok ⟨mode, some grid, none, some seconds, none⟩ ∧
            Run.CanBeDrawn mode grid) := by
  have hall := fun grid => @Run.canBeDrawn_of_isPaintable mode hmode grid
  refine ⟨hall, ?_, ?_⟩
  · intro σ _
    refine (draw_isPaintable hmode).imp fun result hresult => ?_
    rcases hresult with ⟨grid, hgoal, hgrid⟩
    exact ⟨grid, hgoal, hall grid hgrid⟩
  · intro σ _ secondsPerRow mazeBudget
    refine (drawChallenge_isPaintable hmode secondsPerRow mazeBudget).imp fun result hresult => ?_
    rcases hresult with ⟨grid, seconds, hgoal, hgrid⟩
    exact ⟨grid, seconds, hgoal, hall grid hgrid⟩

/-- Two dots in the corners of a table. -/
theorem tables_canBeDrawn_corners :
    Mode.grid.declaresSize = true ∧ Run.CanBeDrawn .grid [[some .red, none], [none, some .blue]] := by
  have hdots : Grid.dots [[some .red, none], [none, some .blue]] =
      [⟨0, 0, .red⟩, ⟨1, 1, .blue⟩] := rfl
  have hprimary : Grid.IsPrimary [[some .red, none], [none, some .blue]] := by
    intro row column color hcell
    have hdot := (@Grid.mem_dots _ ⟨row, column, color⟩).mpr hcell
    rw [hdots, List.mem_cons, List.mem_singleton] at hdot
    rcases hdot with hdot | hdot
    · cases hdot
      exact Or.inl rfl
    · cases hdot
      exact Or.inr (Or.inr rfl)
  have hpicture : Grid.IsPicture [[some .red, none], [none, some .blue]] 2 2 :=
    ⟨rfl, by simp [Grid.IsRectangular], hprimary⟩
  have hsize : Program.Declarable 2 2 := ⟨by decide, by decide, by decide, by decide⟩
  exact ⟨rfl, (tables_canBeDrawn rfl).left _ ⟨2, 2, hsize, hpicture⟩⟩

end Goal
end Mosaic
