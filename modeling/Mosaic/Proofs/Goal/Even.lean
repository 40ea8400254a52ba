import Mosaic.Proofs.Goal.Budget
import Mosaic.Proofs.Run.Even

/-!
# Goals have rows of one width

Whatever is drawn as a goal, its grid has rows of one width.
-/

namespace Mosaic

/-!
## Drawn grids
-/

namespace Goal

open Draw

theorem keptByStrips_isEven : KeptByStrips Grid.IsEven := by
  intro grid row column count color _ h
  refine Grid.isEven_of_outline (Grid.outline_modify ?_ grid row) h
  exact Grid.length_paintRow column count (some color)

variable {σ : Type} [RandomSource σ]

theorem drawTable_isEven : Always (drawTable : Draw σ Grid) Grid.IsEven := by
  unfold drawTable
  exact always_bind (always_any _) fun rows _ => always_bind (always_any _) fun columns _ =>
    always_bind (always_any _) fun strips _ =>
      always_withStrips keptByStrips_isEven rows columns strips (Grid.isEven_blank rows columns)

theorem drawChallengeTable_isEven : Always (drawChallengeTable : Draw σ Grid) Grid.IsEven := by
  unfold drawChallengeTable
  refine always_bind (always_any _) fun rows _ => always_bind (always_any _) fun columns _ =>
    always_bind (always_any _) fun chosen _ => always_bind ?_ fun filled hfilled =>
      always_bind (always_any _) fun extra _ =>
        always_withStrips keptByStrips_isEven rows columns extra hfilled
  exact always_withFilledRows keptByStrips_isEven columns chosen (Grid.isEven_blank rows columns)

theorem even_draw (mode : Mode) :
    Always (draw mode : Draw σ (Except Fault Goal)) fun result =>
      forall goal, result = .ok goal -> EvenIfAny goal.grid := by
  have htable : forall (mode : Mode) (grid : Grid), grid.IsEven ->
      forall goal, (.ok ⟨mode, some grid, none, none, none⟩ : Except Fault Goal) = .ok goal ->
        EvenIfAny goal.grid := by
    intro mode grid hgrid goal hgoal
    cases hgoal
    exact evenIfAny_some hgrid
  unfold draw
  cases mode with
  | table => exact always_bind drawTable_isEven fun grid hgrid => always_pure (htable _ grid hgrid)
  | grid => exact always_bind drawTable_isEven fun grid hgrid => always_pure (htable _ grid hgrid)
  | matrix =>
      refine always_bind (always_drawLamps usualLitLamps usualAttempts) fun drawn hdrawn =>
        always_pure ?_
      intro goal hgoal
      rcases Attempts.map_eq_ok_iff.mp hgoal with ⟨⟨grid, code⟩, hlamps, rfl⟩
      rcases hdrawn grid code hlamps with ⟨toggles, htoggles, _, rfl, _⟩
      exact evenIfAny_some ⟨8, (isLamps_lampsAfter htoggles.index).columns⟩
  | pixel =>
      refine always_bind (P := fun screen => screen.1.IsEven) ?_ fun screen hscreen =>
        always_pure ?_
      · intro source
        rw [drawScreen_fst]
        refine ⟨16, fun row hrow => ?_⟩
        rcases List.mem_map.mp hrow with ⟨pattern, _, rfl⟩
        exact pattern.length_cells
      · intro goal hgoal
        cases hgoal
        exact evenIfAny_some hscreen
  | maze =>
      refine always_bind (always_any Maze.generateUsual) fun maze _ => always_pure ?_
      intro goal hgoal
      cases hgoal
      exact evenIfAny_none

theorem even_drawChallenge (mode : Mode) (secondsPerRow mazeBudget : Int) :
    Always (drawChallenge mode secondsPerRow mazeBudget : Draw σ (Except Fault Goal))
      fun result => forall goal, result = .ok goal -> EvenIfAny goal.grid := by
  unfold drawChallenge
  split
  · unfold drawTimedTable
    refine always_bind (P := fun table => table.1.IsEven) ?_ fun table htable => always_pure ?_
    · exact always_bind drawChallengeTable_isEven fun grid hgrid => always_pure hgrid
    · intro goal hgoal
      cases hgoal
      exact evenIfAny_some htable
  · refine always_bind (even_draw mode) fun result hresult => always_pure ?_
    intro goal hgoal
    rcases Attempts.map_eq_ok_iff.mp hgoal with ⟨drawn, hok, rfl⟩
    rw [grid_timed]
    exact hresult drawn hok

end Goal
end Mosaic
