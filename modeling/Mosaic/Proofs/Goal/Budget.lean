import Mosaic.Proofs.Goal.Lamps
import Mosaic.Proofs.Goal.Patterns
import Mosaic.Proofs.Goal.Rows

/-!
# What a goal gives a challenge

The grid of a drawn goal has the size of its mode, so the goal can be taken on.  Its time budget is
positive as long as there is something lit to reach: only a screen can be dark all over.
-/

namespace Mosaic
namespace Grid

theorem isLit_of_litCells_pos {grid : Grid} (h : 0 < grid.litCells) : grid.IsLit := by
  induction grid with
  | nil => cases h
  | cons row rest ih =>
      have hsum : litCells (row :: rest) = row.countP Option.isSome + litCells rest := rfl
      by_cases hrow : 0 < row.countP Option.isSome
      · rcases List.countP_pos_iff.mp hrow with ⟨cell, hcell, hsome⟩
        exact ⟨row, by simp, cell, hcell, hsome⟩
      · rcases ih (by omega) with ⟨lit, hlit, hcell⟩
        exact ⟨lit, by simp [hlit], hcell⟩

end Grid

namespace Goal

open Draw

def Fits (goal : Goal) (mode : Mode) : Prop :=
  forall grid size, goal.grid = some grid -> mode.fixedSize = some size -> grid.shape = size

/-- A goal with something lit to reach; in a maze there always is the way out. -/
def Shows (goal : Goal) : Prop := forall grid, goal.grid = some grid -> grid.IsLit

theorem shows_iff_of_grid {goal : Goal} {grid : Grid} (h : goal.grid = some grid) :
    goal.Shows ↔ grid.IsLit := by
  constructor
  · intro hshows
    exact hshows grid h
  · intro hlit other hother
    rw [h] at hother
    cases hother
    exact hlit

theorem shows_of_no_grid {goal : Goal} (h : goal.grid = none) : goal.Shows := by
  intro grid hgrid
  rw [h] at hgrid
  cases hgrid

theorem fits_of_grid {goal : Goal} {mode : Mode} {grid : Grid} {rows columns : Nat}
    (hgrid : goal.grid = some grid) (hsize : mode.fixedSize = some (rows, columns))
    (hshape : grid.shape = (rows, columns)) : goal.Fits mode := by
  intro other size hother hgiven
  rw [hgrid] at hother
  rw [hsize] at hgiven
  cases hother
  cases hgiven
  exact hshape

theorem grid_timed (goal : Goal) (secondsPerRow mazeBudget : Int) :
    (goal.timed secondsPerRow mazeBudget).grid = goal.grid := by
  unfold timed
  split
  · rfl
  · rfl

theorem budget_timed_pos_iff (goal : Goal) {secondsPerRow mazeBudget : Int}
    (hpace : 0 < secondsPerRow) (hmaze : 0 < mazeBudget) :
    0 < (goal.timed secondsPerRow mazeBudget).budget.getD 0 ↔ goal.Shows := by
  unfold timed
  cases hgrid : goal.grid with
  | none => exact iff_of_true hmaze (shows_of_no_grid hgrid)
  | some grid =>
      have hseconds : 0 < secondsPerRow * (grid.nonEmptyRows : Int) ↔ 0 < grid.nonEmptyRows := by
        constructor
        · intro hproduct
          exact Int.natCast_pos.mp (Int.pos_of_mul_pos_right hproduct hpace)
        · intro hrows
          exact Int.mul_pos hpace (Int.natCast_pos.mpr hrows)
      exact (hseconds.trans Grid.nonEmptyRows_pos_iff).trans (shows_iff_of_grid hgrid).symm

variable {σ : Type} [RandomSource σ]

theorem fits_draw (mode : Mode) :
    Always (draw mode : Draw σ (Except Fault Goal)) fun result =>
      forall goal, result = .ok goal -> goal.Fits mode := by
  have hfree : forall (mode : Mode) (grid : Grid), mode.fixedSize = none ->
      forall goal, (.ok ⟨mode, some grid, none, none, none⟩ : Except Fault Goal) = .ok goal ->
        goal.Fits mode := by
    intro mode grid hfree goal hgoal other size _ hsize
    rw [hfree] at hsize
    cases hsize
  unfold draw
  cases mode with
  | table => exact always_bind (always_any drawTable) fun grid _ => always_pure (hfree _ grid rfl)
  | grid => exact always_bind (always_any drawTable) fun grid _ => always_pure (hfree _ grid rfl)
  | matrix =>
      refine always_bind (always_drawLamps usualLitLamps usualAttempts) fun drawn hdrawn =>
        always_pure ?_
      intro goal hgoal
      rcases Attempts.map_eq_ok_iff.mp hgoal with ⟨⟨grid, code⟩, hlamps, rfl⟩
      rcases hdrawn grid code hlamps with ⟨toggles, htoggles, _, rfl, _⟩
      have hshown := isLamps_lampsAfter htoggles.index
      exact fits_of_grid rfl rfl (Grid.shape_of_isRectangular hshown.rows (by decide) hshown.columns)
  | pixel =>
      unfold drawScreen drawPatterns
      refine always_bind (P := fun screen => Grid.shape screen.1 = (16, 16)) ?_
        fun screen hscreen => always_pure ?_
      · refine always_bind (always_times (always_any drawPattern) screenRows)
          fun patterns hpatterns => always_pure ?_
        refine Grid.shape_of_isRectangular ?_ (by decide) ?_
        · rw [List.length_map, hpatterns.left]
          rfl
        · intro row hrow
          rcases List.mem_map.mp hrow with ⟨pattern, _, rfl⟩
          exact pattern.length_cells
      · intro goal hgoal
        cases hgoal
        exact fits_of_grid rfl rfl hscreen
  | maze =>
      refine always_bind (always_any Maze.generateUsual) fun maze _ => always_pure ?_
      intro goal hgoal grid size hgrid
      cases hgoal
      cases hgrid

theorem fits_drawChallenge (mode : Mode) (secondsPerRow mazeBudget : Int) :
    Always (drawChallenge mode secondsPerRow mazeBudget : Draw σ (Except Fault Goal)) fun result =>
      forall goal, result = .ok goal -> goal.Fits mode := by
  unfold drawChallenge
  split
  · rename_i htable
    refine always_bind (always_any (drawTimedTable secondsPerRow)) fun table _ => always_pure ?_
    intro goal _ grid size _ hsize
    rw [Mode.fixedSize_of_declaresSize htable] at hsize
    cases hsize
  · refine always_bind (fits_draw mode) fun result hresult => always_pure ?_
    intro goal hgoal grid size hgrid
    rcases Attempts.map_eq_ok_iff.mp hgoal with ⟨drawn, hok, rfl⟩
    rw [grid_timed] at hgrid
    exact hresult drawn hok grid size hgrid

theorem shows_draw {mode : Mode} (htable : mode.declaresSize = false) (hscreen : mode ≠ .pixel) :
    Always (draw mode : Draw σ (Except Fault Goal)) fun result =>
      forall goal, result = .ok goal -> goal.Shows := by
  unfold draw
  cases mode with
  | table => cases htable
  | grid => cases htable
  | pixel => exact absurd rfl hscreen
  | matrix =>
      refine always_bind (always_drawLamps usualLitLamps usualAttempts) fun drawn hdrawn =>
        always_pure ?_
      intro goal hgoal
      rcases Attempts.map_eq_ok_iff.mp hgoal with ⟨⟨lamps, code⟩, hlamps, rfl⟩
      rcases hdrawn lamps code hlamps with ⟨toggles, _, hlit, rfl, _⟩
      refine (shows_iff_of_grid rfl).mpr (Grid.isLit_of_litCells_pos ?_)
      unfold usualLitLamps at hlit
      omega
  | maze =>
      refine always_bind (always_any Maze.generateUsual) fun maze _ => always_pure ?_
      intro goal hgoal
      cases hgoal
      exact shows_of_no_grid rfl

/-- What a goal drawn for a challenge is like: it can be taken on, its time is positive as long as it
shows something, and it does so in all modes but one. -/
structure Challenges (goal : Goal) (mode : Mode) : Prop where
  fits : goal.Fits mode
  time : 0 < goal.budget.getD 0 ↔ goal.Shows
  shows : mode ≠ .pixel -> goal.Shows

theorem challenges_timed {goal : Goal} {mode : Mode} {secondsPerRow mazeBudget : Int}
    (hpace : 0 < secondsPerRow) (hmaze : 0 < mazeBudget) (hfits : goal.Fits mode)
    (hshows : mode ≠ .pixel -> goal.Shows) :
    (goal.timed secondsPerRow mazeBudget).Challenges mode := by
  have hgrid := goal.grid_timed secondsPerRow mazeBudget
  have hsame : (goal.timed secondsPerRow mazeBudget).Shows ↔ goal.Shows := by
    unfold Shows
    rw [hgrid]
  constructor
  · unfold Fits
    rw [hgrid]
    exact hfits
  · rw [hsame]
    exact budget_timed_pos_iff goal hpace hmaze
  · intro hmode
    exact hsame.mpr (hshows hmode)

theorem challenges_drawChallenge (mode : Mode) {secondsPerRow mazeBudget : Int}
    (hpace : 0 < secondsPerRow) (hmaze : 0 < mazeBudget) :
    Always (drawChallenge mode secondsPerRow mazeBudget : Draw σ (Except Fault Goal))
      fun result => forall goal, result = .ok goal -> goal.Challenges mode := by
  unfold drawChallenge drawTimedTable
  split
  · rename_i htable
    have hfree := Mode.fixedSize_of_declaresSize htable
    refine always_bind (P := fun table => exists grid : Grid, grid.IsLit ∧
      table = (grid, secondsPerRow * grid.nonEmptyRows)) ?_ fun table htable => always_pure ?_
    · exact always_bind drawChallengeTable_isLit fun grid hgrid => always_pure ⟨grid, hgrid, rfl⟩
    · rcases htable with ⟨grid, hgrid, rfl⟩
      intro goal hgoal
      cases hgoal
      -- the time for a table is what `timed` gives it
      refine @challenges_timed ⟨mode, some grid, none, none, none⟩ mode secondsPerRow mazeBudget hpace
        hmaze ?_ ?_
      · intro other size _ hsize
        rw [hfree] at hsize
        cases hsize
      · intro _
        exact (shows_iff_of_grid rfl).mpr hgrid
  · rename_i htable
    have hdrawn : Always (draw mode : Draw σ (Except Fault Goal)) fun result =>
        forall goal, result = .ok goal -> goal.Fits mode ∧ (mode ≠ .pixel -> goal.Shows) := by
      intro source goal hgoal
      exact ⟨fits_draw mode source goal hgoal, fun hscreen =>
        shows_draw (Bool.eq_false_iff.mpr htable) hscreen source goal hgoal⟩
    refine always_bind hdrawn fun result hresult => always_pure ?_
    intro goal hgoal
    rcases Attempts.map_eq_ok_iff.mp hgoal with ⟨drawn, hok, rfl⟩
    exact challenges_timed hpace hmaze (hresult drawn hok).left (hresult drawn hok).right

theorem drawChallenge_of_fixed {mode : Mode} (h : mode.declaresSize = false)
    (secondsPerRow mazeBudget : Int) (source : σ) :
    (drawChallenge mode secondsPerRow mazeBudget source).1 =
      (draw mode source).1.map fun goal => goal.timed secondsPerRow mazeBudget := by
  unfold drawChallenge
  rw [if_neg (by simp [h])]
  rfl

theorem draw_pixel (source : σ) :
    (draw .pixel source).1 =
      .ok ⟨.pixel, some (drawScreen source).1.1, some (drawScreen source).1.2, none, none⟩ := by
  unfold draw
  -- nothing depends on how the screen is drawn
  generalize (drawScreen : Draw σ (Grid × String)) = screen
  rfl

theorem drawChallenge_pixel (secondsPerRow mazeBudget : Int) (source : σ) :
    (drawChallenge .pixel secondsPerRow mazeBudget source).1 =
      .ok ⟨.pixel, some (drawScreen source).1.1, some (drawScreen source).1.2,
        some (secondsPerRow * (drawScreen source).1.1.nonEmptyRows), none⟩ := by
  rw [drawChallenge_of_fixed rfl, draw_pixel]
  rfl

/-!
## Dark screens
-/

namespace Pattern

/-- The one pattern that can be drawn and shows nothing. -/
def dark : Pattern := .quartet .off .off .off .off

def Shows (pattern : Pattern) : Prop := exists cell, cell ∈ pattern.cells ∧ cell.isSome = true

theorem not_shows_dark : Not dark.Shows := by
  intro hshows
  rcases hshows with ⟨cell, hcell, hsome⟩
  have hnone : forall cell, cell ∈ dark.cells -> cell.isSome = false := by decide
  rw [hnone cell hcell] at hsome
  cases hsome

end Pattern

theorem Ink.isSome_cell {ink : Ink} (h : ink ≠ .off) : ink.cell.isSome = true := by
  cases ink with
  | off => exact absurd rfl h
  | _ => decide

/-- In three kinds of patterns there is an ink that is never off, and in the fourth kind all four inks
may be. -/
theorem always_drawPattern_shows :
    Always (drawPattern : Draw σ Pattern) fun pattern => pattern = .dark ∨ pattern.Shows := by
  unfold drawPattern
  refine always_bind (always_any _) fun chance _ => ?_
  split
  · refine always_bind (always_choose _ _) fun ink hink => always_pure (Or.inr ?_)
    have hlit : ink ≠ .off := by
      rintro rfl
      revert hink
      decide
    exact ⟨ink.cell, List.mem_replicate.mpr ⟨by decide, rfl⟩, Ink.isSome_cell hlit⟩
  split
  · refine always_bind (always_choose _ _) fun first hfirst => always_bind (always_any _)
      fun second _ => always_pure (Or.inr ?_)
    have hlit : first ≠ .off := by
      rintro rfl
      revert hfirst
      decide
    exact ⟨first.cell, List.mem_flatten.mpr ⟨[first.cell, second.cell], by simp, by simp⟩,
      Ink.isSome_cell hlit⟩
  split
  · refine always_bind (always_any _) fun first _ => always_bind (always_any _) fun second _ =>
      always_bind (always_any _) fun third _ => always_bind (always_any _) fun fourth _ =>
      always_pure ?_
    have hshows : forall ink, ink ∈ [first, second, third, fourth] -> ink ≠ .off ->
        (Pattern.quartet first second third fourth).Shows := by
      intro ink hink hlit
      exact ⟨ink.cell, List.mem_flatten.mpr ⟨[first, second, third, fourth].map Ink.cell,
        by simp, List.mem_map_of_mem hink⟩, Ink.isSome_cell hlit⟩
    by_cases hlit : exists ink, ink ∈ [first, second, third, fourth] ∧ ink ≠ .off
    · rcases hlit with ⟨ink, hink, hlit⟩
      exact Or.inr (hshows ink hink hlit)
    · have hoff : forall ink, ink ∈ [first, second, third, fourth] -> ink = .off := by
        intro ink hink
        exact Decidable.byContradiction fun hother => hlit ⟨ink, hink, hother⟩
      cases hoff first (by simp)
      cases hoff second (by simp)
      cases hoff third (by simp)
      cases hoff fourth (by simp)
      exact Or.inl rfl
  · refine always_bind (always_any _) fun first _ => always_bind (always_choose _ _)
      fun second hsecond => always_pure (Or.inr ?_)
    have hlit : second ≠ .off := by
      rintro rfl
      revert hsecond
      decide
    exact ⟨second.cell, List.mem_append_right _ (List.mem_replicate.mpr ⟨by decide, rfl⟩),
      Ink.isSome_cell hlit⟩

theorem drawScreen_fst (source : σ) :
    (drawScreen source).1.1 = (drawPatterns source).1.map Pattern.cells := by
  unfold drawScreen
  -- nothing depends on how the patterns are drawn
  generalize (drawPatterns : Draw σ (List Pattern)) = patterns
  rfl

theorem isLit_drawScreen_iff (source : σ) :
    (drawScreen source).1.1.IsLit ↔
      (drawPatterns source).1 ≠ List.replicate screenRows .dark := by
  have hrows : (drawPatterns source).1.length = screenRows ∧
      forall pattern, pattern ∈ (drawPatterns source).1 -> pattern = .dark ∨ pattern.Shows :=
    always_times always_drawPattern_shows screenRows source
  rw [drawScreen_fst]
  generalize (drawPatterns source).1 = patterns at hrows
  unfold Grid.IsLit
  constructor
  · intro hlit hdark
    rcases hlit with ⟨row, hrow, cell, hcell, hsome⟩
    rcases List.mem_map.mp hrow with ⟨pattern, hpattern, rfl⟩
    rw [hdark] at hpattern
    cases List.eq_of_mem_replicate hpattern
    exact Pattern.not_shows_dark ⟨cell, hcell, hsome⟩
  · intro hother
    by_cases hshows : exists pattern, pattern ∈ patterns ∧ pattern.Shows
    · rcases hshows with ⟨pattern, hpattern, cell, hcell, hsome⟩
      exact ⟨pattern.cells, List.mem_map_of_mem hpattern, cell, hcell, hsome⟩
    · refine absurd (List.eq_replicate_iff.mpr ⟨hrows.left, fun pattern hpattern => ?_⟩) hother
      rcases hrows.right pattern hpattern with hdark | hlit
      · exact hdark
      · exact absurd ⟨pattern, hpattern, hlit⟩ hshows

end Goal
end Mosaic
