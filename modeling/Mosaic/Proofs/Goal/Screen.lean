import Mosaic.Goal
import Mosaic.Proofs.Goal.Patterns
import Mosaic.Proofs.Random.Draws
import Mosaic.Proofs.Run.Filling
import Mosaic.Proofs.Run.Reproducing

/-!
# Screen goals and their programs

The code of a screen goal has a line for each row, and the line of a row paints all of its cells.  So
the screen is filled from the top with the rows of the goal.
-/

namespace Mosaic
/-!
## Drawn patterns
-/

namespace Goal

def screenProgram (patterns : List Pattern) : Program :=
  ⟨.pixel, screenCode patterns,
    Program.commandsOf 0 (patterns.map fun pattern => pattern.cells.map Cell.action),
    Mode.pixel.fixedSize⟩

theorem load_screenCode {patterns : List Pattern} (hne : patterns ≠ []) :
    Program.load .pixel (screenCode patterns) = .ok (screenProgram patterns) :=
  Program.load_joinLines hne (fun pattern _ => pattern.no_feed_line)
    (fun pattern _ start => pattern.loadLine_line start)

theorem isRectangular_cells (patterns : List Pattern) :
    Grid.IsRectangular (patterns.map Pattern.cells) 16 := by
  intro row hrow
  rcases List.mem_map.mp hrow with ⟨pattern, _, rfl⟩
  exact pattern.length_cells

theorem length_flatten_cells (patterns : List Pattern) :
    (patterns.map Pattern.cells).flatten.length = 16 * patterns.length := by
  induction patterns with
  | nil => rfl
  | cons pattern rest ih =>
      rw [List.map_cons, List.flatten_cons, List.length_append, ih, pattern.length_cells,
        List.length_cons]
      omega

theorem commands_screenProgram_ne_nil {patterns : List Pattern} (hne : patterns ≠ []) :
    (screenProgram patterns).commands ≠ [] := by
  cases patterns with
  | nil => exact absurd rfl hne
  | cons pattern rest =>
      apply List.append_ne_nil_of_left_ne_nil
      apply List.ne_nil_of_length_pos
      rw [List.length_map, List.length_map, pattern.length_cells]
      decide

theorem reproduces_screenCode {patterns : List Pattern} (hlength : patterns.length = 16) :
    Run.Reproduces .pixel (screenCode patterns) (patterns.map Pattern.cells) 16 (.quarters 40) := by
  have hne : patterns ≠ [] := by
    apply List.ne_nil_of_length_pos
    omega
  have hlines : (screenProgram patterns).lineCount ≤ 16 := by
    have hfew := Program.length_lines_commandsOf 0
      (patterns.map fun pattern => pattern.cells.map Cell.action)
    rwa [List.length_map, hlength] at hfew
  have hrows : (patterns.map Pattern.cells).length = 16 := by rw [List.length_map, hlength]
  have hshown : patterns.map Pattern.cells ≠ [] := by
    apply List.ne_nil_of_length_pos
    omega
  have hblank : (screenProgram patterns).blankRun.AtRow []
      (Grid.blank (patterns.map Pattern.cells).length 16) := by
    refine ⟨rfl, fun row _ => by simp [Program.blankRun, Run.empty], ?_, rfl⟩
    rw [hrows]
    rfl
  have hcells : forall row, row ∈ patterns.map Pattern.cells -> row.length = 16 :=
    isRectangular_cells patterns
  rcases Run.carryOut_rows (fun row hrow => Nat.le_of_eq (hcells row hrow)) (Nat.le_refl _) hblank
    0 with ⟨final, hfinal, hend⟩
  rw [Grid.map_filled hcells, Nat.sub_self] at hend
  rw [List.map_map] at hfinal
  have hpainting : (screenProgram patterns).mode ≠ .maze := by simp [screenProgram]
  have hgrid := hend.grid
  rw [List.nil_append, Grid.blank_zero, List.append_nil] at hgrid
  refine Run.reproduces_of_complete (load_screenCode hne) hpainting
    (commands_screenProgram_ne_nil hne) (Int.ofNat_le.mpr hlines) hfinal hgrid ?_
  intro halted hreached
  rcases Score.ofRun_pixel hreached hshown with ⟨hscore, hbest⟩
  rw [length_flatten_cells, hlength] at hscore
  exact ⟨hscore, hbest⟩

variable {σ : Type} [RandomSource σ]

/-- The code of a drawn screen goal reproduces its grid, for the full ten points. -/
theorem drawScreen_reproduced (source : σ) :
    Run.Reproduces .pixel (drawScreen source).1.2 (drawScreen source).1.1 16 (.quarters 40) := by
  have hdrawn : Draw.Always (drawScreen : Draw σ (Grid × String)) fun drawn =>
      Run.Reproduces .pixel drawn.2 drawn.1 16 (.quarters 40) := by
    unfold drawScreen drawPatterns
    refine Draw.always_bind (Draw.always_times (Draw.always_any drawPattern) screenRows)
      fun patterns hpatterns => Draw.always_pure ?_
    exact reproduces_screenCode hpatterns.left
  exact hdrawn source

end Goal
end Mosaic
