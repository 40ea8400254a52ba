import Mosaic.Proofs.Run.Drawing
import Mosaic.Proofs.Run.Objective

/-!
# Texts that reproduce a grid

A text whose commands draw a grid from the unlit one reproduces it in every way: in a replay, and in
any run that has the grid as its target, where it scores in full.
-/

namespace Mosaic

/-!
## Scores of a grid against itself
-/

namespace Score

theorem countP_zip_self {α : Type} (items : List α) (test : α × α -> Bool) :
    (items.zip items).countP test = items.countP fun item => test (item, item) := by
  induction items with
  | nil => rfl
  | cons item rest ih => rw [List.zip_cons_cons, List.countP_cons, List.countP_cons, ih]

theorem matchingCells_self (table : CodeTable) :
    matchingCells table table = table.flatten.length := by
  unfold matchingCells
  rw [CodeTable.paired?_self]
  simp [countP_zip_self]

theorem lampQuarters_self (table : CodeTable) : lampQuarters table table = table.countNonzero := by
  have hwrong : (table.flatten.countP fun code => code == 0 && code != 0) = 0 := by
    apply List.countP_eq_zero.mpr
    intro code _
    cases code with
    | zero => simp
    | succ code => simp
  unfold lampQuarters CodeTable.countNonzero
  rw [CodeTable.paired?_self]
  simp only [countP_zip_self, hwrong, Bool.and_self, Nat.sub_zero]

theorem code_ne_zero (cell : Cell) : (cell.code != 0) = cell.isSome := by
  cases cell with
  | none => rfl
  | some color =>
      have hcode : Cell.code (some color) ≠ 0 := Nat.pos_iff_ne_zero.mp color.code_pos
      simpa using hcode

theorem countNonzero_codes (grid : Grid) : grid.codes.countNonzero = grid.litCells := by
  induction grid with
  | nil => rfl
  | cons row rest ih =>
      have hrow : ((row.map Cell.code).countP fun code => code != 0) = row.countP Option.isSome := by
        rw [List.countP_map]
        congr 1
        funext cell
        exact code_ne_zero cell
      have hsum : Grid.litCells (row :: rest) = row.countP Option.isSome + Grid.litCells rest := rfl
      rw [Grid.codes, List.map_cons, CodeTable.countNonzero_cons, hrow, hsum, ← ih, Grid.codes]

theorem length_codes (grid : Grid) : grid.codes.flatten.length = grid.flatten.length := by
  unfold Grid.codes
  rw [← List.map_flatten, List.length_map]

theorem ofGrids_of_ne_nil {grid : Grid} (h : grid ≠ []) (measure : Grid -> Grid -> Nat) :
    ofGrids measure (some grid) (some grid) = measure grid grid := by
  cases grid with
  | nil => exact absurd rfl h
  | cons row rest => rfl

structure IsReached (mode : Mode) (grid : Grid) (run : Run) : Prop where
  mode : run.mode = mode
  target : run.target = some grid
  grid : run.grid = some grid

theorem ofRun_matrix {run : Run} {grid : Grid} (h : IsReached .matrix grid run) (hne : grid ≠ []) :
    ofRun run = .quarters grid.litCells ∧ bestOfRun run = .quarters grid.litCells := by
  unfold ofRun bestOfRun
  rw [h.mode, h.target, h.grid]
  simp only [ofGrids_of_ne_nil hne, lampQuarters_self, countNonzero_codes]
  exact ⟨trivial, rfl⟩

theorem ofRun_pixel {run : Run} {grid : Grid} (h : IsReached .pixel grid run) (hne : grid ≠ []) :
    ofRun run = .quarters (screenQuarters grid.flatten.length) ∧
      bestOfRun run = .quarters fullScreen := by
  unfold ofRun bestOfRun
  rw [h.mode, h.target, h.grid]
  simp only [ofGrids_of_ne_nil hne, matchingCells_self, length_codes]
  refine ⟨trivial, ?_⟩
  cases grid with
  | nil => exact absurd rfl hne
  | cons row rest => rfl

theorem matchingRows_self (grid : Grid) : matchingRows grid grid = grid.nonEmptyRows := by
  unfold matchingRows Grid.nonEmptyRows
  rw [countP_zip_self]
  simp

theorem ofRun_table {mode : Mode} (hmode : mode.declaresSize = true) {run : Run} {grid : Grid}
    (h : IsReached mode grid run) (hne : grid ≠ []) : ofRun run = bestOfRun run := by
  have hrows := ofGrids_of_ne_nil hne matchingRows
  rw [matchingRows_self] at hrows
  unfold ofRun bestOfRun
  rw [h.mode, h.target, h.grid]
  cases mode with
  | table => exact congrArg (fun count : Nat => points count) hrows
  | grid => exact congrArg (fun count : Nat => points count) hrows
  | _ => cases hmode

end Score

namespace Run

/-- A text that draws a grid in its replay, and in every run for the grid, with a number of steps,
ends without a problem, with success and with the full score. -/
structure Reproduces (mode : Mode) (source : String) (grid : Grid) (steps : Int) (score : Score) :
    Prop where
  replayed : exists program, Program.load mode source = .ok program ∧
    program.replay = .ok (some grid)
  run : forall (run : Run) (maxSteps : Int), run.mode = mode -> run.target = some grid ->
    steps ≤ maxSteps -> exists loaded halted, run.load source false = .ok loaded ∧
      loaded.error = none ∧ loaded.runToHalt maxSteps = .ok halted ∧ halted.error = none ∧
      halted.outcome = .success ∧ Score.ofRun halted = score ∧ Score.bestOfRun halted = score

/-- A text that leads every run for a grid to the grid and to success, with a number of steps. -/
def Draws (mode : Mode) (source : String) (grid : Grid) (steps : Int) : Prop :=
  forall (run : Run) (maxSteps : Int), run.mode = mode -> run.target = some grid ->
    steps ≤ maxSteps -> exists loaded halted, run.load source false = .ok loaded ∧
      loaded.error = none ∧ loaded.runToHalt maxSteps = .ok halted ∧ halted.error = none ∧
      halted.outcome = .success ∧ Score.IsReached mode grid halted

theorem draws_of_complete {program : Program} {source : String} {grid : Grid} {final : Run}
    {steps : Int} (hprogram : Program.load program.mode source = .ok program)
    (hpainting : program.mode ≠ .maze) (hcommands : program.commands ≠ [])
    (hsteps : (program.lineCount : Int) ≤ steps)
    (hcarried : carryOut 0 program.blankRun program.commands = .ok (final, .complete))
    (hgrid : final.grid = some grid) :
    program.replay = .ok (some grid) ∧ Draws program.mode source grid steps := by
  have hwell := Program.load_wellFormed hprogram
  have hblank := beside_blankRun (atStart_blankRun program) hwell hpainting
  rcases kept_of_complete hblank hwell.allowed hcarried with ⟨hkept, last, hlast, hend⟩
  have hdrawn : last.grid = some grid := (grid_of_beside hend).trans hgrid
  constructor
  · exact (replay_eq_ok_iff hpainting).mpr ⟨last, hlast, hdrawn⟩
  · intro run maxSteps hmode htarget hmax
    rw [← hmode] at hprogram
    have hload := load_of_program hprogram
    have hstart := atStart_of_load hprogram hload
    rcases carryOut_kept 0 (beside_blankRun hstart hwell hpainting) hwell.allowed hlast with
      ⟨reached, hreached, hbeside⟩
    rw [hkept] at hreached
    have hagrees := runToHalt_agrees hprogram hload hcommands (Int.le_trans hsteps hmax)
    rw [hreached] at hagrees
    rcases hagrees with ⟨halted, hhalted, hshows, _, herror, houtcome⟩
    have hsame := sameGoal_runToHalt hhalted
    have hstays := stays_carryOut hreached
    have hshown : reached.grid = some grid := (grid_of_beside hbeside).symm.trans hdrawn
    have hwanted : reached.target = some grid := hstays.target.trans htarget
    rw [hshown, hwanted, hstays.mode,
      if_pos ⟨by rw [hstart.mode]; exact hpainting, rfl, rfl⟩] at houtcome
    exact ⟨_, halted, hload, rfl, hhalted, herror, houtcome,
      ⟨hsame.mode.trans hmode, hsame.target.trans htarget, hshows.grid.trans hshown⟩⟩

/-- With the score of the grid against itself, such commands reproduce it. -/
theorem reproduces_of_complete {program : Program} {source : String} {grid : Grid} {final : Run}
    {steps : Int} {score : Score} (hprogram : Program.load program.mode source = .ok program)
    (hpainting : program.mode ≠ .maze) (hcommands : program.commands ≠ [])
    (hsteps : (program.lineCount : Int) ≤ steps)
    (hcarried : carryOut 0 program.blankRun program.commands = .ok (final, .complete))
    (hgrid : final.grid = some grid)
    (hscore : forall halted, Score.IsReached program.mode grid halted ->
      Score.ofRun halted = score ∧ Score.bestOfRun halted = score) :
    Reproduces program.mode source grid steps score := by
  rcases draws_of_complete hprogram hpainting hcommands hsteps hcarried hgrid with ⟨hreplay, hdraws⟩
  constructor
  · exact ⟨program, hprogram, hreplay⟩
  · intro run maxSteps hmode htarget hmax
    rcases hdraws run maxSteps hmode htarget hmax with
      ⟨loaded, halted, hload, haccepted, hhalted, herror, houtcome, hreached⟩
    exact ⟨loaded, halted, hload, haccepted, hhalted, herror, houtcome, hscore halted hreached⟩

end Run
end Mosaic
