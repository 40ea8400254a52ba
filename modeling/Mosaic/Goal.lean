import Mosaic.Goal.Lamps
import Mosaic.Goal.Screen
import Mosaic.Goal.Strips
import Mosaic.Maze.Carving

/-!
# Goals

A goal is what a program of a mode should reach: a grid to paint or a maze to walk through.  Where a
program is known that reaches it, the goal holds that program.  The goal of a challenge also has a
time budget in seconds.
-/

namespace Mosaic

structure Goal where
  mode : Mode
  grid : Option Grid
  code : Option String
  budget : Option Int
  maze : Option Maze
  deriving Repr, Inhabited

namespace Goal

variable {σ : Type} [RandomSource σ]

def drawLamps (litCells attempts : Int) : Draw σ (Except Fault (Grid × String)) := do
  match <- searchToggles litCells attempts.toNat with
  | some toggles => return .ok (lampsAfter toggles, lampCode toggles)
  | none => return .error (.goal (.noMatrixTarget litCells attempts))

def drawScreen : Draw σ (Grid × String) := do
  let patterns <- drawPatterns
  return (patterns.map Pattern.cells, screenCode patterns)

def drawTimedTable (secondsPerRow : Int) : Draw σ (Grid × Int) := do
  let grid <- drawChallengeTable
  return (grid, secondsPerRow * grid.nonEmptyRows)

def draw (mode : Mode) : Draw σ (Except Fault Goal) :=
  match mode with
  | .table => do return .ok ⟨mode, some (<- drawTable), none, none, none⟩
  | .grid => do return .ok ⟨mode, some (<- drawTable), none, none, none⟩
  | .matrix => do
      let lamps <- drawLamps usualLitLamps usualAttempts
      return lamps.map fun (grid, code) => ⟨mode, some grid, some code, none, none⟩
  | .pixel => do
      let (grid, code) <- drawScreen
      return .ok ⟨mode, some grid, some code, none, none⟩
  | .maze => do return .ok ⟨mode, none, none, none, some (<- Maze.generateUsual)⟩

/-- The goal with the time budget of a challenge: so many seconds for every row that shows something,
or the budget for mazes. -/
def timed (goal : Goal) (secondsPerRow mazeBudget : Int) : Goal :=
  match goal.grid with
  | some grid => { goal with budget := some (secondsPerRow * grid.nonEmptyRows) }
  | none => { goal with budget := some mazeBudget }

def drawChallenge (mode : Mode) (secondsPerRow mazeBudget : Int) : Draw σ (Except Fault Goal) :=
  if mode.declaresSize then do
    let (grid, seconds) <- drawTimedTable secondsPerRow
    return .ok ⟨mode, some grid, none, some seconds, none⟩
  else do return (<- draw mode).map fun goal => goal.timed secondsPerRow mazeBudget

end Goal
end Mosaic
