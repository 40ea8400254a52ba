import Mosaic.Grid.Loose
import Mosaic.Run

/-!
# Scores

TABLE and GRID score one point for every row of the target that holds a colour and is painted
exactly; MAZE scores the items collected; MATRIX scores a quarter for every lamp that is lit and
should be, less a quarter for every lamp that is lit and should not be; PIXEL scores up to ten
points, in quarters, for cells of the right colour, unlit ones included.

The grids of a run are scored by their codes, as are grids that nobody has checked.
-/

namespace Mosaic

/-- A score: whole points, or a number of quarters. -/
inductive Score
  | points (count : Int)
  | quarters (count : Nat)
  deriving DecidableEq, Repr, Inhabited

namespace Score

def inQuarters : Score -> Int
  | points count => 4 * count
  | quarters count => count

def atMost (left right : Score) : Bool := left.inQuarters ≤ right.inQuarters

def toDocument : Score -> Document
  | points count => .whole count
  | quarters count => .real (Binary64.ofQuarters count)

def fullScreen : Nat := 40

/-!
## Rows
-/

/-- Target rows with a colour that the current grid has at the same index. -/
def matchingRows (target current : Grid) : Nat :=
  (target.zip current).countP fun (wanted, shown) => !Grid.isEmptyRow wanted && shown == wanted

/-!
## Codes
-/

def lampQuarters (target current : CodeTable) : Nat :=
  match target.paired? current with
  | none => 0
  | some cells =>
      cells.countP (fun (wanted, shown) => wanted != 0 && shown != 0) -
        cells.countP (fun (wanted, shown) => wanted == 0 && shown != 0)

def matchingCells (target current : CodeTable) : Nat :=
  match target.paired? current with
  | none => 0
  | some cells => cells.countP fun (wanted, shown) => wanted == shown

def screenQuarters (right : Nat) : Nat := right * 5 / 32

/-!
## Runs
-/

/-- A measure of two grids, or nothing where one of them is missing or has no rows. -/
def ofGrids (measure : Grid -> Grid -> Nat) (target current : Option Grid) : Nat :=
  match target, current with
  | some (wanted :: rest), some (shown :: others) => measure (wanted :: rest) (shown :: others)
  | _, _ => 0

def ofRun (run : Run) : Score :=
  match run.mode with
  | .table => points (ofGrids matchingRows run.target run.grid)
  | .grid => points (ofGrids matchingRows run.target run.grid)
  | .maze => points run.mazeScore
  | .matrix =>
      quarters (ofGrids (fun target current => lampQuarters target.codes current.codes)
        run.target run.grid)
  | .pixel =>
      quarters (screenQuarters (ofGrids (fun target current =>
        matchingCells target.codes current.codes) run.target run.grid))

/-- The best score for a target grid; a screen with a row can score in full. -/
def bestForGrid (mode : Mode) (grid : Grid) : Score :=
  match mode with
  | .table => points grid.nonEmptyRows
  | .grid => points grid.nonEmptyRows
  | .matrix => quarters grid.litCells
  | _ => quarters fullScreen

def bestOfRun (run : Run) : Score :=
  match run.mode with
  | .maze => points (run.maze.elim 0 fun maze => maze.maxScore)
  | .pixel => quarters (if (run.target.getD []).isEmpty then 0 else fullScreen)
  | mode => bestForGrid mode (run.target.getD [])

/-- The best score for a goal; a goal without a grid has none. -/
def bestOfGoal (mode : Mode) (grid : Option Grid) : Score :=
  match grid with
  | none => points 0
  | some target => bestForGrid mode target

end Score

/-!
## Grids that nobody has checked
-/

namespace Loose

def bothGiven (target current : Document) : Bool := target.isGiven && current.isGiven

/-- Whether the row of a target at an index holds something and is shown there.  The current grid is
looked at only if the row holds something. -/
def matchesAt (current : Document) (index : Nat) (row : Document) : Except Fault Bool := do
  if <- isEmptyRow row then return false
  if (<- size current) ≤ index then return false
  let shown <- members (<- memberAt current index)
  let wanted <- members row
  return Document.sameItems shown wanted

def matchingRowsFrom (current : Document) (index : Nat) : List Document -> Except Fault Nat
  | [] => .ok 0
  | row :: rest => do
      let matched <- matchesAt current index row
      let others <- matchingRowsFrom current (index + 1) rest
      return (if matched then 1 else 0) + others

/-- Target rows that hold something and are shown at the same index. -/
def matchingRows (target current : Document) : Except Fault Nat := do
  if !bothGiven target current then return 0
  matchingRowsFrom current 0 (<- members target)

def bestRows (target : Document) : Except Fault Nat :=
  if target.isGiven then nonEmptyRows target else .ok 0

def ofCodes (measure : CodeTable -> CodeTable -> Nat) (target current : Document) :
    Except Fault Nat := do
  if !bothGiven target current then return 0
  let wanted <- codes target
  return measure wanted (<- codes current)

def lampQuarters (target current : Document) : Except Fault Nat :=
  ofCodes Score.lampQuarters target current

def matchingCells (target current : Document) : Except Fault Nat :=
  ofCodes Score.matchingCells target current

def score (mode : Mode) (target current : Document) : Except Fault Score :=
  match mode with
  | .matrix => do return .quarters (<- lampQuarters target current)
  | .pixel => do return .quarters (Score.screenQuarters (<- matchingCells target current))
  | _ => do return .points (<- matchingRows target current)

def best (mode : Mode) (target : Document) : Except Fault Score :=
  match mode with
  | .matrix => do return .quarters (<- litCells target)
  | .pixel => .ok (.quarters (if target.isGiven then Score.fullScreen else 0))
  | _ => do return .points (<- bestRows target)

/-- The best score for a value as a goal: null is no goal, and any other value counts as a grid. -/
def bestOfGoal (mode : Mode) (target : Document) : Except Fault Score :=
  match target, mode with
  | .null, _ => .ok (.points 0)
  | _, .maze => .ok (.quarters Score.fullScreen)
  | _, .pixel => .ok (.quarters Score.fullScreen)
  | value, _ => best mode value

end Loose
end Mosaic
