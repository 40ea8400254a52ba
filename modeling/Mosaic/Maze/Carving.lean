import Mosaic.Fault
import Mosaic.Maze
import Mosaic.Random.Source

/-!
# Carving mazes

A maze is carved out of closed cells by a walk that starts in the middle: it goes on to an unseen
neighbour as long as there is one, opening the wall between, and else one cell back.  So any two
cells are joined by exactly one way.  Then one outer wall is opened in the middle of a side, and four
leaves and two carrots are put on cells other than the start and the exit.
-/

namespace Mosaic
namespace Maze

/-- Cells that are being carved, and which of them the walk has seen. -/
structure Board where
  rows : Nat
  columns : Nat
  walls : Array (Array Walls)
  seen : Array (Array Bool)
  deriving Repr

namespace Board

def closed (rows columns : Nat) : Board where
  rows := rows
  columns := columns
  walls := Array.replicate rows (Array.replicate columns Walls.closed)
  seen := Array.replicate rows (Array.replicate columns false)

def hasSeen (board : Board) (place : Position) : Bool :=
  ((board.seen[place.row]? >>= (·[place.column]?)).getD false)

def withSeen (board : Board) (place : Position) : Board :=
  { board with
    seen := board.seen.modify place.row fun line => line.setIfInBounds place.column true }

def withOpen (board : Board) (place : Position) (side : Side) : Board :=
  { board with
    walls := board.walls.modify place.row fun line =>
      line.modify place.column fun walls => walls.opened side }

def sides : List Side := [.top, .bottom, .left, .right]

def rowsOfWalls (board : Board) : List (List Walls) := board.walls.toList.map Array.toList

/-- The neighbours that the walk has not seen, with the side on which each lies. -/
def unseen (board : Board) (place : Position) : List (Position × Side) :=
  sides.filterMap fun side =>
    match place.beyond? board.rows board.columns side with
    | some next => if board.hasSeen next then none else some (next, side)
    | none => none

def joined (board : Board) (place : Position) (next : Position) (side : Side) : Board :=
  ((board.withOpen place side).withOpen next side.opposite).withSeen next

end Board

variable {σ : Type} [RandomSource σ]

/-- The walk from the end of a trail, for so many moves. -/
def carve : Nat -> Board -> List Position -> Draw σ Board
  | 0, board, _ => pure board
  | _ + 1, board, [] => pure board
  | moves + 1, board, place :: trail =>
      match board.unseen place with
      | [] => carve moves board trail
      | first :: others => do
          let (next, side) <- Draw.choose first others
          carve moves (board.joined place next side) (next :: place :: trail)

/-- The most moves that a walk makes: it enters and leaves every cell once. -/
def walkLength (rows columns : Nat) : Nat := 2 * rows * columns

def topExit (columns : Nat) : Position × Side := (⟨0, columns / 2⟩, .top)

def otherExits (rows columns : Nat) : List (Position × Side) := [
  (⟨rows - 1, columns / 2⟩, .bottom), (⟨rows / 2, 0⟩, .left), (⟨rows / 2, columns - 1⟩, .right)]

def positions (rows columns : Nat) : List Position :=
  (List.range rows).flatMap fun row => (List.range columns).map fun column => ⟨row, column⟩

def leafCount : Nat := 4

def carrotCount : Nat := 2

/-- The items on the cells of a row that ends with those to use first. -/
def itemsOn (places : List Position) : List Item :=
  let drawn := places.reverse
  ((drawn.take leafCount).map fun place => ⟨place, .leaf, false⟩) ++
    (((drawn.drop leafCount).take carrotCount).map fun place => ⟨place, .carrot, false⟩)

def generateWithin (rows columns : Nat) : Draw σ Maze := do
  let start : Position := ⟨rows / 2, columns / 2⟩
  let board <- carve (walkLength rows columns) ((Board.closed rows columns).withSeen start) [start]
  let (exit, side) <- Draw.choose (topExit columns) (otherExits rows columns)
  let places <- Draw.shuffled ((positions rows columns).filter fun place =>
    place != start && place != exit)
  return {
    rows, columns
    walls := (board.withOpen exit side).rowsOfWalls
    items := itemsOn places
    exit := some exit
    visited := [start]
    turtle := ⟨start, .east⟩ }

def generate (rows columns : Int) : Draw σ (Except Fault Maze) :=
  if rows < 2 || columns < 2 then pure (.error (.maze .tooFlat))
  else if rows * columns - 2 < (leafCount + carrotCount : Nat) then pure (.error (.maze .tooSmall))
  else do return .ok (<- generateWithin rows.toNat columns.toNat)

def usualSize : Nat := 16

def generateUsual : Draw σ Maze := generateWithin usualSize usualSize

end Maze
end Mosaic
