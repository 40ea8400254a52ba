import Mosaic.Fault
import Mosaic.Maze
import Mosaic.Picture.Grid

/-!
# Pictures of mazes

A picture of a maze shows a square for every cell, with the walls as lines on its sides, the items
that are left, and the turtle if it is wanted.  What it shows of a cell is said here for six places
of the square: the corner, the middle, and the four sides.  A wall is drawn on the line that two
cells share, so each of them can put it there.
-/

namespace Mosaic
namespace MazePicture

/-- What a place of a maze picture shows. -/
inductive Mark
  | background
  | wall
  | visited
  | exit
  | item (kind : ItemKind)
  | turtle
  deriving DecidableEq, Repr, Inhabited

namespace Mark

def tint : Mark -> Tint
  | background => (250, 250, 250)
  | wall => (0, 0, 0)
  | visited => (219, 234, 254)
  | exit => (187, 247, 208)
  | item .leaf => (34, 197, 94)
  | item .carrot => (249, 115, 22)
  | turtle => (220, 0, 0)

end Mark

def ground {Image : Type} (easel : Easel Image) (maze : Maze) (cellSize wallWidth : Int) :
    Except Fault Image := do
  Picture.checkCellSize cellSize
  easel.blank (maze.columns * cellSize + 2 * wallWidth) (maze.rows * cellSize + 2 * wallWidth)
    Mark.background.tint

def fill (maze : Maze) (place : Position) : Mark :=
  if maze.exit = some place then .exit
  else if maze.visited.contains place then .visited
  else .background

def lastItem? (maze : Maze) (place : Position) : Option Item :=
  maze.items.reverse.find? fun item => item.place == place && !item.collected

def center (maze : Maze) (showTurtle : Bool) (place : Position) : Mark :=
  if showTurtle && maze.turtle.place == place then .turtle
  else match lastItem? maze place with
    | some item => .item item.kind
    | none => fill maze place

def hasWall (maze : Maze) (place : Position) (side : Side) : Bool :=
  (maze.wallsAt? place).elim false (·.has side)

/-- The middle of the upper side of a square, which the cell above shares. -/
def upperSide (maze : Maze) (place : Position) : Mark :=
  if hasWall maze place .top ||
      (0 < place.row && hasWall maze ⟨place.row - 1, place.column⟩ .bottom) then .wall
  else fill maze place

/-- The middle of the left side of a square, which the cell to the left shares. -/
def leftSide (maze : Maze) (place : Position) : Mark :=
  if hasWall maze place .left ||
      (0 < place.column && hasWall maze ⟨place.row, place.column - 1⟩ .right) then .wall
  else fill maze place

def lowerSide (maze : Maze) (place : Position) : Mark :=
  upperSide maze ⟨place.row + 1, place.column⟩

def rightSide (maze : Maze) (place : Position) : Mark :=
  leftSide maze ⟨place.row, place.column + 1⟩

def table (maze : Maze) (look : Position -> Mark) : List (List Mark) :=
  (List.range maze.rows).map fun row => (List.range maze.columns).map fun column => look ⟨row, column⟩

def usualWallWidth : Int := 2

end MazePicture
end Mosaic
