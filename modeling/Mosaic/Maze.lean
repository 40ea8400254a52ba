/-!
# Mazes

A maze is a rectangle of cells with walls on their four sides, items to collect, a turtle, and the
set of cells that the turtle has been on.  The walls of a cell are its own: nothing here requires
that neighbours agree on the wall between them.

The visited cells are kept in ascending order without repetition, so equal sets are equal lists.
-/

namespace Mosaic

structure Position where
  row : Nat
  column : Nat
  deriving DecidableEq, Repr, Inhabited

namespace Position

def isBefore (left right : Position) : Bool :=
  left.row < right.row || (left.row == right.row && left.column < right.column)

def insert (place : Position) : List Position -> List Position
  | [] => [place]
  | other :: rest =>
      if place = other then other :: rest
      else if place.isBefore other then place :: other :: rest
      else other :: insert place rest

def sorted (places : List Position) : List Position := places.foldr insert []

end Position

inductive Side
  | top
  | right
  | bottom
  | left
  deriving DecidableEq, Repr, Inhabited

namespace Side

def name : Side -> String
  | top => "top"
  | right => "right"
  | bottom => "bottom"
  | left => "left"

def opposite : Side -> Side
  | top => bottom
  | right => left
  | bottom => top
  | left => right

end Side

def Position.beyond? (rows columns : Nat) (place : Position) (side : Side) : Option Position :=
  match side with
  | .top => if place.row = 0 then none else some ⟨place.row - 1, place.column⟩
  | .right => if place.column + 1 < columns then some ⟨place.row, place.column + 1⟩ else none
  | .bottom => if place.row + 1 < rows then some ⟨place.row + 1, place.column⟩ else none
  | .left => if place.column = 0 then none else some ⟨place.row, place.column - 1⟩

/-- Which sides of a cell have a wall. -/
structure Walls where
  top : Bool
  right : Bool
  bottom : Bool
  left : Bool
  deriving DecidableEq, Repr, Inhabited

namespace Walls

def closed : Walls := ⟨true, true, true, true⟩

def has (walls : Walls) : Side -> Bool
  | .top => walls.top
  | .right => walls.right
  | .bottom => walls.bottom
  | .left => walls.left

def opened (walls : Walls) : Side -> Walls
  | .top => { walls with top := false }
  | .right => { walls with right := false }
  | .bottom => { walls with bottom := false }
  | .left => { walls with left := false }

theorem has_opened (walls : Walls) (side other : Side) :
    (walls.opened side).has other = if other = side then false else walls.has other := by
  cases side <;> cases other <;> rfl

end Walls

inductive Heading
  | east
  | north
  | west
  | south
  deriving DecidableEq, Repr, Inhabited

namespace Heading

/-- The heading in degrees, counter-clockwise from east. -/
def degrees : Heading -> Nat
  | east => 0
  | north => 90
  | west => 180
  | south => 270

def ofDegrees? : Int -> Option Heading
  | 0 => some east
  | 90 => some north
  | 180 => some west
  | 270 => some south
  | _ => none

def side : Heading -> Side
  | east => .right
  | north => .top
  | west => .left
  | south => .bottom

def turnedLeft : Heading -> Heading
  | east => north
  | north => west
  | west => south
  | south => east

def turned (heading : Heading) (quarters : Nat) : Heading := Nat.repeat turnedLeft quarters heading

theorem ofDegrees?_degrees (heading : Heading) : ofDegrees? heading.degrees = some heading := by
  cases heading <;> rfl

end Heading

inductive ItemKind
  | leaf
  | carrot
  deriving DecidableEq, Repr, Inhabited

namespace ItemKind

def value : ItemKind -> Nat
  | leaf => 1
  | carrot => 2

def name : ItemKind -> String
  | leaf => "leaf"
  | carrot => "carrot"

def ofName? : String -> Option ItemKind
  | "leaf" => some leaf
  | "carrot" => some carrot
  | _ => none

end ItemKind

structure Item where
  place : Position
  kind : ItemKind
  collected : Bool
  deriving DecidableEq, Repr, Inhabited

structure Turtle where
  place : Position
  heading : Heading
  deriving DecidableEq, Repr, Inhabited

structure Maze where
  rows : Nat
  columns : Nat
  walls : List (List Walls)
  items : List Item
  exit : Option Position
  visited : List Position
  turtle : Turtle
  deriving DecidableEq, Repr, Inhabited

namespace Maze

def startCell (maze : Maze) : Position := ⟨maze.rows / 2, maze.columns / 2⟩

def holds (maze : Maze) (place : Position) : Bool :=
  place.row < maze.rows && place.column < maze.columns

def wallsAt? (maze : Maze) (place : Position) : Option Walls :=
  maze.walls[place.row]? >>= (·[place.column]?)

def beyond? (maze : Maze) (place : Position) (side : Side) : Option Position :=
  place.beyond? maze.rows maze.columns side

def itemAt? (maze : Maze) (place : Position) : Option Item :=
  maze.items.find? fun item => item.place == place && !item.collected

def collectedValue (maze : Maze) : Nat :=
  ((maze.items.filter Item.collected).map fun item => item.kind.value).foldr (· + ·) 0

def maxScore (maze : Maze) : Nat := (maze.items.map fun item => item.kind.value).foldr (· + ·) 0

/-- The maze as it is before a run: nothing collected, and the turtle on the start cell. -/
def fresh (maze : Maze) : Maze :=
  { maze with
    items := maze.items.map fun item => { item with collected := false }
    visited := [maze.startCell]
    turtle := ⟨maze.startCell, .east⟩ }

def cells (maze : Maze) : List (Position × Walls) :=
  (maze.walls.mapIdx fun row line => line.mapIdx fun column walls => (⟨row, column⟩, walls)).flatten

/-- How many passages there are between neighbours, seen from the left and the upper cell. -/
def openPassages (maze : Maze) : Nat :=
  (maze.cells.map fun (place, walls) =>
    (if place.column + 1 < maze.columns && !walls.right then 1 else 0) +
    (if place.row + 1 < maze.rows && !walls.bottom then 1 else 0)).foldr (· + ·) 0

def boundaryOpenings (maze : Maze) : List (Position × Side) :=
  maze.cells.flatMap fun (place, walls) =>
    (if place.row = 0 && !walls.top then [(place, Side.top)] else []) ++
    (if place.row + 1 = maze.rows && !walls.bottom then [(place, Side.bottom)] else []) ++
    (if place.column = 0 && !walls.left then [(place, Side.left)] else []) ++
    (if place.column + 1 = maze.columns && !walls.right then [(place, Side.right)] else [])

/-!
## Moving the turtle
-/

def collectAt (place : Position) : List Item -> List Item
  | [] => []
  | item :: rest =>
      if item.place == place && !item.collected then { item with collected := true } :: rest
      else item :: collectAt place rest

/-- The maze with the turtle on a cell, which becomes visited and loses one item if it has any. -/
def entered (maze : Maze) (place : Position) : Maze :=
  { maze with
    items := collectAt place maze.items
    visited := Position.insert place maze.visited
    turtle := { maze.turtle with place } }

def turned (maze : Maze) (quarters : Nat) : Maze :=
  { maze with turtle := { maze.turtle with heading := maze.turtle.heading.turned quarters } }

end Maze
end Mosaic
