import Mosaic.Run

/-!
# What the primitives do

A primitive changes a run, and may fail after part of the change has been made: what was done before
the fault stays done.  So carrying out gives the changed run together with the fault, if there is
one.
-/

namespace Mosaic

/-- A run after something was carried out, with the fault that cut it short. -/
structure Carried where
  run : Run
  fault : Option Fault
  deriving Repr, Inhabited

namespace Carried

def andThen (carried : Carried) (next : Run -> Carried) : Carried :=
  match carried.fault with
  | none => next carried.run
  | some _ => carried

end Carried

namespace Run

def done (run : Run) : Carried := ⟨run, none⟩

def failed (run : Run) (line : Int) (cause : Cause) : Carried :=
  ⟨run, some (.program ⟨line, cause⟩)⟩

/-- A run that is stopped because of a number; a number too long to write is a fault of its own. -/
def failedAt (run : Run) (line : Int) (number : Int) (cause : Int -> Cause) : Carried :=
  match Text.writeWhole number with
  | .ok _ => run.failed line (cause number)
  | .error fault => ⟨run, some (.numeral fault)⟩

def enterLine (run : Run) (line : Int) : Run :=
  { run with
    line := some line
    cursor := if run.mode = .pixel then (line, 0) else run.cursor }

/-!
## Tables
-/

def declared (run : Run) (rows columns : Nat) : Carried :=
  match Grid.create rows columns with
  | .ok grid => done { run with grid := some grid, anchor := (0, 0) }
  | .error fault => ⟨run, some fault⟩

/-- A strip from a place to the right.  Row, column and length are checked in this order, and an
empty strip only moves the anchor. -/
def paintStrip (run : Run) (line : Int) (count : Nat) (color : Color) (row column : Int) : Carried :=
  match run.grid with
  | none => run.failed line .noTable
  | some [] => ⟨run, some .outOfRange⟩
  | some (first :: rest) =>
      let width := first.length
      if row < 0 || (rest.length : Int) < row then run.failedAt line row .rowOutside
      else if column < 0 || (width : Int) ≤ column then run.failedAt line column .columnOutside
      else if (width : Int) < column + count then run.failed line .stripTooLong
      else done
        { run with
          grid := some (Grid.paintStrip (first :: rest) row.toNat column.toNat count (some color))
          anchor := (row, column + (count - 1 : Nat)) }

/-- A strip at a distance from the anchor; the way there and along the strip counts as movement. -/
def paintShifted (run : Run) (line : Int) (count : Nat) (color : Color) (dx dy : Int) : Carried :=
  (run.paintStrip line count color (run.anchor.1 + dy) (run.anchor.2 + dx)).andThen fun painted =>
    done { painted with movements := painted.movements + dx.natAbs + dy.natAbs + (count - 1) }

/-!
## The turtle
-/

inductive Walk
  | unknown
  | blocked
  | left
  | moved (maze : Maze) (points : Nat)

def walk (maze : Maze) : Walk :=
  let turtle := maze.turtle
  match maze.wallsAt? turtle.place with
  | none => .unknown
  | some walls =>
      if walls.has turtle.heading.side then .blocked
      else match maze.beyond? turtle.place turtle.heading.side with
        | none => .left
        | some next =>
            .moved (maze.entered next) ((maze.itemAt? next).elim 0 fun item => item.kind.value)

def advanced (run : Run) (line : Int) (maze : Maze) : Nat -> Carried
  | 0 => done run
  | steps + 1 =>
      match walk maze with
      | .unknown => ⟨run, some .outOfRange⟩
      | .blocked =>
          run.failed line (.wallAhead maze.turtle.place.row maze.turtle.place.column)
      | .left => done { run with outcome := .success, isRunning := false }
      | .moved next points =>
          advanced { run with maze := some next, mazeScore := run.mazeScore + points } line next steps

/-!
## Lamps and the screen
-/

def switched (run : Run) (line : Int) (on : Bool) (axis : Axis) (index : Nat) : Carried :=
  let value : Cell := if on then some .white else none
  match run.grid with
  | none => run.failed line .noMatrix
  | some grid =>
      match axis with
      | .row =>
          if index < grid.length then done { run with grid := some (grid.paintWholeRow index value) }
          else ⟨run, some .outOfRange⟩
      | .column =>
          let (painted, complete) := Grid.paintColumn index value grid
          ⟨{ run with grid := some painted }, if complete then none else some .outOfRange⟩

/-- One cell at the cursor, which then moves on; beyond the screen nothing is painted. -/
def painted (run : Run) (line : Int) (value : Cell) : Carried :=
  match run.grid with
  | none => run.failed line .noScreen
  | some grid =>
      let (row, column) := run.cursor
      let lit := if row < 0 || column < 0 then grid else grid.paintCell row.toNat column.toNat value
      done { run with grid := some lit, cursor := (row, column + 1) }

/-!
## Commands
-/

def apply (run : Run) (line : Int) (action : Primitive) : Carried :=
  match action with
  | .declare rows columns => run.declared rows columns
  | .strip count color row column => run.paintStrip line count color row column
  | .shifted count color dx dy => run.paintShifted line count color dx dy
  | .turn quarters =>
      match run.maze with
      | none => run.failed line .noMaze
      | some maze => done { run with maze := some (maze.turned quarters) }
  | .advance steps =>
      match run.maze with
      | none => run.failed line .noMaze
      | some maze => run.advanced line maze steps
  | .switch on axis index => run.switched line on axis index
  | .paint color => run.painted line (some color)
  | .erase => run.painted line none

def applyCommand (run : Run) (command : Command) : Carried := run.apply command.line command.action

def repeated (action : Run -> Carried) : Nat -> Run -> Carried
  | 0, run => done run
  | count + 1, run => (action run).andThen (repeated action count)

mutual

def applyOp : Op -> Run -> Carried
  | .once command, run => run.applyCommand command
  | .loop _ count body, run => repeated (applyOps body) count run

def applyOps : List Op -> Run -> Carried
  | [], run => done run
  | op :: rest, run => (applyOp op run).andThen (applyOps rest)

end

end Run
end Mosaic
