import Mosaic.Document.Display
import Mosaic.Fault
import Mosaic.Maze

/-!
# Mazes from documents

A maze is described by a record of its size, cells, items, exit, visited cells and turtle.  Numbers
may be given as texts or with a fraction, which is dropped, and flags by any value that counts as
given or not.  The parts are read in a fixed order, and the first one that cannot be read is
reported; what was read is then checked against the size.  An infinite number is a fault of its own
kind.

Without a turtle the turtle stands on the start cell, and without visited cells it has been on its
own cell only.
-/

namespace Mosaic
namespace Maze

def refuse {α : Type} (fault : MazeFault) : Except Fault α := .error (.maze fault)

def part (value : Document) (name : String) : Except Fault Document :=
  match value with
  | .record fields =>
      match Document.field? fields name with
      | some found => .ok found
      | none => refuse (.missingField name)
  | _ => refuse .wrongType

def partOr (value : Document) (name : String) (other : Document) : Except Fault Document :=
  match value with
  | .record fields => .ok ((Document.field? fields name).getD other)
  | _ => refuse .wrongType

def wholeNumber (value : Document) : Except Fault Int :=
  match value with
  | .bool flag => .ok (if flag then 1 else 0)
  | .whole n => .ok n
  | .real (.finite negative mantissa exponent) =>
      .ok (Text.signed negative (Binary64.wholePart mantissa exponent))
  | .real .nan => refuse .notFinite
  | .real (.infinite _) => .error .notFinite
  | .text letters => (Text.readWhole letters.toList).mapError fun fault => .maze (.numeral fault)
  | _ => refuse .wrongType

def members (value : Document) : Except Fault (List Document) :=
  match value.members? with
  | some items => .ok items
  | none => refuse .wrongType

def wholePart (value : Document) (name : String) : Except Fault Int := do
  wholeNumber (<- part value name)

def flagPart (value : Document) (name : String) : Except Fault Bool := do
  return (<- part value name).isGiven

def wallsOf (value : Document) : Except Fault Walls := do
  let top <- flagPart value "top"
  let right <- flagPart value "right"
  let bottom <- flagPart value "bottom"
  let left <- flagPart value "left"
  return { top, right, bottom, left }

def rowOf (value : Document) : Except Fault (List Walls) := do (<- members value).mapM wallsOf

structure ItemDraft where
  row : Int
  column : Int
  kind : String
  collected : Bool

def itemOf (value : Document) : Except Fault ItemDraft := do
  let row <- wholePart value "r"
  let column <- wholePart value "c"
  let kind := (<- part value "type").asText
  let collected := (<- partOr value "collected" (.bool false)).isGiven
  return { row, column, kind, collected }

def pairOf (value : Document) : Except Fault (Int × Int) := do
  match <- members value with
  | [row, column] => return (<- wholeNumber row, <- wholeNumber column)
  | [] => refuse (.tooFewParts 0)
  | [_] => refuse (.tooFewParts 1)
  | _ => refuse .tooManyParts

def turtleOf (value : Document) : Except Fault (Int × Int × Int) := do
  let row <- wholePart value "r"
  let column <- wholePart value "c"
  let heading <- wholeNumber (<- partOr value "heading" (.whole 0))
  return (row, column, heading % 360)

/-- A maze as it is described, before any check. -/
structure Draft where
  rows : Int
  columns : Int
  walls : List (List Walls)
  items : List ItemDraft
  exit : Option (Int × Int)
  visited : List (Int × Int)
  turtle : Option (Int × Int × Int)

def draftOf (value : Document) : Except Fault Draft := do
  let rows <- wholePart value "rows"
  let columns <- wholePart value "cols"
  let walls <- (<- members (<- part value "cells")).mapM rowOf
  let items <- (<- members (<- partOr value "items" (.list []))).mapM itemOf
  let rawExit <- partOr value "exit" .null
  let exit <- if rawExit.isGiven then
      do pure (some (<- wholePart rawExit "r", <- wholePart rawExit "c"))
    else pure none
  let visited <- (<- members (<- partOr value "visited" (.list []))).mapM pairOf
  let rawTurtle <- partOr value "turtle" .null
  let turtle <- if rawTurtle.isGiven then do pure (some (<- turtleOf rawTurtle)) else pure none
  return { rows, columns, walls, items, exit, visited, turtle }

/-!
## Checks
-/

def pairAtMost (left right : Int × Int) : Bool :=
  left.1 < right.1 || (left.1 == right.1 && left.2 ≤ right.2)

namespace Draft

def turtlePlace (draft : Draft) : Int × Int × Int :=
  draft.turtle.getD (draft.rows.fdiv 2, draft.columns.fdiv 2, 0)

/-- The visited cells in ascending order, or the turtle's cell if there are none. -/
def visitedPlaces (draft : Draft) : List (Int × Int) :=
  if draft.visited.isEmpty then [(draft.turtlePlace.1, draft.turtlePlace.2.1)]
  else draft.visited.mergeSort pairAtMost

/-- Everything that has to lie in the maze, with its name, in the order of the checks. -/
def places (draft : Draft) : List (String × Int × Int) :=
  draft.items.map (fun item => ("item", item.row, item.column)) ++
    draft.visitedPlaces.map (fun place => ("visited cell", place.1, place.2)) ++
    [("turtle", draft.turtlePlace.1, draft.turtlePlace.2.1)] ++
    draft.exit.toList.map fun place => ("exit", place.1, place.2)

def fitsSize (draft : Draft) : Bool :=
  (draft.walls.length : Int) == draft.rows &&
    draft.walls.all fun row => (row.length : Int) == draft.columns

def holds (draft : Draft) (row column : Int) : Bool :=
  0 ≤ row && row < draft.rows && 0 ≤ column && column < draft.columns

def position (row column : Int) : Position := ⟨row.toNat, column.toNat⟩

def item (draft : ItemDraft) : Except Fault Item :=
  match ItemKind.ofName? draft.kind with
  | some kind => .ok ⟨position draft.row draft.column, kind, draft.collected⟩
  | none => refuse (.unknownItem (Text.quoted draft.kind.toList))

def toMaze (draft : Draft) : Except Fault Maze := do
  if !draft.fitsSize then refuse .sizeMismatch
  let items <- draft.items.mapM item
  match draft.places.find? fun (_, row, column) => !draft.holds row column with
  | some (label, row, column) => refuse (.outOfBounds label row column)
  | none =>
      let (row, column, degrees) := draft.turtlePlace
      match Heading.ofDegrees? degrees with
      | none => refuse (.unsupportedHeading degrees)
      | some heading =>
          return {
            rows := draft.rows.toNat
            columns := draft.columns.toNat
            walls := draft.walls
            items := items
            exit := draft.exit.map fun place => position place.1 place.2
            visited := Position.sorted (draft.visitedPlaces.map fun place => position place.1 place.2)
            turtle := ⟨position row column, heading⟩ }

end Draft

def ofDocument (value : Document) : Except Fault Maze := do (<- draftOf value).toMaze

end Maze
end Mosaic
