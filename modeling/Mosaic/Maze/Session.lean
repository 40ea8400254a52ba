import Mosaic.Document.Reader
import Mosaic.Document.Writer
import Mosaic.Maze.Reading

/-!
# Saved maze sessions

A session is a program text together with a maze in progress.  It is saved as a document with the
fields `code` and `maze`, and restored from one; further fields do not matter.
-/

namespace Mosaic
namespace Maze

def wallsDocument (walls : Walls) : Document :=
  .record [("top", .bool walls.top), ("right", .bool walls.right), ("bottom", .bool walls.bottom),
    ("left", .bool walls.left)]

def count (n : Nat) : Document := .whole n

def itemDocument (item : Item) : Document :=
  .record [("r", count item.place.row), ("c", count item.place.column),
    ("type", .text item.kind.name), ("collected", .bool item.collected)]

def placeDocument (place : Position) : Document :=
  .record [("r", count place.row), ("c", count place.column)]

def pairDocument (place : Position) : Document := .list [count place.row, count place.column]

def turtleDocument (turtle : Turtle) : Document :=
  .record [("r", count turtle.place.row), ("c", count turtle.place.column),
    ("heading", count turtle.heading.degrees)]

def toDocument (maze : Maze) : Document :=
  .record [
    ("rows", count maze.rows),
    ("cols", count maze.columns),
    ("cells", .list (maze.walls.map fun row => .list (row.map wallsDocument))),
    ("items", .list (maze.items.map itemDocument)),
    ("exit", maze.exit.elim .null placeDocument),
    ("visited", .list (maze.visited.map pairDocument)),
    ("turtle", turtleDocument maze.turtle)]

def saveSession (code : String) (maze : Maze) : String :=
  Document.write (.record [("code", .text code), ("maze", maze.toDocument)])

def loadSession (text : String) : Except Fault (String × Maze) :=
  match Document.read text with
  | .error .malformed => refuse .notADocument
  | .error (.numeral fault) => .error (.numeral fault)
  | .ok (.record fields) =>
      match Document.field? fields "code", Document.field? fields "maze" with
      | some code, some maze => do return (code.asText, <- ofDocument maze)
      | _, _ => refuse .incompleteDocument
  | .ok _ => refuse .incompleteDocument

end Maze
end Mosaic
