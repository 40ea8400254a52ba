import Mosaic.Document.Display
import Mosaic.Grid

/-!
# Grids from documents

A grid in a document is a non-empty list of rows of one width; a cell is null or an empty text for
unlit, or a colour letter in either case.  `Grid.ofDocument` accepts exactly those.  The cells of a
row are looked at before its width, and rows from the top.
-/

namespace Mosaic

def Mode.ofDocument (value : Document) : Except Fault Mode :=
  match Mode.ofName? value.asText.toList with
  | some mode => .ok mode
  | none => .error (.unknownMode value.shown)

def Mode.ofText (text : String) : Except Fault Mode := Mode.ofDocument (.text text)

namespace Cell

def ofDocument (value : Document) : Except Fault Cell :=
  match value with
  | .null => .ok none
  | .text "" => .ok none
  | .text letter =>
      match Color.ofText? (Text.capitals letter.toList) with
      | some color => .ok (some color)
      | none => .error (.grid (.unknownColor value.shown))
  | _ => .error (.grid (.unknownColor value.shown))

def toDocument (cell : Cell) : Document :=
  match cell with
  | none => .null
  | some color => .text color.letter.toString

end Cell

namespace Grid

def rowOfDocument (value : Document) : Except Fault (List Cell) :=
  match value with
  | .list cells => cells.mapM Cell.ofDocument
  | _ => .error (.grid .rowNotList)

def rowsOfDocuments (width : Nat) : List Document -> Except Fault Grid
  | [] => .ok []
  | value :: rest => do
      let row <- rowOfDocument value
      if row.length = width then
        let rows <- rowsOfDocuments width rest
        return row :: rows
      else throw (.grid .unequalRows)

def ofDocument (value : Document) : Except Fault Grid :=
  match value with
  | .list (first :: rest) => do
      let row <- rowOfDocument first
      let rows <- rowsOfDocuments row.length rest
      return row :: rows
  | _ => .error (.grid .notRows)

def toDocument (grid : Grid) : Document :=
  .list (grid.map fun row => .list (row.map Cell.toDocument))

end Grid
end Mosaic
