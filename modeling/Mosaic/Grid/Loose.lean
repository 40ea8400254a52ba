import Mosaic.Grid.Normal

/-!
# Grids that nobody has checked

A value may be looked at as a grid without having been read as one.  Rows and cells are then its
members, whatever they are, and each question fails only where a value it has to look at does not
fit: something without members where members are wanted, a cell that is no capital colour letter,
rows of unequal width.
-/

namespace Mosaic
namespace Loose

def members (value : Document) : Except Fault (List Document) :=
  match value.members? with
  | some items => .ok items
  | none => .error .wrongType

def size (value : Document) : Except Fault Nat := do return (<- members value).length

/-- The member at an index.  A record is looked up by names and has none for a number. -/
def memberAt (value : Document) (index : Nat) : Except Fault Document :=
  match value with
  | .record _ => .error (.missingKey (toString index))
  | _ => do
      match (<- members value)[index]? with
      | some item => return item
      | none => throw .outOfRange

def shape (value : Document) : Except Fault (Nat × Nat) := do
  let rows <- size value
  if rows = 0 then return (0, 0)
  let first <- memberAt value 0
  return (rows, <- size first)

def cellCode (value : Document) : Except Fault Nat :=
  match value with
  | .null => .ok 0
  | .text letter =>
      match Color.ofText? letter.toList with
      | some color => .ok color.code
      | none => .error (.grid (.unknownColor value.shown))
  | _ => if value.isKey then .error (.grid (.unknownColor value.shown)) else .error .wrongType

def rowCodes (row : Document) : Except Fault (List Nat) := do (<- members row).mapM cellCode

/-- The codes of all cells.  All rows are looked at before their widths are compared. -/
def codes (value : Document) : Except Fault CodeTable := do
  CodeTable.ofRows (<- (<- members value).mapM rowCodes)

def litCells (value : Document) : Except Fault Nat := do
  if !value.isGiven then return 0
  return (<- codes value).countNonzero

def isNull : Document -> Bool
  | .null => true
  | _ => false

def isEmptyRow (row : Document) : Except Fault Bool := do return (<- members row).all isNull

def nonEmptyRows (value : Document) : Except Fault Nat := do
  let empties <- (<- members value).mapM isEmptyRow
  return empties.countP (!·)

def cellText (value : Document) : Except Fault (List Char) :=
  if !value.isGiven then .ok ['.']
  else match value with
    | .text letters => .ok letters.toList
    | _ => .error .wrongType

def rowText (row : Document) : Except Fault (List Char) := do
  return (<- (<- members row).mapM cellText).flatten

def text (value : Document) : Except Fault (List Char) := do
  return ['\n'].intercalate (<- (<- members value).mapM rowText)

end Loose
end Mosaic
