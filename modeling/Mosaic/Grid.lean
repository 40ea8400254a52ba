import Mosaic.Color
import Mosaic.Grid.CodeTable

/-!
# Grids

A grid is a list of rows of cells.  Grids that programs paint are rectangular; the operations here
do not need that, and each says what it does with any rows.
-/

namespace Mosaic

/-- Rows of cells, from the top. -/
abbrev Grid := List (List Cell)

namespace Grid

def blank (rows columns : Nat) : Grid := List.replicate rows (List.replicate columns none)

def create (rows columns : Int) : Except Fault Grid :=
  if rows ≤ 0 || columns ≤ 0 then .error (.grid .sizeNotPositive)
  else .ok (blank rows.toNat columns.toNat)

def shape (grid : Grid) : Nat × Nat := (grid.length, (grid.head?.map List.length).getD 0)

def IsRectangular (grid : Grid) (columns : Nat) : Prop := ∀ row ∈ grid, row.length = columns

def cell? (grid : Grid) (row column : Nat) : Option Cell := grid[row]? >>= (·[column]?)

def isEmptyRow (row : List Cell) : Bool := row.all Option.isNone

def nonEmptyRows (grid : Grid) : Nat := grid.countP fun row => !isEmptyRow row

def codes (grid : Grid) : CodeTable := grid.map (·.map Cell.code)

def litCells (grid : Grid) : Nat := (grid.map fun row => row.countP Option.isSome).foldr (· + ·) 0

def rowText (row : List Cell) : List Char := row.map Cell.character

def text (grid : Grid) : List Char := ['\n'].intercalate (grid.map rowText)

/-!
## Painting
-/

def paintRow (column count : Nat) (value : Cell) (row : List Cell) : List Cell :=
  row.mapIdx fun index cell => if column ≤ index ∧ index < column + count then value else cell

def paintStrip (grid : Grid) (row column count : Nat) (value : Cell) : Grid :=
  grid.modify row (paintRow column count value)

def paintCell (grid : Grid) (row column : Nat) (value : Cell) : Grid :=
  grid.modify row fun cells => cells.set column value

def paintWholeRow (grid : Grid) (row : Nat) (value : Cell) : Grid :=
  grid.modify row fun cells => cells.map fun _ => value

/-- A grid with a column painted from the top, as far as the rows reach that column, and whether
all of them do. -/
def paintColumn (column : Nat) (value : Cell) : Grid -> Grid × Bool
  | [] => ([], true)
  | row :: rest =>
      if column < row.length then
        let painted := paintColumn column value rest
        (row.set column value :: painted.1, painted.2)
      else (row :: rest, false)

/-!
## Lemmas on the operations
-/

@[simp] theorem length_blank (rows columns : Nat) : (blank rows columns).length = rows := by
  simp [blank]

theorem blank_isRectangular (rows columns : Nat) : (blank rows columns).IsRectangular columns := by
  intro row hrow
  simp [blank, List.mem_replicate] at hrow
  simp [hrow.2]

theorem create_eq_ok {rows columns : Nat} (hrows : 1 ≤ rows) (hcolumns : 1 ≤ columns) :
    create rows columns = .ok (blank rows columns) := by
  unfold create
  rw [if_neg (by simp only [Bool.or_eq_true, decide_eq_true_eq]; omega)]
  rfl

@[simp] theorem length_paintStrip (grid : Grid) (row column count : Nat) (value : Cell) :
    (grid.paintStrip row column count value).length = grid.length := by
  simp [paintStrip]

@[simp] theorem length_paintRow (column count : Nat) (value : Cell) (row : List Cell) :
    (paintRow column count value row).length = row.length := by
  simp [paintRow]

@[simp] theorem length_paintWholeRow (grid : Grid) (row : Nat) (value : Cell) :
    (grid.paintWholeRow row value).length = grid.length := by
  simp [paintWholeRow]

theorem getElem?_paintRow (column count : Nat) (value : Cell) (row : List Cell) (index : Nat) :
    (paintRow column count value row)[index]? =
      row[index]?.map fun cell =>
        if column ≤ index ∧ index < column + count then value else cell :=
  List.getElem?_mapIdx

theorem getElem?_paintStrip (grid : Grid) (row column count : Nat) (value : Cell) (index : Nat) :
    (grid.paintStrip row column count value)[index]? =
      if row = index then (paintRow column count value) <$> grid[index]? else grid[index]? := by
  unfold paintStrip
  rw [List.getElem?_modify]
  split
  · rfl
  · simp

theorem shape_of_isRectangular {grid : Grid} {rows columns : Nat} (hrows : grid.length = rows)
    (hpositive : 0 < rows) (hcolumns : grid.IsRectangular columns) :
    grid.shape = (rows, columns) := by
  subst hrows
  cases grid with
  | nil => cases hpositive
  | cons row rest =>
      have hwidth := hcolumns row (by simp)
      unfold shape
      rw [List.head?_cons, Option.map_some, Option.getD_some, hwidth]

theorem cell?_blank {rows columns row column : Nat} (hrow : row < rows) (hcolumn : column < columns) :
    (blank rows columns).cell? row column = some none := by
  unfold cell? blank
  rw [List.getElem?_replicate, if_pos hrow]
  show (List.replicate columns (none : Cell))[column]? = some none
  rw [List.getElem?_replicate, if_pos hcolumn]

theorem cell?_paintStrip (grid : Grid) (row column count : Nat) (value : Cell)
    (atRow atColumn : Nat) :
    (grid.paintStrip row column count value).cell? atRow atColumn =
      (grid.cell? atRow atColumn).map fun cell =>
        if row = atRow ∧ column ≤ atColumn ∧ atColumn < column + count then value else cell := by
  unfold cell?
  rw [getElem?_paintStrip]
  cases grid[atRow]? with
  | none => simp
  | some cells =>
      by_cases hrow : row = atRow
      · simp [hrow, getElem?_paintRow]
      · simp [hrow]

end Grid
end Mosaic
