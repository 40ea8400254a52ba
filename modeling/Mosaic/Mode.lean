import Mosaic.Text.Blank
import Mosaic.Text.Capital
import Mosaic.Text.Path

/-!
# Modes

There are five small languages.  TABLE and GRID paint strips of a table whose size the program
declares, MATRIX switches whole rows and columns of a square of lamps, PIXEL paints a screen line
by line, and MAZE steers a turtle.
-/

namespace Mosaic

inductive Mode
  | table
  | grid
  | maze
  | matrix
  | pixel
  deriving DecidableEq, Repr, Inhabited

namespace Mode

def all : List Mode := [table, grid, maze, matrix, pixel]

def name : Mode -> String
  | table => "TABLE"
  | grid => "GRID"
  | maze => "MAZE"
  | matrix => "MATRIX"
  | pixel => "PIXEL"

def extension : Mode -> String
  | table => "tbl"
  | grid => "grd"
  | maze => "mze"
  | matrix => "mtx"
  | pixel => "pxl"

def fixedSize : Mode -> Option (Nat × Nat)
  | table => none
  | grid => none
  | maze => some (16, 16)
  | matrix => some (8, 8)
  | pixel => some (16, 16)

def declaresSize : Mode -> Bool
  | table => true
  | grid => true
  | maze => false
  | matrix => false
  | pixel => false

/-- The mode of a name, which may be padded and spelled in small letters. -/
def ofName? (cs : List Char) : Option Mode :=
  all.find? fun mode => mode.name.toList == Text.capitals (Text.trim cs)

def ofPath? (path : Path) : Option Mode :=
  let ending := (path.suffix.map Char.toLower).dropWhile (· == '.')
  all.find? fun mode => mode.extension.toList == ending

end Mode
end Mosaic
