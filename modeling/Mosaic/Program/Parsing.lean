import Mosaic.Grid.Normal
import Mosaic.Program.Line
import Mosaic.Program.Screen.Sequence

/-!
# Lines of any mode

A blank line asks for nothing in every mode.  A screen line is cut into tokens as it stands, any
other line without the white space around it.
-/

namespace Mosaic
namespace Program

def single (line : Int) (reading : Except Fault Primitive) : Except Fault (List Op) :=
  reading.map fun action => [.once ⟨line, action⟩]

def parseLine (mode : Mode) (line : Int) (cs : List Char) : Except Fault (List Op) :=
  let trimmed := Text.trim cs
  if trimmed.isEmpty then .ok []
  else match mode with
    | .table => single line (tableLine line trimmed)
    | .grid => single line (gridLine line trimmed)
    | .maze => single line (mazeLine line trimmed)
    | .matrix => single line (matrixLine line trimmed)
    | .pixel => Screen.lineOps line cs

/-- The operations of a line in the mode that a value names.  For a blank line it may name none. -/
def parseNamed (mode : Document) (line : Int) (cs : List Char) : Except Fault (List Op) :=
  if (Text.trim cs).isEmpty then .ok []
  else do parseLine (<- Mode.ofDocument mode) line cs

end Program
end Mosaic
