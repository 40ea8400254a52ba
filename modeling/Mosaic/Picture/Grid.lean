import Mosaic.Grid.Loose
import Mosaic.Picture.Easel

/-!
# Pictures of grids

A grid is drawn as squares of one size on an image in the colour of the lines, with gaps of one width
around them.  The squares are filled one after the other, row by row.
-/

namespace Mosaic
namespace Picture

def unlitTint : Tint := (39, 39, 42)

def colorTint : Color -> Tint
  | .red => (239, 68, 68)
  | .green => (34, 197, 94)
  | .blue => (59, 130, 246)
  | .white => (250, 250, 250)
  | .yellow => (250, 204, 21)
  | .cyan => (34, 211, 238)
  | .magenta => (217, 70, 239)

def cellTint : Cell -> Tint
  | none => unlitTint
  | some color => colorTint color

def lineTint : Tint := (63, 63, 70)

/-- The length of so many squares with the gaps around them; an image has a pixel at least. -/
def extent (count : Nat) (cellSize gap : Int) : Int := max 1 (count * cellSize + (count + 1) * gap)

def square (cellSize gap : Int) (row column : Nat) : Box :=
  let left := gap + column * (cellSize + gap)
  let top := gap + row * (cellSize + gap)
  ⟨left, top, left + cellSize - 1, top + cellSize - 1⟩

def checkCellSize (cellSize : Int) : Except Fault Unit :=
  if cellSize ≤ 0 then .error (.goal .cellSizeNotPositive) else .ok ()

def usualCellSize : Int := 24

def usualGap : Int := 1

end Picture

namespace Loose

def cellTint (value : Document) : Except Fault Tint :=
  match value with
  | .null => .ok Picture.unlitTint
  | .text letter =>
      match Color.ofText? letter.toList with
      | some color => .ok (Picture.colorTint color)
      | none => .error (.missingKey letter)
  | _ => if value.isKey then .error (.missingKey value.asText) else .error .wrongType

section

variable {Image : Type} (easel : Easel Image) (cellSize gap : Int)

def drawCells (row : Nat) : Nat -> List Document -> Image -> Except Fault Image
  | _, [], image => .ok image
  | column, value :: rest, image => do
      let tint <- cellTint value
      let drawn <- easel.fill image (Picture.square cellSize gap row column) tint
      drawCells row (column + 1) rest drawn

def drawRows : Nat -> List Document -> Image -> Except Fault Image
  | _, [], image => .ok image
  | row, value :: rest, image => do
      let drawn <- drawCells easel cellSize gap row 0 (<- members value) image
      drawRows (row + 1) rest drawn

end

/-- The picture of a value.  An image is asked for as soon as the shape is known, and the cells are
looked at while it is drawn. -/
def picture {Image : Type} (easel : Easel Image) (value : Document) (cellSize gap : Int) :
    Except Fault Image := do
  Picture.checkCellSize cellSize
  let (rows, columns) <- shape value
  let image <- easel.blank (Picture.extent columns cellSize gap) (Picture.extent rows cellSize gap)
    Picture.lineTint
  drawRows easel cellSize gap 0 (<- members value) image

end Loose
end Mosaic
