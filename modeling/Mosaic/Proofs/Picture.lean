import Mosaic.Picture.Canvas
import Mosaic.Picture.Grid
import Mosaic.Proofs.Measuring
import Mosaic.Proofs.Run.Dots

/-!
# Pictures of grids, pixel by pixel

A picture is made by filling one square after the other, and what a pixel shows in the end is what
the last square over it has left there.  With a positive size of the squares and gaps that are not
negative no two squares have a pixel in common, and all of them lie on the image.  So each pixel of a
square shows the colour of its cell, every other pixel that of the lines, and the grid can be read
back.

All of this holds for every easel that draws, and canvases are one of them.
-/

namespace Mosaic

namespace Picture

def Spans (cellSize gap : Int) (index pixel : Nat) : Prop :=
  gap + index * (cellSize + gap) ≤ pixel ∧ pixel < gap + index * (cellSize + gap) + cellSize

instance (cellSize gap : Int) (index pixel : Nat) : Decidable (Spans cellSize gap index pixel) :=
  inferInstanceAs (Decidable (_ ∧ _))

section

variable {cellSize gap : Int}

theorem Spans.unique (hsize : 1 ≤ cellSize) (hgap : 0 ≤ gap) {index other pixel : Nat}
    (h : Spans cellSize gap index pixel) (hother : Spans cellSize gap other pixel) :
    index = other := by
  have hbehind : forall first second : Nat, first < second ->
      (first : Int) * (cellSize + gap) + (cellSize + gap) ≤ second * (cellSize + gap) := by
    intro first second hlt
    have hstep : ((first : Int) + 1) * (cellSize + gap) ≤ second * (cellSize + gap) :=
      Int.mul_le_mul_of_nonneg_right (by omega) (by omega)
    rwa [Int.add_mul, Int.one_mul] at hstep
  rcases h with ⟨hlow, hhigh⟩
  rcases hother with ⟨hbelow, habove⟩
  rcases Nat.lt_trichotomy index other with hlt | hsame | hlt
  · have hapart := hbehind index other hlt
    omega
  · exact hsame
  · have hapart := hbehind other index hlt
    omega

end

/-- A square of a picture: its place in the grid, and the cell that it shows. -/
structure Square where
  row : Nat
  column : Nat
  value : Cell

def Square.Covers (cellSize gap : Int) (square : Square) (x y : Nat) : Prop :=
  Spans cellSize gap square.row y ∧ Spans cellSize gap square.column x

instance (cellSize gap : Int) (square : Square) (x y : Nat) :
    Decidable (square.Covers cellSize gap x y) :=
  inferInstanceAs (Decidable (_ ∧ _))

section

variable {cellSize gap : Int}

def Square.box (cellSize gap : Int) (drawn : Square) : Box :=
  square cellSize gap drawn.row drawn.column

variable {Image : Type} {easel : Easel Image}

end

end Picture

namespace Loose

section

variable {Image : Type} (easel : Easel Image) (cellSize gap : Int)

end

end Loose

namespace Picture

/-!
## Pictures of grids
-/

/-- A grid with rows and columns, and squares and gaps that a picture of it can have. -/
structure CanBeDrawn (grid : Grid) (rows columns : Nat) (cellSize gap : Int) : Prop where
  length : grid.length = rows
  rectangular : grid.IsRectangular columns
  rows : 0 < rows
  columns : 0 < columns
  cellSize : 1 ≤ cellSize
  gap : 0 ≤ gap

section

variable {cellSize gap : Int} {grid : Grid} {rows columns : Nat}

theorem CanBeDrawn.inside (h : CanBeDrawn grid rows columns cellSize gap) {row column : Nat}
    {cell : Cell} (hcell : grid.cell? row column = some cell) : row < rows ∧ column < columns := by
  rw [← h.length]
  exact Grid.inside_of_cell? h.rectangular hcell

variable {Image : Type} {easel : Easel Image}

end

end Picture

/-!
## Canvases
-/

namespace Canvas

end Canvas

namespace Loose

end Loose
end Mosaic
