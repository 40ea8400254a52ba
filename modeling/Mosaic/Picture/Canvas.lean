import Mosaic.Picture.Easel

/-!
# Canvases and outlines

There are two easels in this project.  A canvas keeps the tint of every pixel.  An outline keeps
the size of an image and nothing of what is on it, which is enough where pictures are only counted and
named.  Both have room for the same sizes.
-/

namespace Mosaic

/-- Rows of tints, from the top. -/
structure Canvas where
  width : Nat
  height : Nat
  rows : List (List Tint)
  deriving DecidableEq, Repr, Inhabited

namespace Canvas

/-- The sides of a new canvas.  Lengths are kept in 32 bits with a sign, and so is the number of bytes
in a row, four to a pixel and one pixel to spare. -/
def sides (width height : Int) : Except Fault (Nat × Nat) :=
  let longest : Int := 2147483647
  if width < 0 ∨ height < 0 then .error (.picture .negativeSide)
  else if longest < width ∨ longest < height then .error (.picture .sideTooLong)
  else if longest / 4 - 1 < width then .error (.picture .rowTooWide)
  else .ok (width.toNat, height.toNat)

def blank (width height : Int) (tint : Tint) : Except Fault Canvas := do
  let (across, down) <- sides width height
  return ⟨across, down, List.replicate down (List.replicate across tint)⟩

/-- A canvas with a box filled, as far as it lies on the canvas. -/
def filled (canvas : Canvas) (box : Box) (tint : Tint) : Canvas :=
  { canvas with
    rows := canvas.rows.mapIdx fun y row =>
      if box.top ≤ (y : Int) ∧ (y : Int) ≤ box.bottom then
        row.mapIdx fun x old => if box.left ≤ (x : Int) ∧ (x : Int) ≤ box.right then tint else old
      else row }

def pixel? (canvas : Canvas) (x y : Nat) : Option Tint := canvas.rows[y]? >>= (·[x]?)

def easel : Easel Canvas where
  blank := blank
  fill canvas box tint := .ok (canvas.filled box tint)
  size canvas := (canvas.width, canvas.height)
  pixel? := pixel?

end Canvas

namespace Outline

def easel : Easel (Nat × Nat) where
  blank width height _ := Canvas.sides width height
  fill size _ _ := .ok size
  size := id
  pixel? _ _ _ := none

end Outline
end Mosaic
