import Mosaic.Fault

/-!
# Easels

Pictures are made with a library of images that is not part of this project.  An easel stands for such
a library: what it does is a parameter of every picture, and what is expected of it is said by
`Easel.Draws`.  Of its refusals nothing is expected; it may have no room for an image of some size.
-/

namespace Mosaic

abbrev Tint := Nat × Nat × Nat

/-- A rectangle of pixels, its edges included. -/
structure Box where
  left : Int
  top : Int
  right : Int
  bottom : Int
  deriving DecidableEq, Repr, Inhabited

namespace Box

def Has (box : Box) (x y : Nat) : Prop :=
  (box.left ≤ x ∧ x ≤ box.right) ∧ box.top ≤ y ∧ y ≤ box.bottom

instance (box : Box) (x y : Nat) : Decidable (box.Has x y) :=
  inferInstanceAs (Decidable (_ ∧ _))

/-- Whether a box has pixels, all of them on an image of a size. -/
structure LiesOn (box : Box) (size : Nat × Nat) : Prop where
  left : 0 ≤ box.left
  across : box.left ≤ box.right
  right : box.right < size.1
  top : 0 ≤ box.top
  down : box.top ≤ box.bottom
  bottom : box.bottom < size.2

end Box

/-- A library of images: a new image of one tint, and a box filled on an image.  An image has a size,
width first, and shows a tint at each of its pixels. -/
structure Easel (Image : Type) where
  blank : Int -> Int -> Tint -> Except Fault Image
  fill : Image -> Box -> Tint -> Except Fault Image
  size : Image -> Nat × Nat
  pixel? : Image -> Nat -> Nat -> Option Tint

/-- What is expected of an easel: a new image has the size and the tint that were asked for, and a box
on an image is filled, its edges included, and nothing else is changed. -/
structure Easel.Draws {Image : Type} (easel : Easel Image) : Prop where
  size_blank : forall {width height tint image}, easel.blank width height tint = .ok image ->
    ((easel.size image).1 : Int) = width ∧ ((easel.size image).2 : Int) = height
  pixel_blank : forall {width height tint image}, easel.blank width height tint = .ok image ->
    forall x y, x < (easel.size image).1 -> y < (easel.size image).2 ->
      easel.pixel? image x y = some tint
  fill_ok : forall {image} {box : Box}, box.LiesOn (easel.size image) -> forall tint,
    exists filled, easel.fill image box tint = .ok filled
  size_fill : forall {image box tint filled}, easel.fill image box tint = .ok filled ->
    easel.size filled = easel.size image
  pixel_fill : forall {image} {box : Box} {tint filled}, box.LiesOn (easel.size image) ->
    easel.fill image box tint = .ok filled -> forall x y,
      easel.pixel? filled x y =
        (easel.pixel? image x y).map fun old => if box.Has x y then tint else old

end Mosaic
