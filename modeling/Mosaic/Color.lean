import Mosaic.Text.Capital

/-!
# Colours

A cell is unlit or shows one of seven colours: the three primaries, and the four that arise when
two or all of them are mixed.
-/

namespace Mosaic

inductive Color
  | red
  | green
  | blue
  | white
  | yellow
  | cyan
  | magenta
  deriving DecidableEq, Repr, Inhabited

namespace Color

def all : List Color := [red, green, blue, white, yellow, cyan, magenta]

def letter : Color -> Char
  | red => 'R'
  | green => 'G'
  | blue => 'B'
  | white => 'W'
  | yellow => 'Y'
  | cyan => 'C'
  | magenta => 'M'

def ofLetter? : Char -> Option Color
  | 'R' => some red
  | 'G' => some green
  | 'B' => some blue
  | 'W' => some white
  | 'Y' => some yellow
  | 'C' => some cyan
  | 'M' => some magenta
  | _ => none

def ofText? : List Char -> Option Color
  | [c] => ofLetter? c
  | _ => none

def code : Color -> Nat
  | red => 1
  | green => 2
  | blue => 3
  | white => 4
  | yellow => 5
  | cyan => 6
  | magenta => 7

def ofPrimary? : Char -> Option Color
  | 'R' => some red
  | 'G' => some green
  | 'B' => some blue
  | _ => none

/-- The light that the chosen primaries give together. -/
def mix : (hasRed hasGreen hasBlue : Bool) -> Option Color
  | true, true, true => some white
  | true, true, false => some yellow
  | false, true, true => some cyan
  | true, false, true => some magenta
  | true, false, false => some red
  | false, true, false => some green
  | false, false, true => some blue
  | false, false, false => none

def mixText (cs : List Char) : Option Color :=
  let up := Text.capitals cs
  mix (up.contains 'R') (up.contains 'G') (up.contains 'B')

theorem ofLetter?_letter (color : Color) : ofLetter? color.letter = some color := by
  cases color <;> rfl

theorem code_pos (color : Color) : 0 < color.code := by
  cases color <;> decide

theorem code_inj {left right : Color} (h : left.code = right.code) : left = right := by
  cases left <;> cases right <;> simp_all [code]

end Color

/-- A cell of a grid: unlit, or lit in a colour. -/
abbrev Cell := Option Color

namespace Cell

def code (cell : Cell) : Nat := cell.elim 0 Color.code

def character (cell : Cell) : Char := cell.elim '.' Color.letter

end Cell
end Mosaic
