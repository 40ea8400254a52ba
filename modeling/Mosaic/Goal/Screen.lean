import Mosaic.Color
import Mosaic.Random.Source
import Mosaic.Text.Lines

/-!
# Screen goals

A goal for PIXEL has sixteen rows, each after one of four patterns: one ink all along, two inks in
turn, four inks in turn, or one ink for each half.  A pattern says both which cells a row shows and
which line of a program draws it.
-/

namespace Mosaic
namespace Goal

inductive Ink
  | red
  | green
  | blue
  | redGreen
  | greenBlue
  | redBlue
  | redGreenBlue
  | off
  deriving DecidableEq, Repr, Inhabited

namespace Ink

def word : Ink -> List Char
  | red => ['R']
  | green => ['G']
  | blue => ['B']
  | redGreen => ['R', 'G']
  | greenBlue => ['G', 'B']
  | redBlue => ['R', 'B']
  | redGreenBlue => ['R', 'G', 'B']
  | off => ['O', 'f', 'f']

def cell : Ink -> Cell
  | off => none
  | ink => Color.mixText ink.word

end Ink

inductive Pattern
  | full (ink : Ink)
  | alternate (first second : Ink)
  | quartet (first second third fourth : Ink)
  | halves (first second : Ink)
  deriving DecidableEq, Repr, Inhabited

namespace Pattern

def loop (count : List Char) (inks : List Ink) : List Char :=
  count ++ [' ', '*', ' ', '(', ' '] ++ [' ', '+', ' '].intercalate (inks.map Ink.word) ++ [' ', ')']

def line : Pattern -> List Char
  | full ink => loop ['1', '6'] [ink]
  | alternate first second => loop ['8'] [first, second]
  | quartet first second third fourth => loop ['4'] [first, second, third, fourth]
  | halves first second => loop ['8'] [first] ++ [' ', '+', ' '] ++ loop ['8'] [second]

def cells : Pattern -> List Cell
  | full ink => List.replicate 16 ink.cell
  | alternate first second => (List.replicate 8 [first.cell, second.cell]).flatten
  | quartet first second third fourth =>
      (List.replicate 4 [first.cell, second.cell, third.cell, fourth.cell]).flatten
  | halves first second => List.replicate 8 first.cell ++ List.replicate 8 second.cell

end Pattern

def screenRows : Nat := 16

def screenCode (patterns : List Pattern) : String :=
  String.ofList (Text.joinLines (patterns.map Pattern.line))

variable {σ : Type} [RandomSource σ]

def drawFullInk : Draw σ Ink :=
  Draw.choose .red [.green, .blue, .redGreen, .greenBlue, .redBlue, .redGreenBlue]

def drawFirstInk : Draw σ Ink := Draw.choose .red [.green, .blue, .redGreen]

def drawSecondInk : Draw σ Ink := Draw.choose .greenBlue [.redBlue, .redGreenBlue, .off]

def drawQuartetInk : Draw σ Ink :=
  Draw.choose .red [.green, .blue, .redGreen, .greenBlue, .redBlue, .off]

def drawLeftInk : Draw σ Ink := Draw.choose .red [.green, .blue]

def drawRightInk : Draw σ Ink := Draw.choose .greenBlue [.redBlue, .redGreen]

def drawPattern : Draw σ Pattern := do
  let chance <- Draw.fraction
  if Draw.isBelowQuarters 1 chance then return .full (<- drawFullInk)
  else if Draw.isBelowQuarters 2 chance then
    let first <- drawFirstInk
    return .alternate first (<- drawSecondInk)
  else if Draw.isBelowQuarters 3 chance then
    let first <- drawQuartetInk
    let second <- drawQuartetInk
    let third <- drawQuartetInk
    return .quartet first second third (<- drawQuartetInk)
  else
    let first <- drawLeftInk
    return .halves first (<- drawRightInk)

def drawPatterns : Draw σ (List Pattern) := Draw.times screenRows drawPattern

end Goal
end Mosaic
