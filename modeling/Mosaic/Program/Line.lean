import Mosaic.Fault
import Mosaic.Program.Command

/-!
# Lines of commands

A line of TABLE, GRID, MAZE or MATRIX holds one command.  White space separates the words of a line
and may pad it; keywords, colour letters and column letters are read in either case; and numbers are
rows of decimal digits of any alphabet.

* TABLE and GRID: `rows#columns` declares the size.
* TABLE: `count color row column` paints a strip at a place.
* GRID: `count color dx dy` paints a strip at a distance from the last painted cell.
* MAZE: `ruota quarters` turns the turtle, `muovi steps` moves it.
* MATRIX: `+` or `-` and a row 1 to 8 or a column A to H.
-/

namespace Mosaic
namespace Program

def problem (line : Int) (cause : Cause) : Fault := .program ⟨line, cause⟩

def isNumber (cs : List Char) : Bool := !cs.isEmpty && cs.all Text.isDecimal

def isSignedNumber (cs : List Char) : Bool := isNumber (Text.splitSign cs).2

def number (cs : List Char) : Except Fault Nat := (Text.readDigits cs).mapError .numeral

def signedNumber (cs : List Char) : Except Fault Int := do
  let (negative, digits) := Text.splitSign cs
  return Text.signed negative (<- number digits)

def primary? : List Char -> Option Color
  | [c] => Color.ofPrimary? c.toUpper
  | _ => none

def declaration? (cs : List Char) : Option (List Char × List Char) :=
  let rows := cs.takeWhile Text.isDecimal
  match (cs.dropWhile Text.isDecimal).dropWhile Text.isBlank with
  | '#' :: rest =>
      let columns := rest.dropWhile Text.isBlank
      if !rows.isEmpty && isNumber columns then some (rows, columns) else none
  | _ => none

def declare (line : Int) (rows columns : List Char) : Except Fault Primitive := do
  let height <- number rows
  let width <- number columns
  if height < 1 || width < 1 then throw (problem line .sizeNotPositive)
  return .declare height width

def tableLine (line : Int) (cs : List Char) : Except Fault Primitive :=
  match declaration? cs with
  | some (rows, columns) => declare line rows columns
  | none =>
      match Text.words cs with
      | [count, letter, row, column] =>
          match primary? letter with
          | some color =>
              if isNumber count && isNumber row && isNumber column then do
                return .strip (<- number count) color (<- number row) (<- number column)
              else throw (problem line .invalidFormat)
          | none => throw (problem line .invalidFormat)
      | _ => throw (problem line .invalidFormat)

def gridLine (line : Int) (cs : List Char) : Except Fault Primitive :=
  match declaration? cs with
  | some (rows, columns) => declare line rows columns
  | none =>
      match Text.words cs with
      | [count, letter, dx, dy] =>
          match primary? letter with
          | some color =>
              if isNumber count && isSignedNumber dx && isSignedNumber dy then do
                return .shifted (<- number count) color (<- signedNumber dx) (<- signedNumber dy)
              else throw (problem line .invalidFormat)
          | none => throw (problem line .invalidFormat)
      | _ => throw (problem line .invalidFormat)

def quarters? : List Char -> Option Nat
  | ['1'] => some 1
  | ['2'] => some 2
  | ['3'] => some 3
  | _ => none

def turnWord : List Char := ['r', 'u', 'o', 't', 'a']

def moveWord : List Char := ['m', 'u', 'o', 'v', 'i']

def mazeLine (line : Int) (cs : List Char) : Except Fault Primitive :=
  match Text.words cs with
  | [word, amount] =>
      if Text.isKeyword turnWord word then
        match quarters? amount with
        | some quarters => .ok (.turn quarters)
        | none => throw (problem line .invalidMazeCommand)
      else if Text.isKeyword moveWord word && isNumber amount then do
        return .advance (<- number amount)
      else throw (problem line .invalidMazeCommand)
  | _ => throw (problem line .invalidMazeCommand)

/-- The lamps that a row digit or a column letter addresses. -/
def lamps? (c : Char) : Option (Axis × Nat) :=
  if '1' ≤ c && c ≤ '8' then some (.row, c.toNat - '1'.toNat)
  else if 'A' ≤ c.toUpper && c.toUpper ≤ 'H' then some (.column, c.toUpper.toNat - 'A'.toNat)
  else none

def switchesOn? : Char -> Option Bool
  | '+' => some true
  | '-' => some false
  | _ => none

def matrixLine (line : Int) (cs : List Char) : Except Fault Primitive :=
  match cs with
  | sign :: rest =>
      match switchesOn? sign, rest.dropWhile Text.isBlank with
      | some on, [c] =>
          match lamps? c with
          | some (axis, index) => .ok (.switch on axis index)
          | none => throw (problem line .invalidMatrixCommand)
      | _, _ => throw (problem line .invalidMatrixCommand)
  | [] => throw (problem line .invalidMatrixCommand)

end Program
end Mosaic
