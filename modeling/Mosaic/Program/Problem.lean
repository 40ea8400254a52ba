import Mosaic.Text.Numeral

/-!
# Problems of a program

A program can be refused while it is read, because a line fits no production or because two lines
do not fit together, and it can fail while it runs.  A problem names its line, counted from 0, and
its cause; the text of a problem counts lines from 1.
-/

namespace Mosaic

inductive ProblemKind
  | general
  | grammar
  | structural
  | running
  | collision
  deriving DecidableEq, Repr, Inhabited

namespace ProblemKind

def heading : ProblemKind -> String
  | general => "Error"
  | grammar => "Syntax Error"
  | structural => "Error"
  | running => "Runtime Error"
  | collision => "Runtime Error"

def isRunning : ProblemKind -> Bool
  | running => true
  | collision => true
  | _ => false

/-- The text of a problem with a given detail, on a given line if it has one.  There is no text for a
line whose number is too long to write. -/
def report (kind : ProblemKind) (line : Option Int) (detail : String) :
    Except Text.NumeralFault String := do
  match line with
  | none => return kind.heading ++ ": " ++ detail
  | some n =>
      return kind.heading ++ " on line " ++ (<- Text.writeWhole (n + 1)) ++ ": " ++ detail

end ProblemKind

inductive Cause
  | invalidFormat
  | sizeNotPositive
  | invalidMazeCommand
  | invalidMatrixCommand
  | unbalanced
  | unexpectedCharacter (text : List Char)
  | missingStar
  | missingOpening
  | missingClosing
  | emptyLoop
  | unexpectedToken (text : List Char)
  | unknownWord (text : List Char)
  | secondDeclaration
  | declarationTooLarge
  | paintBeforeDeclaration
  | noTable
  | rowOutside (row : Int)
  | columnOutside (column : Int)
  | stripTooLong
  | noMaze
  | wallAhead (row column : Nat)
  | noMatrix
  | noScreen
  deriving DecidableEq, Repr

namespace Cause

def kind : Cause -> ProblemKind
  | invalidFormat => .grammar
  | sizeNotPositive => .grammar
  | invalidMazeCommand => .grammar
  | invalidMatrixCommand => .grammar
  | unbalanced => .grammar
  | unexpectedCharacter _ => .grammar
  | missingStar => .grammar
  | missingOpening => .grammar
  | missingClosing => .grammar
  | emptyLoop => .grammar
  | unexpectedToken _ => .grammar
  | unknownWord _ => .grammar
  | secondDeclaration => .structural
  | declarationTooLarge => .structural
  | paintBeforeDeclaration => .structural
  | noTable => .running
  | rowOutside _ => .running
  | columnOutside _ => .running
  | stripTooLong => .running
  | noMaze => .running
  | wallAhead _ _ => .collision
  | noMatrix => .running
  | noScreen => .running

def detail : Cause -> String
  | invalidFormat => "Invalid command format."
  | sizeNotPositive => "Table dimensions must be positive."
  | invalidMazeCommand => "Invalid maze command (use 'ruota 1|2|3' or 'muovi n')."
  | invalidMatrixCommand => "Invalid matrix command (use '+|- 1-8' or '+|- A-H')."
  | unbalanced => "Unbalanced parentheses."
  | unexpectedCharacter text => "Unexpected character '" ++ String.ofList text ++ "'."
  | missingStar => "Expected '*' after loop count."
  | missingOpening => "Expected '(' to open loop body."
  | missingClosing => "Expected ')' to close loop body."
  | emptyLoop => "Empty loop body."
  | unexpectedToken text => "Unexpected '" ++ String.ofList text ++ "'."
  | unknownWord text => "Unknown token '" ++ String.ofList text ++ "'."
  | secondDeclaration => "Multiple definition of table dimensions."
  | declarationTooLarge => "Table dimensions exceed max 16x16."
  | paintBeforeDeclaration => "Color command before table definition."
  | noTable => "Table not defined."
  | rowOutside row => "Row " ++ toString row ++ " out of bounds."
  | columnOutside column => "Column " ++ toString column ++ " out of bounds."
  | stripTooLong => "Filling exceeds column bounds."
  | noMaze => "Maze not initialized."
  | wallAhead row column =>
      "Collision with a wall at row " ++ toString row ++ ", column " ++ toString column ++ "."
  | noMatrix => "Matrix not initialized."
  | noScreen => "Screen not initialized."

end Cause

/-- A problem of a program: its line, counted from 0, and its cause. -/
structure Problem where
  line : Int
  cause : Cause
  deriving DecidableEq, Repr

namespace Problem

/-- The text of a problem, if its line has a number that can be written. -/
def report (problem : Problem) : Except Text.NumeralFault String :=
  problem.cause.kind.report (some problem.line) problem.cause.detail

def message (problem : Problem) : String :=
  match problem.report with
  | .ok text => text
  | .error fault => fault.message

def isRunning (problem : Problem) : Bool := problem.cause.kind.isRunning

end Problem
end Mosaic
