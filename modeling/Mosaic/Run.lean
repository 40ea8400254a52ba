import Mosaic.Maze
import Mosaic.Program.Loading

/-!
# Runs

A run is everything that a program and its picture consist of at one moment: the program and how far
it has come, the grid it paints, the grid it should paint, the maze, and how the run ended if it did.

The anchor is the cell that TABLE and GRID painted last, and the cursor is where PIXEL paints next;
both may lie outside the grid.
-/

namespace Mosaic

inductive Outcome
  | idle
  | success
  | failure
  deriving DecidableEq, Repr, Inhabited

namespace Outcome

def name : Outcome -> String
  | idle => "idle"
  | success => "success"
  | failure => "failure"

end Outcome

structure Run where
  mode : Mode
  source : String
  commands : List Command
  counter : Nat
  grid : Option Grid
  target : Option Grid
  targetCode : Option String
  maze : Option Maze
  anchor : Int × Int
  movements : Nat
  mazeScore : Int
  cursor : Int × Int
  line : Option Int
  isRunning : Bool
  error : Option Problem
  outcome : Outcome
  deriving Repr, Inhabited

namespace Run

def empty (mode : Mode) : Run where
  mode := mode
  source := ""
  commands := []
  counter := 0
  grid := none
  target := none
  targetCode := none
  maze := none
  anchor := (0, 0)
  movements := 0
  mazeScore := 0
  cursor := (0, 0)
  line := none
  isRunning := false
  error := none
  outcome := .idle

def isFinished (run : Run) : Bool := (run.commands.drop run.counter).isEmpty

def isHalted (run : Run) : Bool := run.error.isSome || run.outcome != .idle

end Run
end Mosaic
