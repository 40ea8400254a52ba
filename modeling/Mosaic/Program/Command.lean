import Mosaic.Color
import Mosaic.Mode

/-!
# Commands

A primitive does one thing to a run, and a command is a primitive with the line it comes from.  An
operation is a command or a loop over operations, with its line as well; loops are written in the
screen language only, and a loaded program holds none: it is a stream of commands.
-/

namespace Mosaic

inductive Axis
  | row
  | column
  deriving DecidableEq, Repr, Inhabited

/-- What a program can do in one go. -/
inductive Primitive
  | declare (rows columns : Nat)
  | strip (count : Nat) (color : Color) (row column : Nat)
  | shifted (count : Nat) (color : Color) (dx dy : Int)
  | turn (quarters : Nat)
  | advance (steps : Nat)
  | switch (on : Bool) (axis : Axis) (index : Nat)
  | paint (color : Color)
  | erase
  deriving DecidableEq, Repr, Inhabited

namespace Primitive

def isDeclaration : Primitive -> Bool
  | declare _ _ => true
  | _ => false

end Primitive

/-- A primitive on the line, counted from 0, that it comes from. -/
structure Command where
  line : Int
  action : Primitive
  deriving DecidableEq, Repr, Inhabited

/-- What a line of a program asks for: a command, or a row of operations several times over. -/
inductive Op
  | once (command : Command)
  | loop (line : Int) (count : Nat) (body : List Op)
  deriving Repr, Inhabited

end Mosaic
