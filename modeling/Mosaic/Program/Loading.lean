import Mosaic.Grid
import Mosaic.Program.Expansion
import Mosaic.Program.Parsing
import Mosaic.Text.Lines

/-!
# Loaded programs

A program text is loaded line by line.  In TABLE and GRID the first command declares the size, at
most 16 by 16, and no later one does.  A screen line is written out as far as it fills a row of the
screen.  Loading stops at the first line with a fault.
-/

namespace Mosaic

/-- A program that is ready to run: its stream of commands, and the size of its grid if it has one. -/
structure Program where
  mode : Mode
  source : String
  commands : List Command
  size : Option (Nat × Nat)
  deriving Repr, Inhabited

namespace Program

def maxRows : Nat := 16

def maxColumns : Nat := 16

def screenWidth : Nat := 16

/-- The size behind a command of a mode with declarations, or the rule that the command breaks. -/
def sizeAfter (line : Int) (size : Option (Nat × Nat)) (action : Primitive) :
    Except Fault (Option (Nat × Nat)) :=
  match action, size with
  | .declare _ _, some _ => .error (problem line .secondDeclaration)
  | .declare rows columns, none =>
      if maxRows < rows || maxColumns < columns then .error (problem line .declarationTooLarge)
      else .ok (some (rows, columns))
  | _, some extent => .ok (some extent)
  | _, none => .error (problem line .paintBeforeDeclaration)

def loadLine (mode : Mode) (line : Int) (size : Option (Nat × Nat)) (cs : List Char) :
    Except Fault (List Command × Option (Nat × Nat)) := do
  let ops <- parseLine mode line cs
  if mode = .pixel then return (Op.expandAllUpTo screenWidth ops, size)
  let commands := Op.expandAll ops
  if mode.declaresSize then
    return (commands, <- (commands.map Command.action).foldlM (sizeAfter line) size)
  return (commands, size)

def loadLines (mode : Mode) (line : Int) (size : Option (Nat × Nat)) :
    List (List Char) -> Except Fault (List Command × Option (Nat × Nat))
  | [] => .ok ([], size)
  | cs :: rest => do
      let (commands, extent) <- loadLine mode line size cs
      let (others, final) <- loadLines mode (line + 1) extent rest
      return (commands ++ others, final)

def load (mode : Mode) (source : String) : Except Fault Program := do
  let (commands, size) <- loadLines mode 0 mode.fixedSize (Text.lines source.toList)
  return { mode, source, commands, size }

def lineCount (program : Program) : Nat := (program.commands.map Command.line).eraseDups.length

/-- What the grid shows before the first command: nothing in MAZE or without a declared size, and
else unlit cells. -/
def initialGrid (mode : Mode) (size : Option (Nat × Nat)) : Option Grid :=
  if mode = .maze then none else size.map fun extent => Grid.blank extent.1 extent.2

end Program
end Mosaic
