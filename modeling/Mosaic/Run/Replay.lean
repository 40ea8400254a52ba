import Mosaic.Run.Execution

/-!
# Replaying a program

The commands of a program come in batches, one for each line that has any.  A replay carries out all
of them on an empty picture and leaves out each command that fails, without any trace of it in the
grid, the anchor and the cursor.  The grid that remains is what the program draws as a target.
-/

namespace Mosaic

namespace Program

def batchLength : List Command -> Nat
  | [] => 0
  | first :: rest => 1 + (rest.takeWhile fun command => command.line == first.line).length

/-- The batches of a stream as intervals of indices, from a first index on. -/
def batchesFrom (start : Nat) (commands : List Command) : List (Nat × Nat) :=
  match commands with
  | [] => []
  | first :: rest =>
      let sameLine := rest.takeWhile fun command => command.line == first.line
      let stop := start + 1 + sameLine.length
      (start, stop) :: batchesFrom stop (rest.dropWhile fun command => command.line == first.line)
termination_by commands.length
decreasing_by
  simp only [List.length_cons]
  exact Nat.lt_succ_of_le (List.dropWhile_sublist _).length_le

def batches (commands : List Command) : List (Nat × Nat) := batchesFrom 0 commands

end Program

namespace Run

def enterLineOf (run : Run) (command : Command) : Run :=
  if run.line = some command.line then run else run.enterLine command.line

/-- A command of a replay.  One that fails with a problem of its own leaves no trace; any other fault
ends the replay. -/
def replayCommand (run : Run) (command : Command) : Except Fault Run :=
  let entered := run.enterLineOf command
  let carried := entered.applyCommand command
  match carried.fault with
  | none => .ok carried.run
  | some (.program _) =>
      .ok { carried.run with grid := entered.grid, anchor := entered.anchor, cursor := entered.cursor }
  | some fault => .error fault

end Run

namespace Program

def blankRun (program : Program) : Run :=
  { Run.empty program.mode with
    commands := program.commands
    grid := initialGrid program.mode program.size }

/-- The grid that a program draws when its failing commands are left out. -/
def replay (program : Program) : Except Fault (Option Grid) :=
  if program.mode = .maze then .ok none
  else do
    let final <- program.commands.foldlM Run.replayCommand program.blankRun
    return final.grid

end Program
end Mosaic
