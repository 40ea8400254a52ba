import Mosaic.Run.Replay

/-!
# Stepping through a run

A run is loaded, stepped through line by line, stopped, and rewound.  Each of these takes a run to a
run.  A problem of the program becomes part of the run; what is left over as a fault is the caller's
doing, or a number beyond all bounds.
-/

namespace Mosaic
namespace Run

def rewound (run : Run) (size : Option (Nat × Nat)) : Run :=
  { run with
    counter := 0
    grid := Program.initialGrid run.mode size
    anchor := (0, 0)
    movements := 0
    mazeScore := 0
    cursor := (0, 0)
    line := none
    isRunning := false
    error := none
    outcome := .idle
    maze := run.maze.map Maze.fresh }

def start (mode : Mode) (maze : Option Maze) : Run :=
  { empty mode with maze := maze }.rewound mode.fixedSize

def withProgram (run : Run) (program : Program) : Run :=
  { run with source := program.source, commands := program.commands }.rewound program.size

/-- The run with a text loaded.  A text with a problem leaves the run as it was, apart from the
problem.  As a target, the text also replaces the target grid by what it draws. -/
def load (run : Run) (source : String) (asTarget : Bool) : Except Fault Run :=
  match Program.load run.mode source with
  | .error (.program problem) => .ok { run with error := some problem, isRunning := false }
  | .error fault => .error fault
  | .ok program =>
      let loaded := run.withProgram program
      if asTarget && run.mode != .maze then do
        return { loaded with target := <- program.replay, targetCode := some source }
      else .ok loaded

theorem load_of_program {run : Run} {source : String} {program : Program}
    (h : Program.load run.mode source = .ok program) :
    run.load source false = .ok (run.withProgram program) := by
  unfold load
  rw [h]
  rfl

/-- The size that the commands of a run declare, or the fixed one of its mode. -/
def declaredSize (run : Run) : Option (Nat × Nat) :=
  (run.commands.findSome? fun command =>
    match command.action with
    | .declare rows columns => some (rows, columns)
    | _ => none).or run.mode.fixedSize

def reset (run : Run) (maze : Option Maze) : Run :=
  { run with maze := maze.or run.maze }.rewound run.declaredSize

/-- A run whose commands are all carried out: it has succeeded if it shows its target. -/
def finished (run : Run) : Run :=
  let reached := run.mode != .maze && run.target.isSome && run.grid == run.target
  { run with isRunning := false, outcome := if reached then .success else run.outcome }

def passDeclarations (run : Run) : List Command -> Except Fault Run
  | [] => .ok run
  | command :: rest =>
      if command.action.isDeclaration then
        let carried := run.applyCommand command
        match carried.fault with
        | some fault => .error fault
        | none => passDeclarations { carried.run with counter := carried.run.counter + 1 } rest
      else .ok run

/-- The commands of a batch carried out, the first of them at the counter.  A problem stops the run
at its command, and leaving the maze stops it behind the command. -/
def runBatch (run : Run) : List Command -> Except Fault Run
  | [] => .ok run
  | command :: rest =>
      let carried := run.applyCommand command
      match carried.fault with
      | some (.program problem) =>
          .ok { carried.run with error := some problem, outcome := .failure, isRunning := false }
      | some fault => .error fault
      | none =>
          let next := { carried.run with counter := carried.run.counter + 1 }
          if next.outcome = .success then .ok { next with isRunning := false } else runBatch next rest

/-- The commands of the next line carried out.  A halted run stays as it is. -/
def step (run : Run) : Except Fault Run :=
  if run.isHalted then .ok { run with isRunning := false }
  else do
    let ahead := run.commands.drop run.counter
    let ready <- run.passDeclarations ahead
    match ahead.dropWhile fun command => command.action.isDeclaration with
    | [] => return ready.finished
    | first :: rest =>
        let batch := (first :: rest).take (Program.batchLength (first :: rest))
        let after <- (ready.enterLine first.line).runBatch batch
        return if !after.isHalted && after.isFinished then after.finished else after

def resumed (run : Run) : Run := { run with isRunning := !run.isHalted && !run.isFinished }

def stopped (run : Run) : Run := { run with isRunning := false }

def stepWhileRunning : Nat -> Run -> Except Fault Run
  | 0, run => .ok run
  | steps + 1, run =>
      if run.isRunning then do stepWhileRunning steps (<- run.step) else .ok run

def defaultSteps : Int := 10000

/-- The run carried on until it ends or halts, or until it has taken a number of steps. -/
def runToHalt (run : Run) (maxSteps : Int) : Except Fault Run :=
  if maxSteps ≤ 0 then .error .stepsNotPositive
  else do return (<- stepWhileRunning maxSteps.toNat run.resumed).stopped

end Run
end Mosaic
