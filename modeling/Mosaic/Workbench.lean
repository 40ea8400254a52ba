import Mosaic.Challenge
import Mosaic.Goal
import Mosaic.Maze.Session
import Mosaic.Run.Stepping
import Mosaic.Score
import Mosaic.Settings

/-!
# The workbench

A workbench holds one run, the text in the editor, the clock of the challenges and a source of
chance.  Its operations load and run programs, pick goals, and time challenges; while a challenge is
active the mode, the goal and the maze session may not be exchanged by asking for it.

An operation may be refused after it has changed something, so an operation gives the workbench
afterwards in any case, and a fault or a result.
-/

namespace Mosaic

/-- Everything a student works with. -/
structure Workbench (σ : Type) where
  settings : Settings
  chance : σ
  challenge : Challenge
  source : String
  run : Run

/-- An operation of a workbench: the workbench afterwards is there in any case. -/
abbrev Operation (σ : Type) (α : Type) : Type := ExceptT Fault (StateM (Workbench σ)) α

namespace Workbench

variable {σ : Type} [RandomSource σ]

def drawRun (mode : Mode) : Draw σ Run :=
  if mode = .maze then do return Run.start mode (some (<- Maze.generateUsual))
  else pure (Run.start mode none)

def create (settings : Settings) (chance : σ) (mode : Mode) : Except Fault (Workbench σ) := do
  let challenge <- Challenge.create settings.lockout
  let (run, after) := drawRun mode chance
  return { settings, chance := after, challenge, source := "", run }

def drawing {α : Type} (draw : Draw σ α) : Operation σ α := do
  let (drawn, after) := draw (<- get).chance
  modify fun bench => { bench with chance := after }
  return drawn

/-- A step that gives a result or a fault and changes nothing. -/
def attempt {α : Type} (result : Except Fault α) : Operation σ α :=
  match result with
  | .ok value => pure value
  | .error fault => throw fault

def setRun (run : Run) : Operation σ Unit := modify fun bench => { bench with run }

def changeRun (change : Run -> Except Fault Run) : Operation σ Run := do
  let run <- attempt (change (<- get).run)
  setRun run
  return run

/-!
## Running programs
-/

def setSource (source : String) : Operation σ Unit := modify fun bench => { bench with source }

/-- The text in the editor loaded, after another text has been put there if one is given. -/
def load (source : Option String) (asTarget : Bool) : Operation σ Run := do
  if let some text := source then setSource text
  let text := (<- get).source
  changeRun fun run => run.load text asTarget

def step : Operation σ Run := changeRun Run.step

def resume : Operation σ Run := changeRun fun run => .ok run.resumed

def stop : Operation σ Run := changeRun fun run => .ok run.stopped

/-- The run back at its start, in a new maze if one is asked for and the mode has mazes. -/
def reset (newMaze : Bool) : Operation σ Run := do
  if newMaze && (<- get).run.mode = .maze then
    let maze <- drawing Maze.generateUsual
    changeRun fun run => .ok (run.reset (some maze))
  else changeRun fun run => .ok (run.reset none)

def runToHalt (maxSteps : Int) : Operation σ Run := changeRun fun run => run.runToHalt maxSteps

/-!
## Modes and goals
-/

/-- Nothing of this kind is allowed during a challenge. -/
def forbidDuringChallenge (action : String) : Operation σ Unit := do
  if (<- get).challenge.active then throw (.challenge (.forbidden action))

def setMode (mode : Document) : Operation σ Run := do
  forbidDuringChallenge "change mode"
  setSource ""
  let mode <- attempt (Mode.ofDocument mode)
  setRun (<- drawing (drawRun mode))
  return (<- get).run

/-- A target grid has the size of the mode, if the mode has one. -/
def checkTargetSize (mode : Mode) (target : Option Grid) : Except Fault Unit :=
  match target, mode.fixedSize with
  | some grid, some (rows, columns) =>
      if grid.shape = (rows, columns) then .ok ()
      else .error (.goal (.targetSize mode rows columns))
  | _, _ => .ok ()

def putTarget (target : Option Grid) (code : Option String) : Operation σ Run := do
  let run := (<- get).run
  attempt (checkTargetSize run.mode target)
  changeRun fun run => .ok { run with target, targetCode := code }

/-- The target that a document holds; null takes the target away. -/
def setTarget (target : Document) (code : Option String) : Operation σ Run := do
  if (<- get).run.mode = .maze then throw (.goal .mazeHasNoTarget)
  match target with
  | .null => putTarget none code
  | value => putTarget (some (<- attempt (Grid.ofDocument value))) code

def applyGoal (goal : Goal) : Operation σ Unit := do
  match goal.maze with
  | some maze => discard (changeRun fun run => .ok (run.reset (some maze)))
  | none => discard (putTarget goal.grid goal.code)

def newGoal : Operation σ Run := do
  forbidDuringChallenge "pick a new goal"
  let mode := (<- get).run.mode
  let goal <- attempt (<- drawing (Goal.draw mode))
  applyGoal goal
  return (<- get).run

/-!
## Challenges
-/

def timing {α : Type} (operation : Timing α) : Operation σ α := do
  let (result, challenge) := operation.run (<- get).challenge
  modify fun bench => { bench with challenge }
  attempt result

def startChallenge : Operation σ Goal := do
  let bench <- get
  attempt bench.challenge.checkReady
  let goal <- attempt (<- drawing
    (Goal.drawChallenge bench.run.mode bench.settings.secondsPerRow bench.settings.mazeBudget))
  applyGoal goal
  timing (Challenge.start (goal.budget.getD 0))
  return goal

def stopChallenge : Operation σ Unit := do
  modify fun bench => { bench with challenge := bench.challenge.stop, run := bench.run.stopped }

def tick : Operation σ Bool := do
  let (expired, clock) := (<- get).challenge.tick
  modify fun bench =>
    { bench with challenge := clock, run := if expired then bench.run.stopped else bench.run }
  return expired

/-!
## Maze sessions and reports
-/

def saveSession : Operation σ String := do
  let bench <- get
  match bench.run.mode, bench.run.maze with
  | .maze, some maze => return Maze.saveSession bench.source maze
  | _, _ => throw (.goal .notAMazeSession)

/-- A saved session: its program is loaded, and then its maze put in place as it was. -/
def restoreSession (text : String) : Operation σ Run := do
  forbidDuringChallenge "restore a maze session"
  let (code, maze) <- attempt (Maze.loadSession text)
  if (<- get).run.mode != .maze then setRun (Run.start .maze (some maze))
  setSource code
  discard (changeRun fun run => run.load code false)
  changeRun fun run => .ok { run with maze := some maze, mazeScore := maze.collectedValue }

def score (bench : Workbench σ) : Score := Score.ofRun bench.run

def bestScore (bench : Workbench σ) : Score := Score.bestOfRun bench.run

def textOrNull (text : Option String) : Document := text.elim .null .text

def reportFields (bench : Workbench σ) : List (String × Document) := [
  ("mode", .text bench.run.mode.name),
  ("score", bench.score.toDocument),
  ("max_score", bench.bestScore.toDocument),
  ("total_movements", .whole bench.run.movements),
  ("completion_status", .text bench.run.outcome.name),
  ("error", textOrNull (bench.run.error.map Problem.message)),
  ("program", .text bench.source),
  ("challenge_active", .bool bench.challenge.active),
  ("time_left", .whole bench.challenge.timeLeft)]

end Workbench
end Mosaic
