import Mosaic.Catalogue
import Mosaic.Maze.Session
import Mosaic.Run.Stepping
import Mosaic.Score

/-!
# Evaluating programs

A program is run against the goal of a record.  It is correct if it reaches the best score without a
problem, and in a maze also has to leave through the exit.
-/

namespace Mosaic

structure Verdict where
  id : String
  mode : Mode
  score : Score
  best : Score
  isCorrect : Bool
  outcome : Outcome
  error : Option Problem
  movements : Nat
  grid : Option Grid
  deriving Repr, Inhabited

namespace Verdict

def toFields (verdict : Verdict) : List (String × Document) := [
  ("puzzle_id", .text verdict.id),
  ("mode", .text verdict.mode.name),
  ("score", verdict.score.toDocument),
  ("max_score", verdict.best.toDocument),
  ("is_correct", .bool verdict.isCorrect),
  ("completion_status", .text verdict.outcome.name),
  ("error", (verdict.error.map Problem.message).elim .null .text),
  ("total_movements", .whole verdict.movements),
  ("final_grid", verdict.grid.elim .null Grid.toDocument)]

end Verdict

namespace Evaluation

def setUp (record : GoalRecord) : Except Fault Run := do
  let mode <- Mode.ofDocument ((Document.field? record "mode").getD (.text ""))
  if mode = .maze then
    match Document.field? record "maze" with
    | some value => return Run.start mode (some (<- Maze.ofDocument value))
    | none => throw (.goal .mazeNotRecorded)
  else
    match Document.field? record "target_grid" with
    | some value => return { Run.start mode none with target := some (<- Grid.ofDocument value) }
    | none => throw (.goal .targetNotRecorded)

/-- The run of a program that was set up, until it halts.  A program with a problem is not run, and
then the number of steps is not asked for. -/
def runThrough (prepared : Run) (program : String) (maxSteps : Except Fault Int) :
    Except Fault Run := do
  let loaded <- prepared.load program false
  if loaded.error.isNone then loaded.runToHalt (<- maxSteps) else return loaded

def judge (id : String) (final : Run) : Verdict where
  id := id
  mode := final.mode
  score := Score.ofRun final
  best := Score.bestOfRun final
  isCorrect :=
    final.error.isNone && (Score.bestOfRun final).atMost (Score.ofRun final) &&
      (final.mode != .maze || final.outcome == .success)
  outcome := final.outcome
  error := final.error
  movements := final.movements
  grid := final.grid

def programText (folder : Folder) (path : Path) : Except Fault String := do
  if <- folder.has path then folder.readText path
  else throw (.goal (.programMissing path.text))

/-- A program, which is given as a file or as a text; a file counts for more. -/
def programOf (folder : Folder) (program : Option String) (file : Option Path) :
    Except Fault String :=
  match file, program with
  | some path, _ => programText folder path
  | none, some text => .ok text
  | none, none => .error (.goal .programNotGiven)

def verdict (id : String) (record : GoalRecord) (program : String) (maxSteps : Except Fault Int) :
    Except Fault Verdict := do
  return judge id (<- runThrough (<- setUp record) program maxSteps)

end Evaluation
end Mosaic
