import Mosaic.CommandLine.Arguments
import Mosaic.Evaluation
import Mosaic.Press
import Mosaic.Random.Twister
import Mosaic.Workbench

/-!
# The commands

There are four commands: one runs a program file, one scores a program against a goal, one prints
goals of any mode, and one prints mazes of any size.  A command works on a folder and gives what it
prints, the fault that ended it if there was one, and the folder afterwards.

Where a seed is not given, the command starts from a seed that its caller supplies, and new records
are named from a supply of names.
-/

namespace Mosaic
namespace CommandLine

structure Report where
  output : String
  remarks : String
  fault : Option Fault
  folder : Folder

structure Setting where
  folder : Folder
  environment : Settings.Environment
  seed : Int
  names : Nat -> String

def failed (setting : Setting) (fault : Fault) : Report := ⟨"", "", some fault, setting.folder⟩

def exited (setting : Setting) (code : Nat) : Report := failed setting (.exit (toString code))

def printed (setting : Setting) (fields : List (String × Document)) (remarks : String) : Report :=
  ⟨Document.write (.record fields) ++ "\n", remarks, none, setting.folder⟩

def sourceFor (setting : Setting) (values : Values) : Except Fault Twister := do
  return Twister.ofSeed (<- values.wholeOr "--seed" setting.seed)

/-!
## Running a program
-/

def runSignature : Signature where
  places := [("program", .text)]
  options := [("--mode", some .text), ("--target", some .text), ("--seed", some .whole),
    ("--max-steps", some .whole), ("--show-grid", none), ("--verbose", none)]

def runDocument (run : Run) : Document :=
  .record [
    ("mode", .text run.mode.name),
    ("pc", .whole run.counter),
    ("command_count", .whole run.commands.length),
    ("current_grid", run.grid.elim .null Grid.toDocument),
    ("target_grid", run.target.elim .null Grid.toDocument),
    ("maze", run.maze.elim .null Maze.toDocument),
    ("last_position", .list [.whole run.anchor.1, .whole run.anchor.2]),
    ("total_movements", .whole run.movements),
    ("maze_score", .whole run.mazeScore),
    ("is_running", .bool run.isRunning),
    ("error", (run.error.map Problem.message).elim .null .text),
    ("completion_status", .text run.outcome.name)]

def chosenMode (values : Values) (path : Path) : Except Fault Mode :=
  match values.named.lookup "--mode" with
  | some (.text name) => if name = "" then implied else Mode.ofText name
  | _ => implied
where
  implied : Except Fault Mode :=
    match Mode.ofPath? path with
    | some mode => .ok mode
    | none => .error (.exit
        ("Cannot infer mode from " ++ String.ofList path.name ++ "; pass --mode"))

def looksSaved (text : String) : Bool := (Text.trimLeft text.toList).head? == some '\x7b'

/-- A text loaded, as a saved session if it is one and the mode has them, and run until it halts.  The
number of steps is not asked for before the text is loaded. -/
def runText (text : String) (maxSteps : Except Fault Int) : Operation Twister Run := do
  if (<- get).run.mode = .maze && looksSaved text then discard (Workbench.restoreSession text)
  else discard (Workbench.load (some text) false)
  let loaded := (<- get).run
  if loaded.error.isNone then Workbench.runToHalt (<- Workbench.attempt maxSteps) else return loaded

def useTarget (folder : Folder) (target : Option Value) : Operation Twister Unit := do
  match target with
  | none => pure ()
  | some (.text file) =>
      let value <- Workbench.attempt (Catalogue.readDocument folder (Path.ofText file))
      discard (Workbench.setTarget value none)
  | some _ => throw .absent

def runFile (folder : Folder) (path : Path) (values : Values) : Operation Twister Run := do
  useTarget folder (values.named.lookup "--target")
  let text <- Workbench.attempt (folder.readText path)
  runText text (values.wholeOr "--max-steps" Run.defaultSteps)

def benchFor (setting : Setting) (values : Values) (path : Path) :
    Except Fault (Workbench Twister) := do
  if !(<- setting.folder.has path) then throw (.exit ("Program not found: " ++ path.text))
  let mode <- chosenMode values path
  let settings <- Settings.make setting.environment Settings.Given.nothing
  Workbench.create settings (<- sourceFor setting values) mode

def carriedRun (setting : Setting) (values : Values) : Except Fault (Run × Workbench Twister) := do
  let path <- values.path "program"
  let bench <- benchFor setting values path
  let (result, after) := (runFile setting.folder path values).run bench
  return (<- result, after)

def run (setting : Setting) (arguments : List String) : Report :=
  match read runSignature arguments with
  | .error code => exited setting code
  | .ok values =>
      match carriedRun setting values with
      | .error fault => failed setting fault
      | .ok (final, after) =>
          let remarks := match values.has "--show-grid", final.grid with
            | true, some grid => String.ofList grid.text ++ "\n"
            | _, _ => ""
          printed setting (after.reportFields ++ [("state", runDocument final)]) remarks

/-!
## Scoring a program
-/

def evaluateSignature : Signature where
  places := [("metadata", .text), ("puzzle_id", .text), ("program", .text)]
  options := [("--max-steps", some .whole)]

def verdictFor (folder : Folder) (values : Values) : Except Fault Verdict := do
  let index <- Catalogue.openIndex folder (<- values.path "metadata")
  let id <- values.textOr "puzzle_id" ""
  let record <- Catalogue.find index id
  let program <- Evaluation.programText folder (<- values.path "program")
  Evaluation.verdict id record program (values.wholeOr "--max-steps" Run.defaultSteps)

def evaluate (setting : Setting) (arguments : List String) : Report :=
  match read evaluateSignature arguments with
  | .error code => exited setting code
  | .ok values =>
      match verdictFor setting.folder values with
      | .error fault => failed setting fault
      | .ok verdict => printed setting verdict.toFields ""

/-!
## Printing goals
-/

def generateSignature : Signature where
  places := [("mode", .text), ("count", .whole)]
  options := [("--output-dir", some .text), ("--challenge", none), ("--cell-size", some .whole),
    ("--seconds-per-row", some .whole), ("--seed", some .whole), ("--verbose", none)]

def mazeSignature : Signature where
  places := [("count", .whole)]
  options := [("--output-dir", some .text), ("--rows", some .whole), ("--cols", some .whole),
    ("--cell-size", some .whole), ("--seed", some .whole)]

def goalHome : String := "data/targets"

def mazeHome : String := "data/maze"

def homeFor (values : Values) (usual : String) : Except Fault Path := do
  return Path.ofText (<- values.textOr "--output-dir" usual)

def cellSizeFor (values : Values) : Except Fault Int :=
  values.wholeOr "--cell-size" Picture.usualCellSize

def countFor (values : Values) : Except Fault Nat := do
  return (max 1 (<- values.wholeOr "count" 1)).toNat

def paceFor (values : Values) : Option Int :=
  (values.wholeOr "--seconds-per-row" Settings.usualSecondsPerRow).toOption

def goalPlan (values : Values) (mode : Mode) (home : Path) : Except Fault PressPlan := do
  PressPlan.forGoals home mode (values.has "--challenge") (<- cellSizeFor values) (paceFor values)

def mazePlan (values : Values) (home : Path) : Except Fault PressPlan := do
  let rows <- values.wholeOr "--rows" Maze.usualSize
  PressPlan.checkExtent rows
  let columns <- values.wholeOr "--cols" Maze.usualSize
  PressPlan.checkExtent columns
  PressPlan.forMazes home rows columns (<- cellSizeFor values)

def filed {α : Type} (setting : Setting) (operation : Filing α) (remark : α -> String) : Report :=
  match operation.run setting.folder with
  | (.error fault, after) => ⟨"", "", some fault, after⟩
  | (.ok value, after) => ⟨remark value, "", none, after⟩

section

variable {Image : Type} (easel : Easel Image)

/-- A press set up and put to work; gives the path of the catalogue and the number of new records. -/
def pressed (setting : Setting) (values : Values) (usual : String)
    (plan : Path -> Except Fault PressPlan) : Filing (Path × Nat) := do
  let home <- MonadExcept.ofExcept (homeFor values usual)
  let (plan, chance) <- Press.setUp home (plan home) (sourceFor setting values)
  let count <- MonadExcept.ofExcept (countFor values)
  let (result, after) := (fill count).run ⟨plan, chance, 0, <- get⟩
  set after.folder
  return (plan.catalogue, <- MonadExcept.ofExcept result)
where
  /-- Records made and added to the catalogue. -/
  fill (count : Nat) : Pressing Twister Nat := do
    let records <- Press.makeMany easel setting.names count
    Press.publish records true
    return records.length

def pressedGoals (setting : Setting) (values : Values) : Filing (Mode × Path × Nat) := do
  let mode <- MonadExcept.ofExcept (do Mode.ofText (<- values.textOr "mode" ""))
  if mode = .maze then return (mode, <- pressed easel setting values mazeHome (mazePlan values))
  else return (mode, <- pressed easel setting values goalHome (goalPlan values mode))

def generate (setting : Setting) (arguments : List String) : Report :=
  match read generateSignature arguments with
  | .error code => exited setting code
  | .ok values =>
      filed setting (pressedGoals easel setting values) fun (mode, catalogue, count) =>
        "Wrote " ++ toString count ++ " " ++ mode.name ++ " records to " ++ catalogue.text ++ "\n"

def generateMazes (setting : Setting) (arguments : List String) : Report :=
  match read mazeSignature arguments with
  | .error code => exited setting code
  | .ok values => filed setting (pressed easel setting values mazeHome (mazePlan values)) fun _ => ""

end

end CommandLine
end Mosaic
