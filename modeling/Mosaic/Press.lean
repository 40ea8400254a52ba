import Mosaic.Catalogue
import Mosaic.Goal
import Mosaic.Maze.Session
import Mosaic.Picture.Maze
import Mosaic.Score
import Mosaic.Settings

/-!
# Printing goals

A press draws goals or mazes one after the other.  Each becomes a record of a catalogue and a picture
beside it, made with an easel and named after the id of the record; a record without an id of its own gets the next name
from a supply.  A press that is refused half-way keeps the pictures it has made.
-/

namespace Mosaic

/-- What a press draws.  The goals of challenges have a time budget of so many seconds a row; without
such a pace their budgets stay empty. -/
inductive Motif
  | goals (mode : Mode) (challenge : Bool) (pace : Option Int)
  | mazes (rows columns : Int)
  deriving DecidableEq, Repr, Inhabited

/-- A press: what it draws, the size of the squares of its pictures, and where it puts them. -/
structure PressPlan where
  motif : Motif
  cellSize : Int
  home : Path
  deriving DecidableEq, Repr, Inhabited

namespace PressPlan

def forGoals (home : Path) (mode : Mode) (challenge : Bool) (cellSize : Int) (pace : Option Int) :
    Except Fault PressPlan :=
  if mode = .maze then .error (.goal .mazeGoalsElsewhere)
  else do
    Picture.checkCellSize cellSize
    return ⟨.goals mode challenge pace, cellSize, home⟩

def checkExtent (extent : Int) : Except Fault Unit :=
  if extent < 2 then .error (.goal .mazeTooThin) else .ok ()

def forMazes (home : Path) (rows columns cellSize : Int) : Except Fault PressPlan := do
  checkExtent rows
  checkExtent columns
  Picture.checkCellSize cellSize
  return ⟨.mazes rows columns, cellSize, home⟩

def catalogue (plan : PressPlan) : Path := plan.home.inside (Path.ofText "data.json")

def gallery (plan : PressPlan) : Path := plan.home.inside (Path.ofText "puzzles")

def picturePath (plan : PressPlan) (id : String) : Path :=
  let ending := match plan.motif with
    | .goals _ _ _ => "_target.png"
    | .mazes _ _ => "_maze.png"
  plan.gallery.inside (Path.ofText (id ++ ending))

/-- A path as the records name it: from the home of the press, if it lies there. -/
def named (plan : PressPlan) (path : Path) : String :=
  ((path.relativeTo? plan.home).getD path).text

end PressPlan

/-- A press at work: its source of chance, the names it has used up, and the folder it fills. -/
structure Press (σ : Type) where
  plan : PressPlan
  chance : σ
  names : Nat
  folder : Folder

/-- An operation of a press: the press afterwards is there in any case. -/
abbrev Pressing (σ : Type) (α : Type) : Type := ExceptT Fault (StateM (Press σ)) α

namespace Press

variable {σ : Type} [RandomSource σ] {Image : Type}

def drawing {α : Type} (draw : Draw σ (Except Fault α)) : Pressing σ α := do
  let (drawn, after) := draw (<- get).chance
  modify fun press => { press with chance := after }
  match drawn with
  | .ok value => return value
  | .error fault => throw fault

def filing {α : Type} (operation : Filing α) : Pressing σ α := do
  let press <- get
  let (result, folder) := operation.run press.folder
  set { press with folder := folder }
  match result with
  | .ok value => return value
  | .error fault => throw fault

/-- A press set up in a folder.  Its home is made before the plan and the source of chance are looked
at, and its gallery afterwards. -/
def setUp (home : Path) (plan : Except Fault PressPlan) (chance : Except Fault σ) :
    Filing (PressPlan × σ) := do
  Folder.make home
  let plan <- MonadExcept.ofExcept plan
  let chance <- MonadExcept.ofExcept chance
  Folder.make plan.gallery
  return (plan, chance)

/-- The id of the next record: a given value that counts, or the next name of the supply. -/
def nextId (supply : Nat -> String) (given : Document) : Pressing σ Document := do
  if given.isGiven then return given
  let press <- get
  set { press with names := press.names + 1 }
  return .text (supply press.names)

def putPicture (easel : Easel Image) (id : String) (picture : Except Fault Image) :
    Pressing σ String := do
  let (width, height) := easel.size (<- MonadExcept.ofExcept picture)
  let plan := (<- get).plan
  let path := plan.picturePath id
  filing (Folder.deposit path (.picture width height))
  return plan.named path

/-- The time budget of a goal; an empty list where there was no pace to work it out. -/
def budgetDocument (pace : Option Int) (goal : Goal) : Document :=
  match goal.budget, pace with
  | none, _ => .null
  | some _, none => .list []
  | some budget, some _ => .whole budget

def goalRecord (id : Document) (mode : Mode) (pace : Option Int) (goal : Goal) (image : String) :
    GoalRecord := [
  ("id", id),
  ("mode", .text mode.name),
  ("target_grid", goal.grid.elim .null Grid.toDocument),
  ("code", goal.code.elim .null .text),
  ("time_budget", budgetDocument pace goal),
  ("max_score", (Score.bestOfGoal mode goal.grid).toDocument),
  ("image", .text image)]

def mazeRecord (id : Document) (maze : Maze) (image : String) : GoalRecord := [
  ("id", id),
  ("mode", .text Mode.maze.name),
  ("maze", maze.toDocument),
  ("max_score", .whole maze.maxScore),
  ("image", .text image)]

def make (easel : Easel Image) (supply : Nat -> String) (given : Document) :
    Pressing σ GoalRecord := do
  let plan := (<- get).plan
  let id <- nextId supply given
  match plan.motif with
  | .goals mode challenge pace =>
      let goal <- drawing (if challenge then
          Goal.drawChallenge mode (pace.getD 0) Settings.usualMazeBudget
        else Goal.draw mode)
      let picture := Loose.picture easel (Grid.toDocument (goal.grid.getD [])) plan.cellSize
        Picture.usualGap
      return goalRecord id mode pace goal (<- putPicture easel id.asText picture)
  | .mazes rows columns =>
      let maze <- drawing (Maze.generate rows columns)
      let picture := MazePicture.ground easel maze plan.cellSize MazePicture.usualWallWidth
      return mazeRecord id maze (<- putPicture easel id.asText picture)

def makeMany (easel : Easel Image) (supply : Nat -> String) : Nat -> Pressing σ (List GoalRecord)
  | 0 => pure []
  | count + 1 => do
      let first <- make easel supply .null
      let others <- makeMany easel supply count
      return first :: others

def publish (records : List GoalRecord) (append : Bool) : Pressing σ Unit := do
  filing (Catalogue.write (<- get).plan.catalogue records append)

end Press
end Mosaic
