import Mosaic.Document.Reader
import Mosaic.Document.Writer
import Mosaic.Folder
import Mosaic.Grid.Normal

/-!
# Catalogues of goals

A catalogue is a file that holds a list of goal records.  Every record has an `id`, which has to
count as given, and a `mode`; the other fields are free.  New records are added behind the old ones,
except that the first old record of an id gives its place to the last new one of that id.
-/

namespace Mosaic

abbrev GoalRecord := List (String × Document)

namespace Catalogue

def readDocument (folder : Folder) (path : Path) : Except Fault Document := do
  match Document.read (<- folder.readText path) with
  | .ok value => return value
  | .error .malformed => throw .notADocument
  | .error (.numeral fault) => throw (.numeral fault)

def entryOf (path : Path) (value : Document) : Except Fault GoalRecord :=
  match value with
  | .record fields =>
      if ((Document.field? fields "id").getD .null).isGiven then do
        discard (Mode.ofDocument ((Document.field? fields "mode").getD (.text "")))
        return fields
      else throw (.goal (.recordWithoutId path.text))
  | _ => throw (.goal (.recordWithoutId path.text))

def read (folder : Folder) (path : Path) : Except Fault (List GoalRecord) := do
  match <- readDocument folder path with
  | .list entries => entries.mapM (entryOf path)
  | _ => throw (.goal (.notRecords path.text))

/-- The id of a record, which has to be able to serve as a key. -/
def idOf (record : GoalRecord) : Except Fault Document :=
  match Document.field? record "id" with
  | none => .error (.missingKey "id")
  | some id => if id.isKey then .ok id else .error .wrongType

def putById (pending : List (Document × GoalRecord)) (id : Document) (record : GoalRecord) :
    List (Document × GoalRecord) :=
  if pending.any fun entry => entry.1.same id then
    pending.map fun entry => if entry.1.same id then (entry.1, record) else entry
  else pending ++ [(id, record)]

def byId (records : List GoalRecord) : Except Fault (List (Document × GoalRecord)) :=
  records.foldlM (fun pending record => do return putById pending (<- idOf record) record) []

/-- The old records, each replaced if a new one with its id is pending, and what stays pending. -/
def replaced (pending : List (Document × GoalRecord)) : List GoalRecord ->
    Except Fault (List GoalRecord × List (Document × GoalRecord))
  | [] => .ok ([], pending)
  | old :: rest =>
      if pending.isEmpty then .ok (old :: rest, [])
      else do
        let id <- idOf old
        let record := ((pending.find? fun entry => entry.1.same id).map Prod.snd).getD old
        let (others, left) <- replaced (pending.filter fun entry => !entry.1.same id) rest
        return (record :: others, left)

def merged (pending : List (Document × GoalRecord)) (old new : List GoalRecord) :
    Except Fault (List GoalRecord) := do
  let (kept, left) <- replaced pending old
  let added <- new.filterM fun record => do
    let id <- idOf record
    return left.any fun entry => entry.1.same id
  return kept ++ added

/-- The records that a file holds after new ones were added, or replaced what was there. -/
def recordsAfter (folder : Folder) (path : Path) (records : List GoalRecord) (append : Bool) :
    Except Fault (List GoalRecord) :=
  if append then do
    if <- folder.has path then merged (<- byId records) (<- read folder path) records
    else return records
  else .ok records

def textOf (records : List GoalRecord) : Except Fault String :=
  let document := Document.list (records.map Document.record)
  if document.isWritable then .ok document.write else .error (.numeral .tooLarge)

def write (path : Path) (records : List GoalRecord) (append : Bool) : Filing Unit := do
  Folder.make path.parent
  match recordsAfter (<- get) path records append >>= textOf with
  | .ok text => Folder.write path (.text text)
  | .error fault => throw fault

/-!
## Looking records up
-/

abbrev Index := List (String × GoalRecord)

def enter (index : Index) (id : String) (record : GoalRecord) : Index :=
  match index with
  | [] => [(id, record)]
  | (other, old) :: rest =>
      if other = id then (other, record) :: rest else (other, old) :: enter rest id record

/-- Records by the text of their ids; of two records of one id the later one is kept. -/
def indexOf (records : List GoalRecord) : Index :=
  records.foldl
    (fun index record => enter index ((Document.field? record "id").getD .null).asText record) []

def openIndex (folder : Folder) (path : Path) : Except Fault Index := do
  if <- folder.has path then return indexOf (<- read folder path)
  else throw (.goal (.noRecords path.text))

/-- The text under which a value looks for a record; only a text can be the id of one. -/
def keyOf (id : Document) : Except Fault String :=
  match id with
  | .text key => .ok key
  | other => if other.isKey then .error (.goal (.unknownGoal other.asText)) else .error .wrongType

def find (index : Index) (id : String) : Except Fault GoalRecord :=
  match index.lookup id with
  | some record => .ok record
  | none => .error (.goal (.unknownGoal id))

def modeOf (record : GoalRecord) : Except Fault Mode :=
  match Document.field? record "mode" with
  | some value => Mode.ofDocument value
  | none => .error (.missingKey "mode")

def ofMode (index : Index) (mode : Mode) : Except Fault (List GoalRecord) :=
  (index.map Prod.snd).filterM fun record => do return (<- modeOf record) = mode

end Catalogue
end Mosaic
