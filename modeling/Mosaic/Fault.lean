import Mosaic.Mode
import Mosaic.Program.Problem
import Mosaic.Text.Numeral

/-!
# Faults

Whatever can be refused is refused with a fault, and a fault is a cause.  The causes are grouped by
what they are about; `Fault.kind` sorts them by their nature, and `Fault.message` gives the words
for those that have any.
-/

namespace Mosaic

inductive GridFault
  | sizeNotPositive
  | notRows
  | rowNotList
  | unknownColor (shown : List Char)
  | unequalRows
  | ragged
  deriving DecidableEq, Repr

inductive MazeFault
  | missingField (name : String)
  | wrongType
  | numeral (fault : Text.NumeralFault)
  | notFinite
  | tooFewParts (count : Nat)
  | tooManyParts
  | sizeMismatch
  | unknownItem (shown : List Char)
  | outOfBounds (label : String) (row column : Int)
  | unsupportedHeading (heading : Int)
  | tooFlat
  | tooSmall
  | notADocument
  | incompleteDocument
  deriving DecidableEq, Repr

inductive ChallengeFault
  | lockoutNegative
  | budgetNotPositive
  | intervalNotPositive
  | budgetsNotPositive
  | settingNotWhole (name : String) (shown : List Char)
  | alreadyActive
  | lockedOut (seconds : Int)
  | forbidden (action : String)
  deriving DecidableEq, Repr

inductive GoalFault
  | noMatrixTarget (litCells attempts : Int)
  | mazeHasNoTarget
  | targetSize (mode : Mode) (rows columns : Nat)
  | mazeGoalsElsewhere
  | cellSizeNotPositive
  | mazeTooThin
  | notRecords (path : String)
  | recordWithoutId (path : String)
  | unknownGoal (id : String)
  | noRecords (path : String)
  | programMissing (path : String)
  | programNotGiven
  | mazeNotRecorded
  | targetNotRecorded
  | notAMazeSession
  deriving DecidableEq, Repr

inductive PictureFault
  | negativeSide
  | sideTooLong
  | rowTooWide
  deriving DecidableEq, Repr

inductive FileFault
  | missing
  | isFolder
  | notFolder
  | occupied
  | nameTooLong
  | nullCharacter
  | lonelyHalf (half start count : Nat)
  deriving DecidableEq, Repr

inductive Fault
  | program (problem : Problem)
  | numeral (fault : Text.NumeralFault)
  | unknownMode (shown : List Char)
  | stepsNotPositive
  | grid (fault : GridFault)
  | maze (fault : MazeFault)
  | challenge (fault : ChallengeFault)
  | goal (fault : GoalFault)
  | picture (fault : PictureFault)
  | missingKey (name : String)
  | wrongType
  | outOfRange
  | notFinite
  | notADocument
  | absent
  | file (fault : FileFault)
  | exit (text : String)
  deriving DecidableEq, Repr

inductive FaultKind
  | program (kind : ProblemKind)
  | value
  | type
  | index
  | key
  | overflow
  | memory
  | refusal
  | document
  | absence
  | missingFile
  | folder
  | notFolder
  | occupied
  | encoding
  | system
  | exit
  deriving DecidableEq, Repr

namespace GridFault

def message? : GridFault -> Option String
  | sizeNotPositive => some "rows and cols must be positive"
  | notRows => some "Grid payload must be a non-empty list of rows"
  | rowNotList => some "Grid rows must be lists"
  | unknownColor shown => some ("Unknown cell color: " ++ String.ofList shown)
  | unequalRows => some "Grid rows must share one width"
  | ragged => none

end GridFault

namespace MazeFault

def malformed (detail : String) : String := "Malformed maze payload: " ++ detail

def message : MazeFault -> String
  | missingField name => malformed (String.ofList (Text.quoted name.toList))
  | wrongType => "Malformed maze payload"
  | numeral fault => malformed fault.explanation
  | notFinite => malformed "cannot convert float NaN to integer"
  | tooFewParts count =>
      malformed ("not enough values to unpack (expected 2, got " ++ toString count ++ ")")
  | tooManyParts => malformed "too many values to unpack (expected 2)"
  | sizeMismatch => "Maze cell matrix does not match declared dimensions"
  | unknownItem shown => "Unknown maze item type: " ++ String.ofList shown
  | outOfBounds label row column =>
      "Maze " ++ label ++ " at (" ++ toString row ++ ", " ++ toString column ++ ") out of bounds"
  | unsupportedHeading heading => "Unsupported turtle heading: " ++ toString heading
  | tooFlat => "maze needs at least 2 rows and 2 cols"
  | tooSmall => "maze too small to place every item"
  | notADocument => "Maze save document is not valid JSON"
  | incompleteDocument => "Maze save document must contain 'code' and 'maze'"

end MazeFault

namespace ChallengeFault

def kind : ChallengeFault -> FaultKind
  | alreadyActive => .refusal
  | lockedOut _ => .refusal
  | forbidden _ => .refusal
  | _ => .value

def message : ChallengeFault -> String
  | lockoutNegative => "lockout_seconds must be non-negative"
  | budgetNotPositive => "time_budget must be positive"
  | intervalNotPositive => "step_interval_ms must be positive"
  | budgetsNotPositive => "challenge time budgets must be positive"
  | settingNotWhole name shown => name ++ " must be an integer, got " ++ String.ofList shown
  | alreadyActive => "A challenge is already active"
  | lockedOut seconds => "New challenge available in " ++ toString seconds ++ " seconds"
  | forbidden action => "Cannot " ++ action ++ " during an active challenge"

end ChallengeFault

namespace GoalFault

def kind : GoalFault -> FaultKind
  | noMatrixTarget _ _ => .refusal
  | notAMazeSession => .refusal
  | unknownGoal _ => .key
  | noRecords _ => .missingFile
  | programMissing _ => .missingFile
  | _ => .value

def message : GoalFault -> String
  | noMatrixTarget litCells attempts =>
      "No matrix target with " ++ toString litCells ++ " lit cells after " ++ toString attempts ++
        " attempts"
  | mazeHasNoTarget => "MAZE mode has no target grid"
  | targetSize mode rows columns =>
      mode.name ++ " targets must be " ++ toString rows ++ "x" ++ toString columns
  | mazeGoalsElsewhere => "MAZE goals are produced by MazeGenerator"
  | cellSizeNotPositive => "cell_size must be positive"
  | mazeTooThin => "rows and cols must be at least 2"
  | notRecords path => path ++ " must hold a list of goal records"
  | recordWithoutId path => path ++ ": every goal record needs an 'id'"
  | unknownGoal id => "Goal id '" ++ id ++ "' not found in metadata"
  | noRecords path => "Metadata file not found: " ++ path
  | programMissing path => "Program not found: " ++ path
  | programNotGiven => "Either program or program_path is required"
  | mazeNotRecorded => "Maze record missing 'maze'"
  | targetNotRecorded => "Goal record missing 'target_grid'"
  | notAMazeSession => "Maze sessions can only be saved in MAZE mode"

end GoalFault

namespace PictureFault

def kind : PictureFault -> FaultKind
  | negativeSide => .value
  | sideTooLong => .overflow
  | rowTooWide => .memory

def message? : PictureFault -> Option String
  | negativeSide => some "Width and height must be >= 0"
  | sideTooLong => none
  | rowTooWide => some ""

end PictureFault

namespace FileFault

def kind : FileFault -> FaultKind
  | missing => .missingFile
  | isFolder => .folder
  | notFolder => .notFolder
  | occupied => .occupied
  | nameTooLong => .system
  | nullCharacter => .value
  | lonelyHalf _ _ _ => .encoding

def span (start count : Nat) : String :=
  if count = 1 then toString start else toString start ++ "-" ++ toString (start + count - 1)

def message? : FileFault -> Option String
  | nullCharacter => some "embedded null byte"
  | lonelyHalf half start count =>
      some ("'utf-8' codec can't encode character" ++
        (if count = 1 then " '\\u" ++ String.ofList (Text.hexadecimal 4 half) ++ "'" else "s") ++
        " in position " ++ span start count ++ ": surrogates not allowed")
  | _ => none

end FileFault

namespace Fault

def kind : Fault -> FaultKind
  | program problem =>
      match problem.report with
      | .ok _ => .program problem.cause.kind
      | .error _ => .value
  | numeral _ => .value
  | unknownMode _ => .value
  | stepsNotPositive => .value
  | grid _ => .value
  | maze _ => .value
  | challenge fault => fault.kind
  | goal fault => fault.kind
  | picture fault => fault.kind
  | missingKey _ => .key
  | wrongType => .type
  | outOfRange => .index
  | notFinite => .overflow
  | notADocument => .document
  | absent => .absence
  | file fault => fault.kind
  | exit _ => .exit

def message? : Fault -> Option String
  | program problem => some problem.message
  | numeral fault => some fault.message
  | unknownMode shown => some ("Unknown mode: " ++ String.ofList shown)
  | stepsNotPositive => some "max_steps must be positive"
  | grid fault => fault.message?
  | maze fault => some fault.message
  | challenge fault => some fault.message
  | goal fault => some fault.message
  | picture fault => fault.message?
  | missingKey name => some name
  | file fault => fault.message?
  | exit text => some text
  | _ => none

end Fault
end Mosaic
