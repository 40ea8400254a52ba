import Mosaic.Fault

/-!
# Arguments of a command line

A command takes some arguments by their place and others by option.  An option may be shortened as
long as it stays unique, and its value follows it or stands behind an equals sign; behind two dashes
everything counts by place.  A number with a minus sign is a value, not an option.

Two dashes that stand where a value is expected are dropped, so the argument is there but has no
value.  That is no fault until the value is needed.

Reading ends in the values, or early with an exit code: 0 when help is asked for, 2 when the arguments
do not fit.
-/

namespace Mosaic
namespace CommandLine

inductive ValueKind
  | text
  | whole
  deriving DecidableEq, Repr

inductive Value
  | text (value : String)
  | whole (value : Int)
  | dropped
  deriving DecidableEq, Repr

/-- The arguments of a command: those by place, and the options with the value each takes, if any. -/
structure Signature where
  places : List (String × ValueKind)
  options : List (String × Option ValueKind)

structure Values where
  named : List (String × Value)
  switches : List String
  deriving Repr, Inhabited

def helpCode : Nat := 0

def usageCode : Nat := 2

namespace Signature

def allOptions (signature : Signature) : List (String × Option ValueKind) :=
  ("-h", none) :: ("--help", none) :: signature.options

end Signature

/-- What an argument looks like: among others, an option with the value behind its equals sign, or an
option of one letter with what is joined to it. -/
inductive Mark
  | value (text : String)
  | option (name : String) (given : Option String)
  | joined (more : List Char)
  | unknown
  | dashes
  deriving DecidableEq, Repr

def cutAtEquals (cs : List Char) : List Char × Option (List Char) :=
  match cs.dropWhile (· != '=') with
  | _ :: rest => (cs.takeWhile (· != '='), some rest)
  | [] => (cs, none)

def withoutLineEnd (cs : List Char) : List Char :=
  if cs.getLast? = some '\n' then cs.dropLast else cs

def isNegativeNumber (cs : List Char) : Bool :=
  match withoutLineEnd cs with
  | '-' :: body =>
      let fraction := (body.dropWhile Text.isDecimal).drop 1
      (!body.isEmpty && body.all Text.isDecimal) ||
        ((body.dropWhile Text.isDecimal).head? == some '.' && !fraction.isEmpty &&
          fraction.all Text.isDecimal)
  | _ => false

def candidates (signature : Signature) (cs : List Char) : List Mark :=
  match cs with
  | '-' :: '-' :: _ =>
      let (start, given) := cutAtEquals cs
      (signature.allOptions.filter fun option => start.isPrefixOf option.1.toList).map
        fun option => .option option.1 (given.map String.ofList)
  | '-' :: letter :: rest =>
      (signature.allOptions.filter fun option => option.1.toList == ['-', letter]).map
        fun _ => .joined rest
  | _ => []

/-- What an argument in front of two dashes looks like; nothing if it is short for two options. -/
def markOf? (signature : Signature) (argument : String) : Option Mark :=
  let cs := argument.toList
  let (start, given) := cutAtEquals cs
  let isOption := fun (name : List Char) =>
    signature.allOptions.any fun option => option.1.toList == name
  if cs.head? != some '-' then some (.value argument)
  else if isOption cs then some (.option argument none)
  else if cs.length == 1 then some (.value argument)
  else if given.isSome && isOption start then
    some (.option (String.ofList start) (given.map String.ofList))
  else match candidates signature cs with
    | [mark] => some mark
    | [] =>
        if isNegativeNumber cs || cs.contains ' ' then some (.value argument) else some .unknown
    | _ => none

def marksOf? (signature : Signature) : List String -> Option (List Mark)
  | [] => some []
  | argument :: rest =>
      if argument = "--" then some (.dashes :: rest.map .value)
      else do
        let mark <- markOf? signature argument
        let marks <- marksOf? signature rest
        return mark :: marks

/-- How far reading has come: the places still to fill, what was read, the option that waits for its
value, whether the last argument filled a place, whether two dashes still have to be passed over
beside such an argument, and whether something was left over. -/
structure Progress where
  places : List (String × ValueKind)
  values : Values
  waiting : Option (String × ValueKind)
  hasFilled : Bool
  hasDashes : Bool
  hasExtras : Bool

def valueOf? (kind : ValueKind) (text : String) : Option Value :=
  match kind with
  | .text => some (.text text)
  | .whole =>
      match Text.readWhole text.toList with
      | .ok n => some (.whole n)
      | .error _ => none

def undropped? (kind : ValueKind) (text : String) : Option Value :=
  if text = "--" then some .dropped else valueOf? kind text

namespace Progress

def withValue (progress : Progress) (name : String) (value : Value) : Progress :=
  { progress with values := { progress.values with named := (name, value) :: progress.values.named } }

/-- A text for the next place, or left over if all places are filled.  Of the two pairs of dashes that
may come in front of a place and in it, only one is dropped. -/
def fill (progress : Progress) (text : String) : Except Nat Progress :=
  match progress.places with
  | [] => .ok { progress with hasFilled := false, hasExtras := true }
  | (name, kind) :: rest =>
      match if progress.hasDashes then valueOf? kind text else undropped? kind text with
      | some value =>
          .ok { progress.withValue name value with
            places := rest, hasFilled := true, hasDashes := false }
      | none => .error usageCode

def give (progress : Progress) (name : String) (kind : ValueKind) (text : String) :
    Except Nat Progress :=
  match undropped? kind text with
  | some value => .ok { progress.withValue name value with waiting := none }
  | none => .error usageCode

def isHelp (name : String) : Bool := name == "-h" || name == "--help"

def switchOn (progress : Progress) (name : String) : Except Nat Progress :=
  if isHelp name then .error helpCode
  else .ok { progress with
    values := { progress.values with switches := name :: progress.values.switches } }

/-- The exit code where something is joined to the letter that asks for help: it may only be that
letter once more, any number of times. -/
def joinedCode (more : List Char) : Nat :=
  if !more.isEmpty && more.all (· == 'h') then helpCode else usageCode

/-- One argument further.  An option that waits for its value takes nothing else. -/
def step (signature : Signature) (progress : Progress) (mark : Mark) : Except Nat Progress :=
  match progress.waiting, mark with
  | some (name, kind), .value text => progress.give name kind text
  | some _, _ => .error usageCode
  | none, .value text => progress.fill text
  | none, .unknown => .ok { progress with hasFilled := false, hasExtras := true }
  | none, .dashes =>
      .ok { progress with hasFilled := false, hasDashes := !progress.hasFilled }
  | none, .joined more => .error (joinedCode more)
  | none, .option name given =>
      let ready := { progress with hasFilled := false }
      match signature.allOptions.lookup name, given with
      | some (some kind), some text => ready.give name kind text
      | some (some kind), none => .ok { ready with waiting := some (name, kind) }
      | _, none => ready.switchOn name
      | _, some text => .error (if name = "-h" then joinedCode text.toList else usageCode)

def isComplete (progress : Progress) : Bool :=
  progress.places.isEmpty && progress.waiting.isNone && !progress.hasDashes && !progress.hasExtras

end Progress

def read (signature : Signature) (arguments : List String) : Except Nat Values := do
  match marksOf? signature arguments with
  | none => throw usageCode
  | some marks =>
      let start : Progress := ⟨signature.places, ⟨[], []⟩, none, false, false, false⟩
      let progress <- marks.foldlM (Progress.step signature) start
      if progress.isComplete then return progress.values else throw usageCode

namespace Values

def textOr (values : Values) (name : String) (other : String) : Except Fault String :=
  match values.named.lookup name with
  | some (.text value) => .ok value
  | some _ => .error .wrongType
  | none => .ok other

def wholeOr (values : Values) (name : String) (other : Int) : Except Fault Int :=
  match values.named.lookup name with
  | some (.whole value) => .ok value
  | some _ => .error .wrongType
  | none => .ok other

def path (values : Values) (name : String) : Except Fault Path := do
  return Path.ofText (<- values.textOr name "")

def has (values : Values) (name : String) : Bool := values.switches.contains name

end Values
end CommandLine
end Mosaic
