import Mosaic.Program.Command
import Mosaic.Program.Screen.Token

/-!
# Screen lines as operations

A screen line is a sequence of items, with any number of plus signs anywhere between them:

* `count * ( items )` repeats at least one item,
* a word of the letters R, G and B, in either case, paints their mixture,
* the words `OFF` and `O`, in either case, erase.

The tokens are read one by one.  Between tokens the reader remembers the loops that are still open,
each with the operations read before it, and the operations of the innermost one.  Each operation
carries the line that it was read from.
-/

namespace Mosaic
namespace Screen

/-- A loop that is still open: its count, and the operations in front of it, latest first. -/
structure Frame where
  count : Nat
  before : List Op
  deriving Repr, Inhabited

/-- What has been read of a line, operations latest first. -/
inductive Progress
  | items (frames : List Frame) (ops : List Op)
  | counted (frames : List Frame) (ops : List Op) (count : Nat)
  | starred (frames : List Frame) (ops : List Op) (count : Nat)
  deriving Repr, Inhabited

def problem (line : Int) (cause : Cause) : Fault := .program ⟨line, cause⟩

def loopCount (text : List Char) : Except Fault Nat :=
  match Text.readWhole text with
  | .ok n => .ok n.toNat
  | .error fault => .error (.numeral fault)

def erasers : List (List Char) := [['O', 'F', 'F'], ['O']]

def wordAction? (text : List Char) : Option Primitive :=
  let word := Text.capitals text
  if erasers.contains word then some .erase
  else if word.all fun c => (Color.ofPrimary? c).isSome then (Color.mixText word).map .paint
  else none

namespace Progress

def step (line : Int) : Progress -> Token -> Except Fault Progress
  | items frames ops, .plus => .ok (items frames ops)
  | items frames ops, .number text => do return counted frames ops (<- loopCount text)
  | items frames ops, .word text =>
      match wordAction? text with
      | some action => .ok (items frames (.once ⟨line, action⟩ :: ops))
      | none => .error (problem line (.unknownWord text))
  | items [] _, .closing => .error (problem line (.unexpectedToken [')']))
  | items (frame :: frames) ops, .closing =>
      if ops.isEmpty then .error (problem line .emptyLoop)
      else .ok (items frames (.loop line frame.count ops.reverse :: frame.before))
  | items _ _, token => .error (problem line (.unexpectedToken token.text))
  | counted frames ops count, .star => .ok (starred frames ops count)
  | counted _ _ _, _ => .error (problem line .missingStar)
  | starred frames ops count, .opening => .ok (items (⟨count, ops⟩ :: frames) [])
  | starred _ _ _, _ => .error (problem line .missingOpening)

def finish (line : Int) : Progress -> Except Fault (List Op)
  | items [] [] => .error (problem line .invalidFormat)
  | items [] ops => .ok ops.reverse
  | items _ _ => .error (problem line .missingClosing)
  | counted _ _ _ => .error (problem line .missingStar)
  | starred _ _ _ => .error (problem line .missingOpening)

end Progress

def sequence (line : Int) (row : List Token) : Except Fault (List Op) := do
  (<- row.foldlM (Progress.step line) (.items [] [])).finish line

def lineOps (line : Int) (cs : List Char) : Except Fault (List Op) := do
  sequence line ((<- tokens line cs).map Placed.token)

end Screen
end Mosaic
