import Mosaic.Document
import Mosaic.Text.Digit
import Mosaic.Text.Half
import Mosaic.Text.Numeral

/-!
# Reading documents

The written form of a document is that of JSON, with the three words NaN, Infinity and -Infinity
for the special numbers.  Of two fields of one name the later value is kept, in the place of the
earlier one.  Half of a surrogate pair that stands alone is read as its stand-in.

Every step of the reader consumes a character, so the length of the text bounds the steps.
-/

namespace Mosaic
namespace Document

inductive ReadFault
  | malformed
  | numeral (fault : Text.NumeralFault)
  deriving DecidableEq, Repr

abbrev Reading (α : Type) := Except ReadFault (α × List Char)

def isSpace (c : Char) : Bool := c == ' ' || c == '\t' || c == '\n' || c == '\r'

def skipSpace (cs : List Char) : List Char := cs.dropWhile isSpace

def hexValue? (c : Char) : Option Nat :=
  if '0' ≤ c && c ≤ '9' then some (c.toNat - '0'.toNat)
  else if 'a' ≤ c && c ≤ 'f' then some (c.toNat - 'a'.toNat + 10)
  else if 'A' ≤ c && c ≤ 'F' then some (c.toNat - 'A'.toNat + 10)
  else none

def hexUnit? (a b c d : Char) : Option Nat := do
  let w <- hexValue? a
  let x <- hexValue? b
  let y <- hexValue? c
  let z <- hexValue? d
  return ((w * 16 + x) * 16 + y) * 16 + z

def letterEscape? : Char -> Option Nat
  | '\x22' => some 0x22
  | '\\' => some 0x5C
  | '/' => some 0x2F
  | 'b' => some 0x08
  | 'f' => some 0x0C
  | 'n' => some 0x0A
  | 'r' => some 0x0D
  | 't' => some 0x09
  | _ => none

/-- The units of a text up to its closing quote, behind those already read, latest first. -/
def readUnits (units : List Nat) : List Char -> Option (List Nat × List Char)
  | [] => none
  | '\x22' :: rest => some (units.reverse, rest)
  | '\\' :: 'u' :: a :: b :: c :: d :: rest =>
      match hexUnit? a b c d with
      | some unit => readUnits (unit :: units) rest
      | none => none
  | '\\' :: letter :: rest =>
      match letterEscape? letter with
      | some unit => readUnits (unit :: units) rest
      | none => none
  | c :: rest => if c.toNat < 0x20 then none else readUnits (c.toNat :: units) rest

/-- The characters of units, two surrogates in a row making one character. -/
def unitChars : List Nat -> List Char
  | [] => []
  | [unit] => [Text.ofUnit unit]
  | high :: low :: rest =>
      if Text.isHighHalf high && Text.isLowHalf low then
        Text.hold (Char.ofNat (Text.pairPoint high low)) ++ unitChars rest
      else Text.ofUnit high :: unitChars (low :: rest)

def readText (cs : List Char) : Reading String :=
  match readUnits [] cs with
  | some (units, rest) => .ok (String.ofList (unitChars units), rest)
  | none => .error .malformed

def readFraction (cs : List Char) : List Char × List Char :=
  match cs with
  | '.' :: rest =>
      let digits := rest.takeWhile Text.isAsciiDigit
      if digits.isEmpty then ([], cs) else (digits, rest.dropWhile Text.isAsciiDigit)
  | _ => ([], cs)

def readPower (cs : List Char) : Option Int × List Char :=
  match cs with
  | letter :: rest =>
      let (negative, body) := Text.splitSign rest
      let digits := body.takeWhile Text.isAsciiDigit
      if (letter == 'e' || letter == 'E') && !digits.isEmpty then
        (some (Text.signed negative (Text.decimalValue digits)), body.dropWhile Text.isAsciiDigit)
      else (none, cs)
  | [] => (none, cs)

/-- The digits in front of the point: a zero stands alone. -/
def readLeading : List Char -> Option (List Char × List Char)
  | '0' :: rest => some (['0'], rest)
  | cs =>
      let digits := cs.takeWhile Text.isAsciiDigit
      if digits.isEmpty then none else some (digits, cs.dropWhile Text.isAsciiDigit)

def readMagnitude (negative : Bool) (cs : List Char) : Reading Document :=
  match readLeading cs with
  | none => .error .malformed
  | some (leading, afterLeading) =>
      let (fraction, afterFraction) := readFraction afterLeading
      let (power, rest) := readPower afterFraction
      if fraction.isEmpty && power.isNone then
        match Text.readDigits leading with
        | .ok n => .ok (.whole (Text.signed negative n), rest)
        | .error fault => .error (.numeral fault)
      else
        .ok (.real (Binary64.ofDecimal negative (Text.decimalValue (leading ++ fraction))
          (power.getD 0 - fraction.length)), rest)

def readNumber : List Char -> Reading Document
  | '-' :: rest => readMagnitude true rest
  | cs => readMagnitude false cs

def words : List (List Char × Document) := [
  ("null".toList, null), ("true".toList, bool true), ("false".toList, bool false),
  ("NaN".toList, real .nan), ("Infinity".toList, real (.infinite false)),
  ("-Infinity".toList, real (.infinite true))]

def readLeaf (cs : List Char) : Reading Document :=
  match words.find? fun entry => entry.1.isPrefixOf cs with
  | some (word, value) => .ok (value, cs.drop word.length)
  | none => readNumber cs

def readName (cs : List Char) : Reading String :=
  match cs with
  | '\x22' :: rest =>
      match readText rest with
      | .ok (name, afterName) =>
          match skipSpace afterName with
          | ':' :: body => .ok (name, skipSpace body)
          | _ => .error .malformed
      | .error fault => .error fault
  | _ => .error .malformed

mutual

def readValue : Nat -> List Char -> Reading Document
  | 0, _ => .error .malformed
  | steps + 1, cs =>
      match cs with
      | '\x22' :: rest =>
          match readText rest with
          | .ok (value, after) => .ok (.text value, after)
          | .error fault => .error fault
      | '[' :: rest =>
          match skipSpace rest with
          | ']' :: after => .ok (.list [], after)
          | body => readItems steps [] body
      | '\x7b' :: rest =>
          match skipSpace rest with
          | '\x7d' :: after => .ok (.record [], after)
          | body => readFields steps [] body
      | _ => readLeaf cs

def readItems : Nat -> List Document -> List Char -> Reading Document
  | 0, _, _ => .error .malformed
  | steps + 1, items, cs =>
      match readValue steps cs with
      | .error fault => .error fault
      | .ok (item, after) =>
          match skipSpace after with
          | ',' :: rest => readItems steps (item :: items) (skipSpace rest)
          | ']' :: rest => .ok (.list (item :: items).reverse, rest)
          | _ => .error .malformed

def readFields : Nat -> List (String × Document) -> List Char -> Reading Document
  | 0, _, _ => .error .malformed
  | steps + 1, fields, cs =>
      match readName cs with
      | .error fault => .error fault
      | .ok (name, body) =>
          match readValue steps body with
          | .error fault => .error fault
          | .ok (value, after) =>
              match skipSpace after with
              | ',' :: rest => readFields steps (putField fields name value) (skipSpace rest)
              | '\x7d' :: rest => .ok (.record (putField fields name value), rest)
              | _ => .error .malformed

end

def read (text : String) : Except ReadFault Document :=
  let cs := text.toList
  match readValue (cs.length + 1) (skipSpace cs) with
  | .error fault => .error fault
  | .ok (value, rest) => if (skipSpace rest).isEmpty then .ok value else .error .malformed

end Document
end Mosaic
