import Mosaic.Text.Blank
import Mosaic.Text.Digit
import Mosaic.Text.Quoted

/-!
# Whole numbers in text

Whole numbers have no bound of their own, but none is read from or written in more than 4300
digits, leading zeros counted.  `readDigits` reads a row of digits that a grammar has already
recognised; `readWhole` reads a free text, which may be padded with white space, signed, and
grouped by single underscores.
-/

namespace Mosaic
namespace Text

/-- The most digits a number is read from or written in. -/
def digitLimit : Nat := 4300

inductive NumeralFault
  | tooLong (digits : Nat)
  | tooLarge
  | notANumber (text : List Char)
  deriving DecidableEq, Repr

namespace NumeralFault

def beyondLimit : String := "Exceeds the limit (" ++ toString digitLimit ++ " digits)"

def limitAdvice : String := "; use sys.set_int_max_str_digits() to increase the limit"

/-- The words for a fault.  A text that is no number is shown in quotes, cut after 200
characters. -/
def message : NumeralFault -> String
  | tooLong _ => beyondLimit
  | tooLarge => beyondLimit
  | notANumber text =>
      "invalid literal for int() with base 10: " ++ String.ofList ((quoted text).take 200)

/-- The words for a fault that is reported as part of another one: the limit is explained. -/
def explanation : NumeralFault -> String
  | tooLong digits =>
      beyondLimit ++ " for integer string conversion: value has " ++ toString digits ++ " digits" ++
        limitAdvice
  | tooLarge => beyondLimit ++ " for integer string conversion" ++ limitAdvice
  | fault => fault.message

end NumeralFault

def readDigits (cs : List Char) : Except NumeralFault Nat :=
  if digitLimit < cs.length then .error (.tooLong cs.length) else .ok (decimalValue cs)

def splitSign : List Char -> Bool × List Char
  | '-' :: rest => (true, rest)
  | '+' :: rest => (false, rest)
  | cs => (false, cs)

def signed (negative : Bool) (n : Nat) : Int := if negative then -(n : Int) else n

/-- White space around a number: the four separators U+001C to U+001F do not count. -/
def isNumeralBlank (c : Char) : Bool := isBlank c && !(0x1C ≤ c.toNat && c.toNat ≤ 0x1F)

/-- Digits in groups: each underscore stands between two digits. -/
def isGrouped : List Char -> Bool
  | [] => false
  | [c] => isDecimal c
  | c :: '_' :: rest => isDecimal c && isGrouped rest
  | c :: rest => isDecimal c && isGrouped rest

def readWhole (cs : List Char) : Except NumeralFault Int :=
  let padded := cs.dropWhile isNumeralBlank
  let (negative, body) := splitSign (padded.reverse.dropWhile isNumeralBlank).reverse
  let run := body.takeWhile fun c => isDecimal c || c == '_'
  let digits := run.filter isDecimal
  if !isGrouped run then .error (.notANumber cs)
  else if digitLimit < digits.length then .error (.tooLong digits.length)
  else if run.length < body.length then .error (.notANumber cs)
  else .ok (signed negative (decimalValue digits))

def writeWhole (n : Int) : Except NumeralFault String :=
  if n.natAbs < Nat.pow 10 digitLimit then .ok (toString n) else .error .tooLarge

end Text
end Mosaic
