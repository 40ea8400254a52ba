import Mosaic.Document
import Mosaic.Number.Shortest
import Mosaic.Text.Numeral

/-!
# Writing documents

A document is written with one item or field a line, two blanks deeper than what holds it; an empty
list or record stays on its line.  Texts are written in printable ASCII: any other character becomes
one or two escapes of four hexadecimal digits.
-/

namespace Mosaic
namespace Document

def unitEscape (unit : Nat) : List Char := '\\' :: 'u' :: Text.hexadecimal 4 unit

def writtenPoint (point : Nat) : List Char :=
  if point = 0x22 || point = 0x5C then ['\\', Char.ofNat point]
  else if point = 0x0A then ['\\', 'n']
  else if point = 0x0D then ['\\', 'r']
  else if point = 0x09 then ['\\', 't']
  else if point = 0x08 then ['\\', 'b']
  else if point = 0x0C then ['\\', 'f']
  else if 0x20 ≤ point && point < 0x7F then [Char.ofNat point]
  else if point < 0x10000 then unitEscape point
  else unitEscape (Text.highHalf point) ++ unitEscape (Text.lowHalf point)

def writtenText (value : String) : List Char :=
  '\x22' :: ((Text.points value.toList).flatMap writtenPoint ++ ['\x22'])

def writtenReal : Binary64 -> List Char
  | .nan => "NaN".toList
  | .infinite negative => (if negative then "-Infinity" else "Infinity").toList
  | .finite negative mantissa exponent => Binary64.finiteText negative mantissa exponent

def newLine (depth : Nat) : List Char := '\n' :: List.replicate (2 * depth) ' '

mutual

def written (depth : Nat) : Document -> List Char
  | null => "null".toList
  | bool value => (if value then "true" else "false").toList
  | whole value => (toString value).toList
  | real value => writtenReal value
  | text value => writtenText value
  | list [] => ['[', ']']
  | list (item :: rest) =>
      '[' :: (newLine (depth + 1) ++ written (depth + 1) item ++ writtenItems (depth + 1) rest ++
        newLine depth ++ [']'])
  | record [] => ['\x7b', '\x7d']
  | record ((name, value) :: rest) =>
      '\x7b' :: (newLine (depth + 1) ++ writtenText name ++ ':' :: ' ' :: written (depth + 1) value ++
        writtenFields (depth + 1) rest ++ newLine depth ++ ['\x7d'])

def writtenItems (depth : Nat) : List Document -> List Char
  | [] => []
  | item :: rest => ',' :: (newLine depth ++ written depth item ++ writtenItems depth rest)

def writtenFields (depth : Nat) : List (String × Document) -> List Char
  | [] => []
  | (name, value) :: rest =>
      ',' :: (newLine depth ++ writtenText name ++ ':' :: ' ' :: written depth value ++
        writtenFields depth rest)

end

mutual

def isWritable : Document -> Bool
  | whole value => value.natAbs < Nat.pow 10 Text.digitLimit
  | list items => areWritable items
  | record fields => haveWritable fields
  | _ => true

def areWritable : List Document -> Bool
  | [] => true
  | item :: rest => isWritable item && areWritable rest

def haveWritable : List (String × Document) -> Bool
  | [] => true
  | (_, value) :: rest => isWritable value && haveWritable rest

end

def write (document : Document) : String := String.ofList (written 0 document)

end Document
end Mosaic
