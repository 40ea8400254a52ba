import Mosaic.Number.Binary64
import Mosaic.Text.Half

/-!
# Documents

Saved mazes, goal records and targets are documents: trees of records, lists, texts and numbers.
Whole numbers and numbers with a fraction are told apart, and the fields of a record keep the order
in which they were written.

Documents come from outside, so a place where a number is wanted may hold anything.  The readers of
the other modules look at a document through the few views below.
-/

namespace Mosaic

inductive Document
  | null
  | bool (value : Bool)
  | whole (value : Int)
  | real (value : Binary64)
  | text (value : String)
  | list (items : List Document)
  | record (fields : List (String × Document))
  deriving Repr, Inhabited

namespace Document

def putField (fields : List (String × Document)) (name : String) (value : Document) :
    List (String × Document) :=
  match fields with
  | [] => [(name, value)]
  | (other, old) :: rest =>
      if other = name then (other, value) :: rest else (other, old) :: putField rest name value

def field? (fields : List (String × Document)) (name : String) : Option Document :=
  fields.lookup name

/-- Whether a value counts as given: the empty ones, zero and null do not. -/
def isGiven : Document -> Bool
  | null => false
  | bool value => value
  | whole value => value != 0
  | real (.finite _ mantissa _) => mantissa != 0
  | real _ => true
  | text value => value != ""
  | list items => !items.isEmpty
  | record fields => !fields.isEmpty

/-- The members of a value that can be gone through: the items of a list, the characters of a text
and the names of a record. -/
def members? : Document -> Option (List Document)
  | list items => some items
  | text value => some ((Text.characters value.toList).map fun cs => text (String.ofList cs))
  | record fields => some (fields.map fun entry => text entry.1)
  | _ => none

/-- Numbers in the wide sense, where false and true count as 0 and 1. -/
def wholeValue? : Document -> Option Int
  | bool value => some (if value then 1 else 0)
  | whole value => some value
  | _ => none

/-- Equality of two values that are neither lists nor records.  Numbers are compared by value. -/
def sameLeaf (left right : Document) : Bool :=
  match left, right with
  | null, null => true
  | text a, text b => a == b
  | real a, real b => Binary64.same a b
  | real a, b => (b.wholeValue?.map a.isWhole).getD false
  | a, real b => (a.wholeValue?.map b.isWhole).getD false
  | a, b =>
      match a.wholeValue?, b.wholeValue? with
      | some m, some n => m == n
      | _, _ => false

mutual

def same : Document -> Document -> Bool
  | list left, list right => sameItems left right
  | record left, record right => left.length == right.length && sameFields left right
  | left, right => sameLeaf left right

def sameItems : List Document -> List Document -> Bool
  | [], [] => true
  | a :: left, b :: right => same a b && sameItems left right
  | _, _ => false

def sameFields : List (String × Document) -> List (String × Document) -> Bool
  | [], _ => true
  | (name, a) :: left, right =>
      (match right.lookup name with
        | some b => same a b
        | none => false) && sameFields left right

end

/-- Whether a value may serve as a key: lists and records may not. -/
def isKey : Document -> Bool
  | list _ => false
  | record _ => false
  | _ => true

end Document
end Mosaic
