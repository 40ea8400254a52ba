import Mosaic.Document
import Mosaic.Number.Shortest
import Mosaic.Text.Quoted

/-!
# How messages show a value

A message that refuses a value shows it: texts in quotes, lists in brackets, records in braces.
As the text of a program or of a name, a value is shown in the same way, except that a text stands
for itself.
-/

namespace Mosaic
namespace Document

def shownReal : Binary64 -> List Char
  | .nan => "nan".toList
  | .infinite negative => (if negative then "-inf" else "inf").toList
  | .finite negative mantissa exponent => Binary64.finiteText negative mantissa exponent

mutual

def shown : Document -> List Char
  | null => "None".toList
  | bool value => (if value then "True" else "False").toList
  | whole value => (toString value).toList
  | real value => shownReal value
  | text value => Text.quoted value.toList
  | list items => '[' :: (shownItems items ++ [']'])
  | record fields => '\x7b' :: (shownFields fields ++ ['\x7d'])

def shownItems : List Document -> List Char
  | [] => []
  | [item] => shown item
  | item :: rest => shown item ++ ',' :: ' ' :: shownItems rest

def shownFields : List (String × Document) -> List Char
  | [] => []
  | [(name, value)] => Text.quoted name.toList ++ ':' :: ' ' :: shown value
  | (name, value) :: rest =>
      Text.quoted name.toList ++ ':' :: ' ' :: (shown value ++ ',' :: ' ' :: shownFields rest)

end

def asText : Document -> String
  | text value => value
  | other => String.ofList other.shown

end Document
end Mosaic
