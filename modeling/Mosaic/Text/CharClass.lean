/-!
# Classes of characters

A class of characters is kept as an ascending list of ranges of code points, both ends
included.  The tables of the neighbouring modules are such lists; this module holds the one
test that reads them, which stops at the first range that lies beyond the character.
-/

namespace Mosaic
namespace Text

def inRanges : List (Nat × Nat) -> Nat -> Bool
  | [], _ => false
  | (low, high) :: rest, point =>
      if point < low then false else point ≤ high || inRanges rest point

end Text
end Mosaic
