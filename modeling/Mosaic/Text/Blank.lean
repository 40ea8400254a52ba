import Mosaic.Text.CharClass

/-!
# White space

The white space of a program text is the white space of Unicode together with the four
separators U+001C to U+001F.  A zero-width space is not blank.
-/

namespace Mosaic
namespace Text

def blankRanges : List (Nat × Nat) := [
  (0x0009, 0x000D), (0x001C, 0x0020), (0x0085, 0x0085), (0x00A0, 0x00A0),
  (0x1680, 0x1680), (0x2000, 0x200A), (0x2028, 0x2029), (0x202F, 0x202F),
  (0x205F, 0x205F), (0x3000, 0x3000)]

def isBlank (c : Char) : Bool := inRanges blankRanges c.toNat

def trimLeft (cs : List Char) : List Char := cs.dropWhile isBlank

def trimRight (cs : List Char) : List Char := (trimLeft cs.reverse).reverse

def trim (cs : List Char) : List Char := trimRight (trimLeft cs)

/-- The words of a text, which are its longest parts without white space. -/
def words : List Char -> List (List Char)
  | [] => []
  | c :: rest =>
      if isBlank c then words rest
      else match rest with
        | [] => [[c]]
        | next :: _ =>
            if isBlank next then [c] :: words rest
            else match words rest with
              | [] => [[c]]
              | first :: others => (c :: first) :: others

end Text
end Mosaic
