/-!
# Lines

A program text is cut into lines at line feeds only.  A text read from a file first has its
carriage returns, alone or before a line feed, turned into line feeds.
-/

namespace Mosaic
namespace Text

/-- The lines of a text: one more than it has line feeds. -/
def lines : List Char -> List (List Char)
  | [] => [[]]
  | c :: rest =>
      if c = '\n' then [] :: lines rest
      else match lines rest with
        | [] => [[c]]
        | first :: others => (c :: first) :: others

def plainLineEnds : List Char -> List Char
  | [] => []
  | '\r' :: '\n' :: rest => '\n' :: plainLineEnds rest
  | c :: rest => (if c = '\r' then '\n' else c) :: plainLineEnds rest

def joinLines (rows : List (List Char)) : List Char := ['\n'].intercalate rows

end Text
end Mosaic
