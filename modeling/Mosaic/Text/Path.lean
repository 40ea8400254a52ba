/-!
# Paths

A path is a row of names, with one or two slashes in front if it starts at the root.  Empty names
and single dots vanish when a path is read, so a path is written in one way only; a double dot is
an ordinary name here, and means something only where a path is followed.
-/

namespace Mosaic
namespace Text

def pieces : List Char -> List (List Char)
  | [] => [[]]
  | c :: rest =>
      if c = '/' then [] :: pieces rest
      else match pieces rest with
        | [] => [[c]]
        | first :: others => (c :: first) :: others

end Text

structure Path where
  slashes : Nat
  names : List (List Char)
  deriving DecidableEq, Repr, Inhabited

namespace Path

def leadingSlashes (cs : List Char) : Nat :=
  let count := (cs.takeWhile (· == '/')).length
  if 2 < count then 1 else count

def ofText (text : String) : Path where
  slashes := leadingSlashes text.toList
  names := (Text.pieces text.toList).filter fun name => name != [] && name != ['.']

def text (path : Path) : String :=
  if path.slashes = 0 && path.names.isEmpty then "."
  else String.ofList (List.replicate path.slashes '/' ++ ['/'].intercalate path.names)

def name (path : Path) : List Char := path.names.getLast?.getD []

/-- The last name from its last dot on, if that dot is neither its first nor its last character. -/
def suffix (path : Path) : List Char :=
  let stem := path.name.reverse.dropWhile (· != '.')
  let tail := (path.name.reverse.takeWhile (· != '.')).reverse
  if stem.length ≤ 1 || tail.isEmpty then [] else '.' :: tail

def inside (folder path : Path) : Path :=
  if path.slashes = 0 then ⟨folder.slashes, folder.names ++ path.names⟩ else path

def leadsTo (path other : Path) : Bool :=
  path.slashes = other.slashes && path.names.isPrefixOf other.names

def relativeTo? (path folder : Path) : Option Path :=
  if folder.leadsTo path then
    some ⟨0, path.names.drop folder.names.length⟩
  else none

def parent (path : Path) : Path := { path with names := path.names.dropLast }

end Path
end Mosaic
