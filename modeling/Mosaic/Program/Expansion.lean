import Mosaic.Program.Command

/-!
# Loops written out

`Op.expand` writes every loop out in full, however long the result; a body that comes to nothing is
not repeated.  `Op.expandUpTo` stops at a limit and never builds more than one copy of a loop body
beyond it, so the counts and the nesting of the loops do not matter for its cost.
-/

namespace Mosaic
namespace Op

mutual

def expand : Op -> List Command
  | once command => [command]
  | loop _ count body =>
      let copy := expandAll body
      if copy.isEmpty then [] else (List.replicate count copy).flatten

def expandAll : List Op -> List Command
  | [] => []
  | op :: rest => expand op ++ expandAll rest

end

def copiesFor (limit size : Nat) : Nat := (limit + size - 1) / size

mutual

/-- The first commands that an operation stands for, at most so many. -/
def expandUpTo (limit : Nat) : Op -> List Command
  | once command => [command].take limit
  | loop _ count body =>
      let copy := expandAllUpTo limit body
      (List.replicate (min count (copiesFor limit copy.length)) copy).flatten.take limit

def expandAllUpTo (limit : Nat) : List Op -> List Command
  | [] => []
  | op :: rest =>
      let start := expandUpTo limit op
      start ++ expandAllUpTo (limit - start.length) rest

end

end Op
end Mosaic
