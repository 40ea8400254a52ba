import Mosaic.Grid
import Mosaic.Random.Source

/-!
# Table goals

A goal for TABLE and GRID is a table with strips of the primary colours.  In free play it has a few
strips anywhere.  In a challenge ten different rows get a strip or two, one to the right of the
other, and then up to two more strips land anywhere.
-/

namespace Mosaic
namespace Goal

variable {σ : Type} [RandomSource σ]

def drawPrimary : Draw σ Color := Draw.choose .red [.green, .blue]

def withStrip (rows columns : Nat) (grid : Grid) : Draw σ Grid := do
  let row <- Draw.below rows
  let column <- Draw.below columns
  let color <- drawPrimary
  let count <- Draw.below (columns - column)
  return grid.paintStrip row column (count + 1) (some color)

def withStrips (rows columns : Nat) : Nat -> Grid -> Draw σ Grid
  | 0, grid => pure grid
  | count + 1, grid => do withStrips rows columns count (<- withStrip rows columns grid)

def drawTable : Draw σ Grid := do
  let rows <- Draw.between 3 12
  let columns <- Draw.between 3 12
  let strips <- Draw.between 3 7
  withStrips rows columns strips (Grid.blank rows columns)

/-- A table with so many strips in one row, the first of them from a column on; a row with less than
two cells left gets no more. -/
def withRowStrips (columns row : Nat) : Nat -> Nat -> Grid -> Draw σ Grid
  | 0, _, grid => pure grid
  | count + 1, position, grid =>
      if columns - position < 2 then pure grid
      else do
        let start := position + (<- Draw.below (columns - position - 1))
        let size := (<- Draw.below (min (columns - start) 3)) + 1
        let color <- drawPrimary
        withRowStrips columns row count (start + size)
          (grid.paintStrip row start size (some color))

def withFilledRows (columns : Nat) : List Nat -> Grid -> Draw σ Grid
  | [], grid => pure grid
  | row :: rest, grid => do
      let count <- Draw.between 1 2
      withFilledRows columns rest (<- withRowStrips columns row count 0 grid)

def challengeRows : Nat := 10

def drawChallengeTable : Draw σ Grid := do
  let rows <- Draw.between challengeRows 14
  let columns <- Draw.between 7 14
  let chosen <- Draw.sample challengeRows rows
  let filled <- withFilledRows columns chosen (Grid.blank rows columns)
  let extra <- Draw.between 0 2
  withStrips rows columns extra filled

end Goal
end Mosaic
