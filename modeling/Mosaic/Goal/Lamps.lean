import Mosaic.Grid
import Mosaic.Program.Command
import Mosaic.Random.Source
import Mosaic.Text.Lines

/-!
# Lamp goals

A goal for MATRIX is what thirty to sixty random switches leave lit, drawn again and again until the
wanted number of lamps is lit.  The program that goes with it has a line for every switch.
-/

namespace Mosaic
namespace Goal

structure Toggle where
  axis : Axis
  index : Nat
  on : Bool
  deriving DecidableEq, Repr

namespace Toggle

def address (toggle : Toggle) : Char :=
  match toggle.axis with
  | .row => Char.ofNat ('1'.toNat + toggle.index)
  | .column => Char.ofNat ('A'.toNat + toggle.index)

def line (toggle : Toggle) : List Char := [if toggle.on then '+' else '-', ' ', toggle.address]

def apply (grid : Grid) (toggle : Toggle) : Grid :=
  let value : Cell := if toggle.on then some .white else none
  match toggle.axis with
  | .row => grid.paintWholeRow toggle.index value
  | .column => (grid.paintColumn toggle.index value).1

end Toggle

def lampSize : Nat := 8

def lampsAfter (toggles : List Toggle) : Grid :=
  toggles.foldl Toggle.apply (Grid.blank lampSize lampSize)

def lampCode (toggles : List Toggle) : String :=
  String.ofList (Text.joinLines (toggles.map Toggle.line))

variable {σ : Type} [RandomSource σ]

def drawToggle : Draw σ Toggle := do
  let isRow <- Draw.coin
  let index <- Draw.below lampSize
  let on <- Draw.coin
  return ⟨if isRow then .row else .column, index, on⟩

def drawToggles : Draw σ (List Toggle) := do Draw.times (<- Draw.between 30 60) drawToggle

/-- Switches that leave so many lamps lit, if one of so many attempts finds some. -/
def searchToggles (litCells : Int) : Nat -> Draw σ (Option (List Toggle))
  | 0 => pure none
  | attempts + 1 => do
      let toggles <- drawToggles
      if (lampsAfter toggles).litCells = litCells then return some toggles
      searchToggles litCells attempts

def usualLitLamps : Int := 40

def usualAttempts : Int := 100000

end Goal
end Mosaic
