import Mosaic.Goal
import Mosaic.Proofs.Program.Reading
import Mosaic.Proofs.Random.Draws

/-!
# The strips of table goals

Painting never puts out a lit cell, and the first strip of a row always has room.  What strips leave
as it is stays so through every loop in which they are drawn.
-/

namespace Mosaic
namespace Grid

def IsLit (grid : Grid) : Prop :=
  exists row, row ∈ grid ∧ exists cell, cell ∈ row ∧ cell.isSome = true

theorem isEmptyRow_eq_false_iff {row : List Cell} :
    isEmptyRow row = false ↔ exists cell, cell ∈ row ∧ cell.isSome = true := by
  unfold isEmptyRow
  simp [Option.isSome_iff_ne_none]

theorem nonEmptyRows_pos_iff {grid : Grid} : 0 < grid.nonEmptyRows ↔ grid.IsLit := by
  unfold nonEmptyRows IsLit
  rw [List.countP_pos_iff]
  simp only [Bool.not_eq_true', isEmptyRow_eq_false_iff]

theorem paintRow_isLit {row : List Cell} (h : exists cell, cell ∈ row ∧ cell.isSome = true)
    (column count : Nat) (color : Color) :
    exists cell, cell ∈ paintRow column count (some color) row ∧ cell.isSome = true := by
  rcases h with ⟨cell, hcell, hsome⟩
  rcases List.mem_iff_getElem?.mp hcell with ⟨index, hindex⟩
  have hpainted := getElem?_paintRow column count (some color) row index
  rw [hindex] at hpainted
  refine ⟨_, List.mem_of_getElem? hpainted, ?_⟩
  split
  · rfl
  · exact hsome

theorem paintRow_lights {row : List Cell} {column count : Nat} (hcolumn : column < row.length)
    (hcount : 0 < count) (color : Color) :
    exists cell, cell ∈ paintRow column count (some color) row ∧ cell.isSome = true := by
  have hpainted := getElem?_paintRow column count (some color) row column
  rw [List.getElem?_eq_getElem hcolumn, Option.map_some, if_pos ⟨Nat.le_refl _, by omega⟩]
    at hpainted
  exact ⟨some color, List.mem_of_getElem? hpainted, rfl⟩

def LitAt (grid : Grid) (row : Nat) : Prop :=
  exists cells, grid[row]? = some cells ∧ exists cell, cell ∈ cells ∧ cell.isSome = true

theorem isLit_iff {grid : Grid} : grid.IsLit ↔ exists row, grid.LitAt row := by
  constructor
  · intro h
    rcases h with ⟨cells, hcells, hlit⟩
    rcases List.mem_iff_getElem?.mp hcells with ⟨row, hrow⟩
    exact ⟨row, cells, hrow, hlit⟩
  · intro h
    rcases h with ⟨row, cells, hrow, hlit⟩
    exact ⟨cells, List.mem_of_getElem? hrow, hlit⟩

theorem paintStrip_litAt {grid : Grid} {lit : Nat} (h : grid.LitAt lit) (row column count : Nat)
    (color : Color) : (grid.paintStrip row column count (some color)).LitAt lit := by
  rcases h with ⟨cells, hcells, hlit⟩
  have hpainted := grid.getElem?_paintStrip row column count (some color) lit
  rw [hcells] at hpainted
  split at hpainted
  · exact ⟨_, hpainted, paintRow_isLit hlit column count color⟩
  · exact ⟨_, hpainted, hlit⟩

theorem paintStrip_lights {grid : Grid} {cells : List Cell} {row column count : Nat}
    (hrow : grid[row]? = some cells) (hcolumn : column < cells.length) (hcount : 0 < count)
    (color : Color) : (grid.paintStrip row column count (some color)).LitAt row := by
  have hpainted := grid.getElem?_paintStrip row column count (some color) row
  rw [if_pos rfl, hrow] at hpainted
  exact ⟨_, hpainted, paintRow_lights hcolumn hcount color⟩

end Grid

namespace Goal

open Draw

variable {σ : Type} [RandomSource σ]

/-- A property of grids that a strip painted in a primary colour does not take away. -/
def KeptByStrips (P : Grid -> Prop) : Prop :=
  forall (grid : Grid) (row column count : Nat) (color : Color), color.IsPrimary -> P grid ->
    P (grid.paintStrip row column count (some color))

theorem keptByStrips_litAt (lit : Nat) : KeptByStrips fun grid => grid.LitAt lit := by
  intro grid row column count color _ h
  exact Grid.paintStrip_litAt h row column count color

theorem keptByStrips_isLit : KeptByStrips Grid.IsLit := by
  intro grid row column count color hcolor h
  rcases Grid.isLit_iff.mp h with ⟨lit, hlit⟩
  exact Grid.isLit_iff.mpr ⟨lit, keptByStrips_litAt lit grid row column count color hcolor hlit⟩

theorem always_drawPrimary : Always (drawPrimary : Draw σ Color) Color.IsPrimary := by
  refine (always_choose Color.red [.green, .blue]).imp fun color hcolor => ?_
  simpa [Color.IsPrimary] using hcolor

section Strips

variable {P : Grid -> Prop} (hkept : KeptByStrips P)

include hkept

theorem always_withStrip {grid : Grid} (h : P grid) (rows columns : Nat) :
    Always (withStrip rows columns grid : Draw σ Grid) P := by
  unfold withStrip
  refine always_bind (always_any _) fun row _ => always_bind (always_any _) fun column _ =>
    always_bind always_drawPrimary fun color hcolor => always_bind (always_any _) fun count _ =>
      always_pure ?_
  exact hkept grid row column (count + 1) color hcolor h

theorem always_withStrips (rows columns count : Nat) {grid : Grid} (h : P grid) :
    Always (withStrips rows columns count grid : Draw σ Grid) P := by
  induction count generalizing grid with
  | zero => exact always_pure h
  | succ count ih =>
      exact always_bind (always_withStrip hkept h rows columns) fun next hnext => ih hnext

theorem always_withRowStrips (columns row count : Nat) {position : Nat} {grid : Grid} (h : P grid) :
    Always (withRowStrips columns row count position grid : Draw σ Grid) P := by
  induction count generalizing position grid with
  | zero => exact always_pure h
  | succ count ih =>
      unfold withRowStrips
      split
      · exact always_pure h
      · refine always_bind (always_any _) fun offset _ => always_bind (always_any _) fun size _ =>
          always_bind always_drawPrimary fun color hcolor => ?_
        exact ih (hkept grid _ _ _ color hcolor h)

theorem always_withFilledRows (columns : Nat) (rows : List Nat) {grid : Grid} (h : P grid) :
    Always (withFilledRows columns rows grid : Draw σ Grid) P := by
  induction rows generalizing grid with
  | nil => exact always_pure h
  | cons row rest ih =>
      exact always_bind (always_any _) fun count _ =>
        always_bind (always_withRowStrips hkept columns row count h) fun next hnext => ih hnext

end Strips

theorem withRowStrips_lights {columns row count : Nat} {grid : Grid} {cells : List Cell}
    (hcount : 0 < count) (hcolumns : 2 ≤ columns) (hrow : grid[row]? = some cells)
    (hwidth : cells.length = columns) :
    Always (withRowStrips columns row count 0 grid : Draw σ Grid) fun next => next.LitAt row := by
  cases count with
  | zero => cases hcount
  | succ count =>
      unfold withRowStrips
      rw [if_neg (by omega)]
      refine always_bind (always_below (by omega)) fun offset hoffset =>
        always_bind (always_any _) fun size _ => always_bind (always_any _) fun color _ => ?_
      refine always_withRowStrips (keptByStrips_litAt row) columns row count
        (Grid.paintStrip_lights hrow ?_ (by omega) color)
      omega

end Goal
end Mosaic
