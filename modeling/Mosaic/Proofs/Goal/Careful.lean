import Mosaic.Proofs.Goal.Rows

/-!
# Tables drawn with care

A table can be drawn with care: before a number is asked for, one looks whether its range holds any,
and before a cell is painted, whether there is such a cell.  The first slip would put an end to the
drawing.  But there is none, whatever the source of chance answers: drawing with care gives the same
tables, and leaves the source in the same state.
-/

namespace Mosaic
namespace Grid

/-!
## Strips cell by cell
-/

theorem paintStrip_zero (grid : Grid) (row column : Nat) (value : Cell) :
    grid.paintStrip row column 0 value = grid := by
  have hrow : paintRow column 0 value = id := by
    funext cells
    refine List.ext_getElem? fun index => ?_
    have hnone : Not (column ≤ index ∧ index < column + 0) := by omega
    rw [getElem?_paintRow]
    simp only [if_neg hnone, Option.map_id', id_eq]
  unfold paintStrip
  rw [hrow, List.modify_id]

theorem paintStrip_succ (grid : Grid) (row column count : Nat) (value : Cell) :
    (grid.paintCell row column value).paintStrip row (column + 1) count value =
      grid.paintStrip row column (count + 1) value := by
  unfold paintStrip paintCell
  rw [List.modify_modify_eq]
  congr 1
  funext cells
  refine List.ext_getElem? fun index => ?_
  show (paintRow (column + 1) count value (cells.set column value))[index]? = _
  rw [getElem?_paintRow, getElem?_paintRow, List.getElem?_set]
  by_cases hindex : column = index
  · subst hindex
    have hbefore : Not (column + 1 ≤ column ∧ column < column + 1 + count) := by omega
    have hfirst : column ≤ column ∧ column < column + (count + 1) := by omega
    simp only [if_pos, if_neg hbefore, if_pos hfirst, Option.map_id']
    split
    · rename_i hinside
      rw [List.getElem?_eq_getElem hinside, Option.map_some]
    · rename_i houtside
      rw [List.getElem?_eq_none (Nat.le_of_not_lt houtside), Option.map_none]
  · have hsame : (column + 1 ≤ index ∧ index < column + 1 + count) ↔
        (column ≤ index ∧ index < column + (count + 1)) := by omega
    simp only [if_neg hindex, hsame]

end Grid

namespace Goal

open Draw

inductive Slip
  | emptyRange
  | noSuchCell
  deriving DecidableEq, Repr

/-- A draw that stops at the first slip. -/
abbrev Careful (σ α : Type) : Type := ExceptT Slip (Draw σ) α

namespace Careful

/-!
## Careful draws
-/

section Draws

variable {σ α β : Type}

/-- A careful draw that never slips goes as the draw does without care. -/
def NeverSlips (careful : Careful σ α) (draw : Draw σ α) : Prop :=
  forall source, careful.run source = (.ok (draw source).1, (draw source).2)

def smooth (draw : Draw σ α) : Careful σ α := ExceptT.lift draw

theorem neverSlips_of_eq_smooth {careful : Careful σ α} {draw : Draw σ α}
    (h : careful = smooth draw) : NeverSlips careful draw := by
  intro source
  rw [h]
  rfl

theorem bind_eq_smooth {careful : Careful σ α} {draw : Draw σ α} (hsmooth : careful = smooth draw)
    {P : α -> Prop} (h : Always draw P) {next : α -> Careful σ β} {rest : α -> Draw σ β}
    (hnext : forall value, P value -> next value = smooth (rest value)) :
    (careful >>= next) = smooth (draw >>= rest) := by
  subst hsmooth
  funext source
  exact congrFun (hnext (draw source).1 (h source)) (draw source).2

/-- A draw that is only made if its range holds something. -/
def provided (possible : Prop) [Decidable possible] (draw : Draw σ α) : Careful σ α :=
  if possible then smooth draw else throw .emptyRange

theorem provided_eq_smooth {possible : Prop} [Decidable possible] (h : possible)
    (draw : Draw σ α) : provided possible draw = smooth draw := if_pos h

variable [RandomSource σ]

def below (n : Nat) : Careful σ Nat := provided (0 < n) (Draw.below n)

def between (low high : Nat) : Careful σ Nat := provided (low ≤ high) (Draw.between low high)

def sample (count bound : Nat) : Careful σ (List Nat) :=
  provided (count ≤ bound) (Draw.sample count bound)

def choose : List α -> Careful σ α
  | [] => throw .emptyRange
  | first :: others => smooth (Draw.choose first others)

end Draws

/-!
## Careful painting
-/

section Painting

variable {σ : Type}

def paintCell (row column : Nat) (color : Color) (grid : Grid) : Careful σ Grid :=
  match grid.cell? row column with
  | some _ => pure (grid.paintCell row column (some color))
  | none => throw .noSuchCell

def paintStrip (row : Nat) (color : Color) : Nat -> Nat -> Grid -> Careful σ Grid
  | 0, _, grid => pure grid
  | count + 1, column, grid => do
      paintStrip row color count (column + 1) (<- paintCell row column color grid)

theorem paintStrip_of_inside (color : Color) {grid : Grid} {row : Nat} {cells : List Cell}
    (hrow : grid[row]? = some cells) {column count : Nat} (hinside : column + count ≤ cells.length) :
    (paintStrip row color count column grid : Careful σ Grid) =
      pure (grid.paintStrip row column count (some color)) := by
  induction count generalizing grid cells column with
  | zero => rw [Grid.paintStrip_zero, paintStrip]
  | succ count ih =>
      have hcell : grid.cell? row column = some cells[column] := by
        unfold Grid.cell?
        rw [hrow]
        exact List.getElem?_eq_getElem (by omega)
      have hnext : (grid.paintCell row column (some color))[row]? =
          some (cells.set column (some color)) := by
        unfold Grid.paintCell
        rw [List.getElem?_modify_eq, hrow, Option.map_eq_map, Option.map_some]
      rw [paintStrip, paintCell, hcell, pure_bind, ih hnext (by rw [List.length_set]; omega),
        Grid.paintStrip_succ]

end Painting

/-!
## Careful tables
-/

section Tables

variable {σ : Type} [RandomSource σ]

def primary : Careful σ Color := choose [.red, .green, .blue]

def withStrip (rows columns : Nat) (grid : Grid) : Careful σ Grid := do
  let row <- below rows
  let column <- below columns
  let color <- primary
  let count <- below (columns - column)
  paintStrip row color (count + 1) column grid

def withStrips (rows columns : Nat) : Nat -> Grid -> Careful σ Grid
  | 0, grid => pure grid
  | count + 1, grid => do withStrips rows columns count (<- withStrip rows columns grid)

def table : Careful σ Grid := do
  let rows <- between 3 12
  let columns <- between 3 12
  let strips <- between 3 7
  withStrips rows columns strips (Grid.blank rows columns)

def withRowStrips (columns row : Nat) : Nat -> Nat -> Grid -> Careful σ Grid
  | 0, _, grid => pure grid
  | count + 1, position, grid =>
      if columns - position < 2 then pure grid
      else do
        let start := position + (<- below (columns - position - 1))
        let size := (<- below (min (columns - start) 3)) + 1
        let color <- primary
        let painted <- paintStrip row color size start grid
        withRowStrips columns row count (start + size) painted

def withFilledRows (columns : Nat) : List Nat -> Grid -> Careful σ Grid
  | [], grid => pure grid
  | row :: rest, grid => do
      let count <- between 1 2
      withFilledRows columns rest (<- withRowStrips columns row count 0 grid)

def challengeTable : Careful σ Grid := do
  let rows <- between challengeRows 14
  let columns <- between 7 14
  let chosen <- sample challengeRows rows
  let filled <- withFilledRows columns chosen (Grid.blank rows columns)
  let extra <- between 0 2
  withStrips rows columns extra filled

def timedTable (secondsPerRow : Int) : Careful σ (Grid × Int) := do
  let grid <- challengeTable
  return (grid, secondsPerRow * grid.nonEmptyRows)

variable {rows columns : Nat} {grid : Grid}

theorem withStrip_eq_smooth (hrows : 0 < rows) (hcolumns : 0 < columns)
    (h : grid.IsPicture rows columns) :
    (withStrip rows columns grid : Careful σ Grid) = smooth (Goal.withStrip rows columns grid) := by
  unfold withStrip Goal.withStrip
  refine bind_eq_smooth (provided_eq_smooth hrows _) (always_below hrows) fun row hrow => ?_
  refine bind_eq_smooth (provided_eq_smooth hcolumns _) (always_below hcolumns)
    fun column hcolumn => ?_
  refine bind_eq_smooth rfl (always_any drawPrimary) fun color _ => ?_
  have hroom : 0 < columns - column := Nat.sub_pos_of_lt hcolumn
  refine bind_eq_smooth (provided_eq_smooth hroom _) (always_below hroom) fun count hcount => ?_
  rcases h.row hrow with ⟨cells, hcells, hwidth⟩
  exact paintStrip_of_inside color hcells (by omega)

theorem withStrips_eq_smooth (hrows : 0 < rows) (hcolumns : 0 < columns) (count : Nat)
    (h : grid.IsPicture rows columns) :
    (withStrips rows columns count grid : Careful σ Grid) =
      smooth (Goal.withStrips rows columns count grid) := by
  induction count generalizing grid with
  | zero => rfl
  | succ count ih =>
      exact bind_eq_smooth (withStrip_eq_smooth hrows hcolumns h)
        (always_withStrip (keptByStrips_isPicture rows columns) h rows columns) fun next hnext =>
          ih hnext

theorem table_eq_smooth : (table : Careful σ Grid) = smooth drawTable := by
  unfold table drawTable
  refine bind_eq_smooth (provided_eq_smooth (by decide) _) (always_between (by decide))
    fun rows hrows => ?_
  refine bind_eq_smooth (provided_eq_smooth (by decide) _) (always_between (by decide))
    fun columns hcolumns => ?_
  refine bind_eq_smooth (provided_eq_smooth (by decide) _) (always_any _) fun strips _ => ?_
  exact withStrips_eq_smooth (by omega) (by omega) strips (Grid.isPicture_blank rows columns)

theorem withRowStrips_eq_smooth {row : Nat} (hrow : row < rows) (count position : Nat)
    (h : grid.IsPicture rows columns) :
    (withRowStrips columns row count position grid : Careful σ Grid) =
      smooth (Goal.withRowStrips columns row count position grid) := by
  induction count generalizing position grid with
  | zero => rfl
  | succ count ih =>
      unfold withRowStrips Goal.withRowStrips
      split
      · rfl
      · rename_i hroom
        have hoffsets : 0 < columns - position - 1 := by omega
        refine bind_eq_smooth (provided_eq_smooth hoffsets _) (always_below hoffsets)
          fun offset hoffset => ?_
        have hsizes : 0 < min (columns - (position + offset)) 3 := by omega
        refine bind_eq_smooth (provided_eq_smooth hsizes _) (always_below hsizes) fun size hsize => ?_
        refine bind_eq_smooth rfl always_drawPrimary fun color hcolor => ?_
        rcases h.row hrow with ⟨cells, hcells, hwidth⟩
        rw [paintStrip_of_inside color hcells (by omega), pure_bind]
        exact ih _ (keptByStrips_isPicture rows columns grid row _ _ color hcolor h)

theorem withFilledRows_eq_smooth {chosen : List Nat}
    (hchosen : forall row, row ∈ chosen -> row < rows) (h : grid.IsPicture rows columns) :
    (withFilledRows columns chosen grid : Careful σ Grid) =
      smooth (Goal.withFilledRows columns chosen grid) := by
  induction chosen generalizing grid with
  | nil => rfl
  | cons first rest ih =>
      rcases List.forall_mem_cons.mp hchosen with ⟨hfirst, hrest⟩
      unfold withFilledRows Goal.withFilledRows
      refine bind_eq_smooth (provided_eq_smooth (by decide) _) (always_any _) fun count _ => ?_
      exact bind_eq_smooth (withRowStrips_eq_smooth hfirst count 0 h)
        (always_withRowStrips (keptByStrips_isPicture rows columns) columns first count h)
        fun next hnext => ih hrest hnext

theorem challengeTable_eq_smooth :
    (challengeTable : Careful σ Grid) = smooth drawChallengeTable := by
  unfold challengeTable drawChallengeTable
  refine bind_eq_smooth (provided_eq_smooth (by decide) _) (always_between (by decide))
    fun rows hrows => ?_
  refine bind_eq_smooth (provided_eq_smooth (by decide) _) (always_between (by decide))
    fun columns hcolumns => ?_
  refine bind_eq_smooth (provided_eq_smooth hrows.left _) (always_sample hrows.left)
    fun chosen hchosen => ?_
  have hblank := Grid.isPicture_blank rows columns
  refine bind_eq_smooth (withFilledRows_eq_smooth hchosen.right.right hblank)
    (always_withFilledRows (keptByStrips_isPicture rows columns) columns chosen hblank)
    fun filled hfilled => ?_
  refine bind_eq_smooth (provided_eq_smooth (by decide) _) (always_any _) fun extra _ => ?_
  have hheight : 0 < rows := Nat.lt_of_lt_of_le (by decide) hrows.left
  exact withStrips_eq_smooth hheight (by omega) extra hfilled

theorem timedTable_eq_smooth (secondsPerRow : Int) :
    (timedTable secondsPerRow : Careful σ (Grid × Int)) = smooth (drawTimedTable secondsPerRow) :=
  bind_eq_smooth challengeTable_eq_smooth (always_any _) fun _ _ => rfl

end Tables
end Careful

/-- Whatever the source of chance answers, no number is asked for from an empty range and no cell is
painted beside the table.  In free play the table has three to twelve rows and columns and a lit
cell.  In a challenge it has ten to fourteen rows and seven to fourteen columns, ten of the rows at
least show something, and each row that does counts in the time budget. -/
theorem drawn_tables_sound (σ : Type) [RandomSource σ] :
    (Careful.NeverSlips Careful.table (drawTable : Draw σ Grid) ∧
      Always (drawTable : Draw σ Grid) fun grid => exists rows columns,
        (3 ≤ rows ∧ rows ≤ 12) ∧ (3 ≤ columns ∧ columns ≤ 12) ∧
          grid.IsPicture rows columns ∧ grid.IsLit) ∧
    forall secondsPerRow : Int,
      Careful.NeverSlips (Careful.timedTable secondsPerRow)
        (drawTimedTable secondsPerRow : Draw σ (Grid × Int)) ∧
      Always (drawTimedTable secondsPerRow : Draw σ (Grid × Int)) fun table =>
        exists rows columns, (10 ≤ rows ∧ rows ≤ 14) ∧ (7 ≤ columns ∧ columns ≤ 14) ∧
          table.1.IsPicture rows columns ∧ 10 ≤ table.1.nonEmptyRows ∧
            table.2 = secondsPerRow * table.1.nonEmptyRows :=
  ⟨⟨Careful.neverSlips_of_eq_smooth Careful.table_eq_smooth, always_drawTable⟩,
    fun secondsPerRow =>
      ⟨Careful.neverSlips_of_eq_smooth (Careful.timedTable_eq_smooth secondsPerRow),
        always_drawTimedTable secondsPerRow⟩⟩

end Goal
end Mosaic
