import Mathlib
import Mosaic.Proofs.Program.Expansion
import Mosaic.Proofs.Program.Loops
import Mosaic.Proofs.Run.Filling

/-!
# Loops carried out turn by turn

A screen line can be carried out as it was read, its loops turn by turn, or written out first, and no
further than a row of the screen is wide.  The cells that are left out then would have been painted
beside the screen, so both ways paint the same picture.  Only the cursor tells them apart: it runs on
beside the screen with the loops, and stays within the width without them.
-/

namespace Mosaic
namespace Grid

/-- A grid with cells painted along a row, from a column on and as far as the row reaches. -/
def paintCells (row column : Nat) : List Cell -> Grid -> Grid
  | [], grid => grid
  | cell :: rest, grid => paintCells row (column + 1) rest (grid.paintCell row column cell)

theorem paintCells_append (row column : Nat) (front back : List Cell) (grid : Grid) :
    paintCells row column (front ++ back) grid =
      paintCells row (column + front.length) back (paintCells row column front grid) := by
  induction front generalizing column grid with
  | nil => rfl
  | cons cell rest ih =>
      rw [List.cons_append, paintCells, paintCells, ih, List.length_cons, Nat.add_right_comm,
        Nat.add_assoc]

def IsWithin (grid : Grid) (columns : Nat) : Prop := forall row, row ∈ grid -> row.length ≤ columns

theorem isWithin_paintCell {grid : Grid} {columns : Nat} (h : grid.IsWithin columns)
    (row column : Nat) (value : Cell) : (grid.paintCell row column value).IsWithin columns := by
  intro cells hcells
  unfold paintCell at hcells
  rcases List.mem_iff_getElem?.mp hcells with ⟨index, hindex⟩
  rw [List.getElem?_modify] at hindex
  split at hindex
  · rcases Option.map_eq_some_iff.mp hindex with ⟨before, hbefore, rfl⟩
    rw [List.length_set]
    exact h before (List.mem_of_getElem? hbefore)
  · rw [Option.map_eq_map, Option.map_id_fun'] at hindex
    exact h cells (List.mem_of_getElem? hindex)

theorem paintCell_beside {grid : Grid} {columns : Nat} (h : grid.IsWithin columns) (row : Nat)
    {column : Nat} (hcolumn : columns ≤ column) (value : Cell) :
    grid.paintCell row column value = grid := by
  unfold paintCell
  refine List.ext_getElem? fun index => ?_
  rw [List.getElem?_modify]
  split
  · cases hcells : grid[index]? with
    | none => rfl
    | some cells =>
        have hwidth := h cells (List.mem_of_getElem? hcells)
        show some (cells.set column value) = some cells
        rw [List.set_eq_of_length_le (by omega)]
  · exact congrFun Option.map_id grid[index]?

theorem paintCells_beside {grid : Grid} {columns : Nat} (h : grid.IsWithin columns) (row : Nat)
    {column : Nat} (hcolumn : columns ≤ column) (cells : List Cell) :
    paintCells row column cells grid = grid := by
  induction cells generalizing column with
  | nil => rfl
  | cons cell rest ih =>
      rw [paintCells, paintCell_beside h row hcolumn]
      exact ih (Nat.le_succ_of_le hcolumn)

theorem isWithin_paintCells {grid : Grid} {columns : Nat} (h : grid.IsWithin columns)
    (row column : Nat) (cells : List Cell) :
    (paintCells row column cells grid).IsWithin columns := by
  induction cells generalizing column grid with
  | nil => exact h
  | cons cell rest ih => exact ih (isWithin_paintCell h row column cell) (column + 1)

/-- Of the cells painted from the left, only so many show as the rows are wide. -/
theorem paintCells_take {grid : Grid} {columns : Nat} (h : grid.IsWithin columns) (row : Nat)
    (cells : List Cell) : paintCells row 0 (cells.take columns) grid = paintCells row 0 cells grid := by
  by_cases hfew : cells.length ≤ columns
  · rw [List.take_of_length_le hfew]
  · have hfront : (cells.take columns).length = columns := by
      rw [List.length_take]
      omega
    have hwhole := paintCells_append row 0 (cells.take columns) (cells.drop columns) grid
    rw [List.take_append_drop] at hwhole
    rw [hwhole]
    exact (paintCells_beside (isWithin_paintCells h row 0 _) row (by omega) _).symm

end Grid

def Command.IsInk (command : Command) : Prop := exists cell : Cell, command.action = cell.action

namespace Op

theorem expandAll_map_once (commands : List Command) :
    expandAll (commands.map once) = commands := by
  induction commands with
  | nil => rfl
  | cons command rest ih => rw [List.map_cons, expandAll, expand, ih, List.singleton_append]

def cells (ops : List Op) : List Cell := (expandAll ops).map fun command => command.action.cell

theorem length_cells (ops : List Op) : (cells ops).length = (expandAll ops).length :=
  List.length_map _

theorem cells_cons (op : Op) (rest : List Op) : cells (op :: rest) = cells [op] ++ cells rest := by
  unfold cells
  rw [expandAll, expandAll_singleton, List.map_append]

theorem cells_loop (line : Int) (count : Nat) (body : List Op) :
    cells [loop line count body] = (List.replicate count (cells body)).flatten := by
  unfold cells
  rw [expandAll_singleton, expand_loop, List.map_flatten, List.map_replicate]

theorem cells_once {command : Command} {cell : Cell} (h : command.action = cell.action) :
    cells [once command] = [cell] := by
  show [command.action.cell] = [cell]
  rw [h]
  cases cell with
  | none => rfl
  | some color => rfl

theorem cells_cut (limit : Nat) (ops : List Op) :
    cells ((expandAllUpTo limit ops).map once) = (cells ops).take limit := by
  unfold cells
  rw [expandAll_map_once, expandAllUpTo_eq_take, List.map_take]

theorem everyOf_map_once {P : Command -> Prop} {commands : List Command}
    (h : forall command, command ∈ commands -> P command) : EveryOf P (commands.map once) := by
  rw [everyOf_iff]
  intro op hop
  rcases List.mem_map.mp hop with ⟨command, hcommand, rfl⟩
  rw [Every]
  exact h command hcommand

end Op

namespace Program

theorem isInk_of_parseLine {line : Int} {cs : List Char} {ops : List Op}
    (h : parseLine .pixel line cs = .ok ops) : Op.EveryOf Command.IsInk ops := by
  unfold parseLine at h
  simp only at h
  split at h
  · cases h
    trivial
  · refine Screen.lineOps_every ?_ h
    intro text action hword
    rcases Screen.wordAction?_cases hword with rfl | ⟨color, rfl⟩
    · exact ⟨none, rfl⟩
    · exact ⟨some color, rfl⟩

end Program

namespace Run

def onScreen (run : Run) (picture : Grid) (row column : Nat) : Run :=
  { run with grid := some picture, cursor := ((row : Int), (column : Int)) }

/-- An action that paints cells from the cursor on, moves the cursor behind them and does nothing
else. -/
def Inks (action : Run -> Carried) (cells : List Cell) : Prop :=
  forall (run : Run) (picture : Grid) (row column : Nat),
    action (run.onScreen picture row column) =
      done (run.onScreen (Grid.paintCells row column cells picture) row (column + cells.length))

theorem inks_done : Inks done [] := by
  intro run picture row column
  rfl

theorem inks_applyCommand {command : Command} {cell : Cell} (h : command.action = cell.action) :
    Inks (fun run => run.applyCommand command) [cell] := by
  intro run picture row column
  simp only [applyCommand, h, apply_action]
  unfold painted onScreen
  simp only
  rw [if_neg (by simp)]
  rfl

theorem Inks.andThen {action next : Run -> Carried} {front back : List Cell} (h : Inks action front)
    (hnext : Inks next back) : Inks (fun run => (action run).andThen next) (front ++ back) := by
  intro run picture row column
  have hfront := h run picture row column
  have hback := hnext run (Grid.paintCells row column front picture) row (column + front.length)
  rw [Grid.paintCells_append, List.length_append, ← Nat.add_assoc]
  show (action (run.onScreen picture row column)).andThen next = _
  rw [hfront]
  exact hback

theorem Inks.repeated {action : Run -> Carried} {cells : List Cell} (h : Inks action cells)
    (count : Nat) : Inks (repeated action count) (List.replicate count cells).flatten := by
  induction count with
  | zero => exact inks_done
  | succ count ih =>
      rw [List.replicate_succ, List.flatten_cons]
      exact h.andThen ih

/-!
## Operations
-/

mutual

/-- An operation paints the cells that it stands for, in each of its loops turn by turn. -/
theorem inks_applyOp {op : Op} (h : Op.Every Command.IsInk op) :
    Inks (applyOp op) (Op.cells [op]) := by
  cases op with
  | once command =>
      rw [Op.Every] at h
      rcases h with ⟨cell, hcell⟩
      rw [Op.cells_once hcell]
      exact inks_applyCommand hcell
  | loop line count body =>
      rw [Op.Every] at h
      rw [Op.cells_loop]
      exact (inks_applyOps h).repeated count

theorem inks_applyOps {ops : List Op} (h : Op.EveryOf Command.IsInk ops) :
    Inks (applyOps ops) (Op.cells ops) := by
  cases ops with
  | nil => exact inks_done
  | cons op rest =>
      rw [Op.EveryOf] at h
      rw [Op.cells_cons]
      exact (inks_applyOp h.left).andThen (inks_applyOps h.right)

end

theorem enterLine_onScreen {run : Run} {picture : Grid} (hmode : run.mode = .pixel)
    (hgrid : run.grid = some picture) (line : Nat) :
    run.enterLine line = (run.enterLine line).onScreen picture line 0 := by
  unfold onScreen enterLine
  rw [if_pos hmode, ← hgrid]
  rfl

/-- A screen line paints the same picture whether its loops are carried out turn by turn or written
out as far as a row is wide, and nothing else but the cursor is different. -/
theorem loops_paint_as_written_out {source : Int} {cs : List Char} {ops : List Op}
    (hops : Program.parseLine .pixel source cs = .ok ops) (line : Nat) {run : Run} {picture : Grid}
    (hmode : run.mode = .pixel) (hgrid : run.grid = some picture)
    (hwidth : picture.IsWithin Program.screenWidth) :
    exists painted,
      applyOps ops (run.enterLine line) =
        done ((run.enterLine line).onScreen painted line (Op.expandAll ops).length) ∧
      applyOps ((Op.expandAllUpTo Program.screenWidth ops).map .once) (run.enterLine line) =
        done ((run.enterLine line).onScreen painted line
          (min (Op.expandAll ops).length Program.screenWidth)) := by
  have hink := Program.isInk_of_parseLine hops
  have hcut : Op.EveryOf Command.IsInk
      ((Op.expandAllUpTo Program.screenWidth ops).map .once) :=
    Op.everyOf_map_once (Op.of_mem_expandAllUpTo hink)
  have hstart := enterLine_onScreen hmode hgrid line
  refine ⟨Grid.paintCells line 0 (Op.cells ops) picture, ?_, ?_⟩
  · have hwhole := inks_applyOps hink (run.enterLine line) picture line 0
    rwa [← hstart, Nat.zero_add, Op.length_cells] at hwhole
  · have hfront := inks_applyOps hcut (run.enterLine line) picture line 0
    rw [Op.cells_cut, Grid.paintCells_take hwidth, List.length_take, Op.length_cells,
      Nat.zero_add] at hfront
    rw [Nat.min_comm, hstart]
    exact hfront

/-- A line of twenty-five cells, on the fourth row of an unlit screen. -/
theorem loops_paint_as_written_out_nested :
    exists ops painted,
      Program.parseLine .pixel 7 "5*(R+2*(G O))".toList = .ok ops ∧
        (Op.expandAll ops).length = 25 ∧
        applyOps ops ((start .pixel none).enterLine 3) =
          done (((start .pixel none).enterLine 3).onScreen painted 3 25) ∧
        applyOps ((Op.expandAllUpTo 16 ops).map .once) ((start .pixel none).enterLine 3) =
          done (((start .pixel none).enterLine 3).onScreen painted 3 16) := by
  have hops : Program.parseLine .pixel 7 "5*(R+2*(G O))".toList =
      .ok [.loop 7 5 [.once ⟨7, .paint .red⟩,
        .loop 7 2 [.once ⟨7, .paint .green⟩, .once ⟨7, .erase⟩]]] := by
    cbv
  have hwidth : (Grid.blank 16 16).IsWithin Program.screenWidth := fun row hrow =>
    Nat.le_of_eq (Grid.blank_isRectangular 16 16 row hrow)
  have hgrid : (start .pixel none).grid = some (Grid.blank 16 16) := rfl
  rcases loops_paint_as_written_out hops 3 rfl hgrid hwidth with ⟨painted, hdirect, hcut⟩
  exact ⟨_, painted, hops, rfl, hdirect, hcut⟩

end Run
end Mosaic
