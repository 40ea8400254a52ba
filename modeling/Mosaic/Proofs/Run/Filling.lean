import Mosaic.Proofs.Program.Expansion
import Mosaic.Proofs.Run.Keeping

/-!
# Screens filled row by row

A screen program paints its rows from the top.  At any moment the rows above the cursor are finished,
in the row of the cursor the cells to the left are, and the rest is unlit.  A line may be shorter than
its row, and leaves the rest of it unlit; a line below the screen paints nothing at all.
-/

namespace Mosaic
namespace Grid

theorem paintCell_between (above below : Grid) (front : List Cell) (old value : Cell)
    (back : List Cell) :
    Grid.paintCell (above ++ (front ++ old :: back) :: below) above.length front.length value =
      above ++ (front ++ value :: back) :: below := by
  have hrow : (front ++ old :: back).set front.length value = front ++ value :: back := by simp
  unfold paintCell
  induction above with
  | nil =>
      show (front ++ old :: back).set front.length value :: below = _
      rw [hrow]
      rfl
  | cons row rest ih => exact congrArg (row :: ·) ih

theorem paintCell_of_length_le {grid : Grid} {row : Nat} (h : grid.length ≤ row) (column : Nat)
    (value : Cell) : grid.paintCell row column value = grid := by
  unfold paintCell
  exact List.modify_eq_self h

def filled (columns : Nat) (cells : List Cell) : List Cell :=
  cells ++ List.replicate (columns - cells.length) none

theorem length_filled {columns : Nat} {cells : List Cell} (h : cells.length ≤ columns) :
    (filled columns cells).length = columns := by
  unfold filled
  rw [List.length_append, List.length_replicate]
  omega

theorem getElem?_filled {columns column : Nat} {cells : List Cell} (h : cells.length ≤ columns)
    (hcolumn : column < columns) : (filled columns cells)[column]? = some (cells[column]?.getD none) := by
  unfold filled
  rw [List.getElem?_append]
  split
  · rename_i hinside
    rw [List.getElem?_eq_getElem hinside]
    rfl
  · rename_i hbehind
    rw [List.getElem?_replicate, if_pos (by omega), List.getElem?_eq_none (by omega)]
    rfl

theorem map_filled {columns : Nat} {rows : Grid}
    (h : forall row, row ∈ rows -> row.length = columns) : rows.map (filled columns) = rows := by
  refine (List.map_congr_left fun row hrow => ?_).trans (List.map_id rows)
  unfold filled
  rw [h row hrow, Nat.sub_self, List.replicate_zero, List.append_nil]
  rfl

theorem blank_zero (columns : Nat) : blank 0 columns = [] := rfl

theorem blank_succ (rows columns : Nat) :
    blank (rows + 1) columns = List.replicate columns none :: blank rows columns := rfl

end Grid

namespace Run

/-!
## Rows of cells
-/

/-- A screen that is being painted: so much is above the row of the cursor, so much to the left of
the cursor, and so much unpainted to the right of it and below. -/
structure AtCell (run : Run) (above : Grid) (front back : List Cell) (below : Grid) : Prop where
  mode : run.mode = .pixel
  line : run.line = some (above.length : Int)
  cursor : run.cursor = ((above.length : Int), (front.length : Int))
  grid : run.grid = some (above ++ (front ++ back) :: below)
  idle : run.outcome = .idle

theorem apply_action (run : Run) (line : Int) (cell : Cell) :
    run.apply line cell.action = run.painted line cell := by
  cases cell with
  | none => rfl
  | some color => rfl

theorem atCell_painted {run : Run} {above below : Grid} {front back : List Cell} {old : Cell}
    (h : run.AtCell above front (old :: back) below) (line : Int) (value : Cell) :
    (run.painted line value).fault = none ∧
      (run.painted line value).run.AtCell above (front ++ [value]) back below := by
  have hpainted : run.painted line value = done { run with
      grid := some (above ++ (front ++ value :: back) :: below)
      cursor := ((above.length : Int), (front.length : Int) + 1) } := by
    unfold painted
    rw [h.grid, h.cursor]
    simp only
    rw [if_neg (by simp), Int.toNat_natCast, Int.toNat_natCast, Grid.paintCell_between]
  rw [hpainted]
  refine ⟨rfl, h.mode, h.line, ?_, ?_, h.idle⟩
  · show ((above.length : Int), (front.length : Int) + 1) = _
    rw [List.length_append]
    rfl
  · show some _ = some _
    rw [List.append_assoc]
    rfl

theorem carryOut_cells {cells : List Cell} {run : Run} {above below : Grid}
    {front back : List Cell} (h : run.AtCell above front back below)
    (hlength : cells.length ≤ back.length) (index : Nat) :
    exists final,
      carryOut index run ((cells.map Cell.action).map (Command.mk (above.length : Int))) =
        .ok (final, .complete) ∧
      final.AtCell above (front ++ cells) (back.drop cells.length) below := by
  induction cells generalizing run front back index with
  | nil => exact ⟨run, rfl, by rwa [List.append_nil]⟩
  | cons cell rest ih =>
      cases back with
      | nil => cases hlength
      | cons old others =>
          have hentered : run.enterLineOf ⟨(above.length : Int), cell.action⟩ = run :=
            enterLineOf_of_line_eq h.line
          rcases atCell_painted h (above.length : Int) cell with ⟨hfault, hpainted⟩
          rw [← apply_action] at hfault hpainted
          rcases ih hpainted (by simpa using hlength) (index + 1) with ⟨final, hfinal, hend⟩
          rw [List.append_assoc, List.singleton_append] at hend
          refine ⟨final, ?_, hend⟩
          refine (carryOut_cons_of_none _ ?_ ?_).trans ?_
          · rw [hentered]
            exact hfault
          · rw [hentered]
            exact hpainted.idle
          · rw [hentered]
            exact hfinal

/-!
## Rows below each other
-/

/-- A screen with so much painted at the top, and no line of the rest entered yet. -/
structure AtRow (run : Run) (above below : Grid) : Prop where
  mode : run.mode = .pixel
  line : forall row : Nat, above.length ≤ row -> run.line ≠ some (row : Int)
  grid : run.grid = some (above ++ below)
  idle : run.outcome = .idle

theorem atCell_enterLine {run : Run} {above below : Grid} {old : List Cell}
    (h : run.AtRow above (old :: below)) :
    (run.enterLine (above.length : Int)).AtCell above [] old below := by
  refine ⟨h.mode, rfl, ?_, h.grid, h.idle⟩
  unfold enterLine
  rw [if_pos h.mode]
  rfl

theorem atRow_of_atCell {run : Run} {above below : Grid} {front back : List Cell}
    (h : run.AtCell above front back below) : run.AtRow (above ++ [front ++ back]) below := by
  refine ⟨h.mode, ?_, ?_, h.idle⟩
  · intro row hrow hline
    rw [h.line] at hline
    injection hline with hline
    rw [List.length_append, List.length_singleton] at hrow
    omega
  · rw [h.grid, List.append_assoc]
    rfl

theorem atRow_passed {run : Run} {above below : Grid} {old : List Cell}
    (h : run.AtRow above (old :: below)) : run.AtRow (above ++ [old]) below := by
  refine ⟨h.mode, ?_, ?_, h.idle⟩
  · intro row hrow
    rw [List.length_append] at hrow
    exact h.line row (Nat.le_of_add_right_le hrow)
  · rw [h.grid, List.append_assoc]
    rfl

theorem carryOut_row {run : Run} {above below : Grid} {old cells : List Cell}
    (h : run.AtRow above (old :: below)) (hlength : cells.length ≤ old.length) (index : Nat) :
    exists final,
      carryOut index run ((cells.map Cell.action).map (Command.mk (above.length : Int))) =
        .ok (final, .complete) ∧
      final.AtRow (above ++ [cells ++ old.drop cells.length]) below := by
  cases cells with
  | nil => exact ⟨run, rfl, atRow_passed h⟩
  | cons cell rest =>
      rcases carryOut_cells (atCell_enterLine h) hlength index with ⟨final, hfinal, hend⟩
      rw [List.nil_append] at hend
      refine ⟨final, ?_, atRow_of_atCell hend⟩
      have hentered : run.enterLineOf ⟨(above.length : Int), cell.action⟩ =
          run.enterLine (above.length : Int) :=
        enterLineOf_of_line_ne (h.line above.length (Nat.le_refl _))
      rw [← hentered] at hfinal
      exact (carryOut_enterLineOf index run _ _).symm.trans hfinal

/-- Rows painted one after the other over unlit ones. -/
theorem carryOut_rows {rows : List (List Cell)} {height columns : Nat}
    (hrows : forall row, row ∈ rows -> row.length ≤ columns) (hheight : rows.length ≤ height)
    {run : Run} {above : Grid} (h : run.AtRow above (Grid.blank height columns)) (index : Nat) :
    exists final,
      carryOut index run
          (Program.commandsOf (above.length : Int) (rows.map fun cells => cells.map Cell.action)) =
        .ok (final, .complete) ∧
      final.AtRow (above ++ rows.map (Grid.filled columns))
        (Grid.blank (height - rows.length) columns) := by
  induction rows generalizing run above height index with
  | nil => exact ⟨run, rfl, by rw [List.map_nil, List.append_nil]; exact h⟩
  | cons cells rest ih =>
      cases height with
      | zero => cases hheight
      | succ height =>
          have hwidth : cells.length ≤ (List.replicate columns (none : Cell)).length := by
            rw [List.length_replicate]
            exact hrows cells (by simp)
          rw [Grid.blank_succ] at h
          rcases carryOut_row h hwidth index with ⟨next, hnext, hbelow⟩
          rw [List.drop_replicate] at hbelow
          rcases ih (fun row hrow => hrows row (by simp [hrow])) (Nat.le_of_succ_le_succ hheight)
            hbelow (index + ((cells.map Cell.action).map (Command.mk (above.length : Int))).length)
            with ⟨final, hfinal, hend⟩
          rw [List.append_assoc, List.singleton_append] at hend
          rw [List.length_cons, Nat.add_sub_add_right]
          refine ⟨final, ?_, hend⟩
          rw [List.length_append, List.length_singleton, Int.natCast_add] at hfinal
          rw [List.map_cons, Program.commandsOf, carryOut_append, hnext]
          exact hfinal

/-!
## Below the screen
-/

/-- A screen whose cursor is below its picture as soon as a line below the picture is entered. -/
structure Below (run : Run) (picture : Grid) : Prop where
  mode : run.mode = .pixel
  grid : run.grid = some picture
  cursor : forall line, run.line = some line -> (picture.length : Int) ≤ line ->
    run.cursor.1 = line
  idle : run.outcome = .idle

theorem below_of_atRow {run : Run} {grid : Grid} (h : run.AtRow grid []) : run.Below grid := by
  refine ⟨h.mode, ?_, ?_, h.idle⟩
  · rw [h.grid, List.append_nil]
  · intro line hline hbelow
    refine absurd hline ?_
    have hrow := h.line line.toNat (by omega)
    rwa [Int.toNat_of_nonneg (by omega)] at hrow

theorem below_enterLineOf {run : Run} {grid : Grid} (h : run.Below grid) (command : Command) :
    (run.enterLineOf command).Below grid := by
  unfold enterLineOf
  split
  · exact h
  · refine ⟨h.mode, h.grid, ?_, h.idle⟩
    intro line hline _
    injection hline with hline
    subst hline
    unfold enterLine
    rw [if_pos h.mode]

theorem below_painted {run : Run} {grid : Grid} (h : run.Below grid) {line : Int}
    (hentered : run.line = some line) (hbelow : (grid.length : Int) ≤ line) (value : Cell) :
    (run.painted line value).fault = none ∧ (run.painted line value).run.Below grid := by
  have hrow := h.cursor line hentered hbelow
  have hpainted : run.painted line value =
      done { run with grid := some grid, cursor := (line, run.cursor.2 + 1) } := by
    unfold painted
    rw [h.grid]
    simp only [hrow]
    split
    · rfl
    · rw [Grid.paintCell_of_length_le (by omega)]
  rw [hpainted]
  refine ⟨rfl, h.mode, rfl, ?_, h.idle⟩
  intro other hother _
  rw [hentered] at hother
  injection hother

theorem carryOut_below {commands : List Command} {run : Run} {grid : Grid} (h : run.Below grid)
    (hlines : forall command, command ∈ commands -> (grid.length : Int) ≤ command.line)
    (hcells : forall command, command ∈ commands -> exists cell : Cell, command.action = cell.action)
    (index : Nat) :
    exists final, carryOut index run commands = .ok (final, .complete) ∧ final.Below grid := by
  induction commands generalizing run index with
  | nil => exact ⟨run, rfl, h⟩
  | cons command rest ih =>
      rcases hcells command (by simp) with ⟨cell, hcell⟩
      rcases below_painted (below_enterLineOf h command) (line_enterLineOf run command)
        (hlines command (by simp)) cell with ⟨hfault, hbelow⟩
      rw [← apply_action, ← hcell] at hfault hbelow
      rcases ih hbelow (fun other hother => hlines other (by simp [hother]))
        (fun other hother => hcells other (by simp [hother])) (index + 1) with
        ⟨final, hfinal, hend⟩
      exact ⟨final, (carryOut_cons_of_none _ hfault hbelow.idle).trans hfinal, hend⟩

/-!
## Whole screens
-/

/-- A screen of a size with rows filled from the top, as many of them as there is room for. -/
def screenOf (height columns : Nat) (rows : List (List Cell)) : Grid :=
  (rows.take height).map (Grid.filled columns) ++
    Grid.blank (height - (rows.take height).length) columns

theorem length_screenOf (height columns : Nat) (rows : List (List Cell)) :
    (screenOf height columns rows).length = height := by
  unfold screenOf
  rw [List.length_append, List.length_map, Grid.length_blank, List.length_take]
  omega

theorem isRectangular_screenOf {height columns : Nat} {rows : List (List Cell)}
    (h : forall row, row ∈ rows -> row.length ≤ columns) :
    (screenOf height columns rows).IsRectangular columns := by
  intro row hrow
  rcases List.mem_append.mp hrow with hpainted | hblank
  · rcases List.mem_map.mp hpainted with ⟨cells, hcells, rfl⟩
    exact Grid.length_filled (h cells (List.mem_of_mem_take hcells))
  · exact Grid.blank_isRectangular _ columns row hblank

theorem cell?_screenOf {height columns row column : Nat} {rows : List (List Cell)}
    (h : forall row, row ∈ rows -> row.length ≤ columns) (hrow : row < height)
    (hcolumn : column < columns) :
    (screenOf height columns rows).cell? row column =
      some ((rows[row]?.getD [])[column]?.getD none) := by
  unfold screenOf Grid.cell?
  rw [List.getElem?_append, List.length_map, List.length_take]
  by_cases hgiven : row < rows.length
  · rw [if_pos (by omega), List.getElem?_map, List.getElem?_take_of_lt hrow,
      List.getElem?_eq_getElem hgiven]
    exact Grid.getElem?_filled (h _ (List.getElem_mem hgiven)) hcolumn
  · have hblank : (Grid.blank (height - min height rows.length) columns)[row -
        min height rows.length]? = some (List.replicate columns none) := by
      unfold Grid.blank
      rw [List.getElem?_replicate, if_pos (by omega)]
    rw [if_neg (by omega), hblank, List.getElem?_eq_none (Nat.le_of_not_lt hgiven)]
    show (List.replicate columns (none : Cell))[column]? = _
    rw [List.getElem?_replicate, if_pos hcolumn]
    rfl

theorem commandsOf_split (rows : List (List Cell)) (height : Nat) :
    Program.commandsOf 0 (rows.map fun cells => cells.map Cell.action) =
      Program.commandsOf 0 ((rows.take height).map fun cells => cells.map Cell.action) ++
        Program.commandsOf (rows.take height).length
          ((rows.drop height).map fun cells => cells.map Cell.action) := by
  conv => lhs; rw [← List.take_append_drop height rows]
  rw [List.map_append, Program.commandsOf_append, List.length_map, Int.zero_add]

theorem action_of_mem_commandsOf {line : Int} {rows : List (List Cell)} {command : Command}
    (h : command ∈ Program.commandsOf line (rows.map fun cells => cells.map Cell.action)) :
    exists cell : Cell, command.action = cell.action := by
  rcases Program.mem_commandsOf h with ⟨row, hrow, haction⟩
  rcases List.mem_map.mp hrow with ⟨cells, _, rfl⟩
  rcases List.mem_map.mp haction with ⟨cell, _, hcell⟩
  exact ⟨cell, hcell.symm⟩

/-- Rows that are painted on an unlit screen fill it, and what has no room is lost. -/
theorem carryOut_screen {rows : List (List Cell)} {height columns : Nat}
    (hrows : forall row, row ∈ rows -> row.length ≤ columns) {run : Run}
    (h : run.AtRow [] (Grid.blank height columns)) (index : Nat) :
    exists final,
      carryOut index run
          (Program.commandsOf 0 (rows.map fun cells => cells.map Cell.action)) =
        .ok (final, .complete) ∧
      final.grid = some (screenOf height columns rows) := by
  have hfront : forall row, row ∈ rows.take height -> row.length ≤ columns :=
    fun row hrow => hrows row (List.mem_of_mem_take hrow)
  rcases carryOut_rows hfront (by rw [List.length_take]; exact Nat.min_le_left _ _) h index with
    ⟨next, hnext, hbelow⟩
  change carryOut index run (Program.commandsOf 0 _) = _ at hnext
  rw [commandsOf_split rows height, carryOut_append, hnext]
  show exists final, carryOut _ next _ = _ ∧ _
  by_cases hroom : rows.length ≤ height
  · rw [List.drop_of_length_le hroom]
    exact ⟨next, rfl, hbelow.grid⟩
  · have hfull : (rows.take height).length = height := by
      rw [List.length_take]
      omega
    have hgrid : screenOf height columns rows = (rows.take height).map (Grid.filled columns) := by
      unfold screenOf
      rw [hfull, Nat.sub_self, Grid.blank_zero, List.append_nil]
    rw [hfull, Nat.sub_self, Grid.blank_zero, List.nil_append, ← hgrid] at hbelow
    have hlines : forall command, command ∈ Program.commandsOf (rows.take height).length
        ((rows.drop height).map fun cells => cells.map Cell.action) ->
          ((screenOf height columns rows).length : Int) ≤ command.line := by
      intro command hcommand
      have hline := Program.line_commandsOf_le hcommand
      rw [hfull] at hline
      rw [length_screenOf]
      exact hline
    rcases carryOut_below (below_of_atRow hbelow) hlines (fun _ => action_of_mem_commandsOf) _ with
      ⟨final, hfinal, hend⟩
    exact ⟨final, hfinal, hend.grid⟩

end Run
end Mosaic
