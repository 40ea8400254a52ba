import Mosaic.Proofs.Maze.Cells
import Mosaic.Proofs.Maze.Layout
import Mosaic.Proofs.Program.Stream
import Mosaic.Proofs.Run.CarryingOut

/-!
# Faults of running programs

A primitive that its mode allows finds the picture it needs, so it goes on or has a problem of the
program.  There is one exception: a strip of GRID that misses the table at a row or column with
more digits than can be written, so that the problem cannot be put into words.
-/

namespace Mosaic

/-- The turtle is in the maze, and every cell of the maze has walls. -/
structure Maze.Grounded (maze : Maze) : Prop where
  turtle : maze.holds maze.turtle.place = true
  walled : forall place, maze.holds place = true -> (maze.wallsAt? place).isSome = true

namespace Run

def Within (n : Int) (size : Nat) : Prop := 0 ≤ n ∧ n < size

instance (n : Int) (size : Nat) : Decidable (Within n size) := inferInstanceAs (Decidable (_ ∧ _))

def Misses (grid : Grid) (row column : Int) : Prop :=
  Not (Within row grid.shape.1) ∧ Not (Text.IsWritable row) ∨
    Within row grid.shape.1 ∧ Not (Within column grid.shape.2) ∧ Not (Text.IsWritable column)

/-- A primitive that fails at a row or column that cannot be written. -/
def CannotName (run : Run) : Primitive -> Prop
  | .shifted _ _ dx dy =>
      exists first rest, run.grid = some (first :: rest) ∧
        Misses (first :: rest) (run.anchor.1 + dy) (run.anchor.2 + dx)
  | _ => False

/-- A run whose picture is the one its mode works on. -/
def Fits (run : Run) : Prop :=
  match run.mode with
  | .table => exists first rest, run.grid = some (first :: rest)
  | .grid => exists first rest, run.grid = some (first :: rest)
  | .maze => forall maze, run.maze = some maze -> maze.Grounded
  | .matrix => exists grid, run.grid = some grid ∧ grid.length = 8 ∧ grid.IsRectangular 8
  | .pixel => True

/-!
## Strips
-/

theorem fault_failedAt_of_isWritable {number : Int} (h : Text.IsWritable number) (run : Run)
    (line : Int) (cause : Int -> Cause) :
    (run.failedAt line number cause).fault = some (.program ⟨line, cause number⟩) := by
  unfold failedAt
  rw [Text.writeWhole_of_isWritable h]
  rfl

theorem fault_failedAt_of_not_isWritable {number : Int} (h : Not (Text.IsWritable number))
    (run : Run) (line : Int) (cause : Int -> Cause) :
    (run.failedAt line number cause).fault = some (.numeral .tooLarge) := by
  unfold failedAt
  rw [Text.writeWhole_of_not_isWritable h]

theorem paintStrip_of_table {run : Run} {first : List Cell} {rest : Grid}
    (hgrid : run.grid = some (first :: rest)) (line : Int) (count : Nat) (color : Color)
    (row column : Int) :
    Not (Within row (Grid.shape (first :: rest)).1) ∧
        run.paintStrip line count color row column = run.failedAt line row .rowOutside ∨
      Within row (Grid.shape (first :: rest)).1 ∧ Not (Within column (Grid.shape (first :: rest)).2) ∧
        run.paintStrip line count color row column = run.failedAt line column .columnOutside ∨
      (run.paintStrip line count color row column).fault = some (.program ⟨line, .stripTooLong⟩) ∨
      (run.paintStrip line count color row column).fault = none := by
  have hrows : (Grid.shape (first :: rest)).1 = rest.length + 1 := rfl
  have hcolumns : (Grid.shape (first :: rest)).2 = first.length := rfl
  rw [hrows, hcolumns]
  unfold paintStrip Within
  rw [hgrid]
  simp only
  split
  · rename_i houtside
    simp only [Bool.or_eq_true, decide_eq_true_eq] at houtside
    exact Or.inl ⟨by omega, rfl⟩
  · rename_i hrow
    simp only [Bool.or_eq_true, decide_eq_true_eq] at hrow
    right
    split
    · rename_i houtside
      simp only [Bool.or_eq_true, decide_eq_true_eq] at houtside
      exact Or.inl ⟨by omega, by omega, rfl⟩
    · right
      split
      · exact Or.inl rfl
      · exact Or.inr rfl

theorem fault_paintStrip {run : Run} {first : List Cell} {rest : Grid}
    (hgrid : run.grid = some (first :: rest)) {line : Int} {count : Nat} {color : Color}
    {row column : Int} {fault : Fault}
    (h : (run.paintStrip line count color row column).fault = some fault) :
    (exists problem, fault = .program problem) ∨
      fault = .numeral .tooLarge ∧ Misses (first :: rest) row column := by
  rcases paintStrip_of_table hgrid line count color row column with
    ⟨hrow, heq⟩ | ⟨hrow, hcolumn, heq⟩ | heq | heq
  · rw [heq] at h
    by_cases hwritable : Text.IsWritable row
    · rw [fault_failedAt_of_isWritable hwritable] at h
      cases h
      exact Or.inl ⟨_, rfl⟩
    · rw [fault_failedAt_of_not_isWritable hwritable] at h
      cases h
      exact Or.inr ⟨rfl, Or.inl ⟨hrow, hwritable⟩⟩
  · rw [heq] at h
    by_cases hwritable : Text.IsWritable column
    · rw [fault_failedAt_of_isWritable hwritable] at h
      cases h
      exact Or.inl ⟨_, rfl⟩
    · rw [fault_failedAt_of_not_isWritable hwritable] at h
      cases h
      exact Or.inr ⟨rfl, Or.inr ⟨hrow, hcolumn, hwritable⟩⟩
  · rw [heq] at h
    cases h
    exact Or.inl ⟨_, rfl⟩
  · rw [heq] at h
    cases h

theorem fault_paintStrip_of_misses {run : Run} {first : List Cell} {rest : Grid}
    (hgrid : run.grid = some (first :: rest)) {row column : Int}
    (h : Misses (first :: rest) row column) (line : Int) (count : Nat) (color : Color) :
    (run.paintStrip line count color row column).fault = some (.numeral .tooLarge) := by
  have hrows : (Grid.shape (first :: rest)).1 = rest.length + 1 := rfl
  have hcolumns : (Grid.shape (first :: rest)).2 = first.length := rfl
  unfold Misses Within at h
  rw [hrows, hcolumns] at h
  unfold paintStrip
  rw [hgrid]
  simp only
  rcases h with ⟨hrow, hlong⟩ | ⟨hrow, hcolumn, hlong⟩
  · rw [if_pos (by simp only [Bool.or_eq_true, decide_eq_true_eq]; omega)]
    exact fault_failedAt_of_not_isWritable hlong run line .rowOutside
  · rw [if_neg (by simp only [Bool.or_eq_true, decide_eq_true_eq]; omega),
      if_pos (by simp only [Bool.or_eq_true, decide_eq_true_eq]; omega)]
    exact fault_failedAt_of_not_isWritable hlong run line .columnOutside

theorem grid_paintStrip {run : Run} {first : List Cell} {rest : Grid}
    (hgrid : run.grid = some (first :: rest)) (line : Int) (count : Nat) (color : Color)
    (row column : Int) :
    exists other others, (run.paintStrip line count color row column).run.grid =
      some (other :: others) := by
  unfold paintStrip
  rw [hgrid]
  simp only
  split
  · rw [run_failedAt]
    exact ⟨first, rest, hgrid⟩
  · split
    · rw [run_failedAt]
      exact ⟨first, rest, hgrid⟩
    · split
      · exact ⟨first, rest, hgrid⟩
      · have hlength := Grid.length_paintStrip (first :: rest) row.toNat column.toNat count
          (some color)
        cases hpainted :
            Grid.paintStrip (first :: rest) row.toNat column.toNat count (some color) with
        | nil =>
            rw [hpainted] at hlength
            cases hlength
        | cons other others => exact ⟨other, others, rfl⟩

/-!
## The turtle
-/

theorem holds_iff {maze : Maze} {place : Position} :
    maze.holds place = true ↔ place.Inside maze.rows maze.columns := by
  unfold Maze.holds Position.Inside
  rw [Bool.and_eq_true, decide_eq_true_eq, decide_eq_true_eq]

theorem holds_of_beyond? {maze : Maze} {place next : Position} {side : Side}
    (hplace : maze.holds place = true) (h : maze.beyond? place side = some next) :
    maze.holds next = true :=
  holds_iff.mpr (Position.inside_of_beyond? (holds_iff.mp hplace) h)

theorem grounded_of_moved {maze next : Maze} {points : Nat} (h : maze.Grounded)
    (hwalk : walk maze = .moved next points) : next.Grounded := by
  rcases Maze.moved_cases hwalk with ⟨place, hbeyond, rfl, _⟩
  exact ⟨holds_of_beyond? h.turtle hbeyond, h.walled⟩

theorem walk_ne_unknown {maze : Maze} (h : maze.Grounded) : walk maze ≠ .unknown := by
  rcases Option.isSome_iff_exists.mp (h.walled maze.turtle.place h.turtle) with ⟨walls, hwalls⟩
  unfold walk
  simp only [hwalls]
  split
  · simp
  · split
    · simp
    · simp

theorem advanced_fits (steps : Nat) : forall (run : Run) (line : Int) (maze : Maze),
    maze.Grounded -> run.maze = some maze ->
      (forall fault, (run.advanced line maze steps).fault = some fault ->
        exists problem, fault = .program problem) ∧
      forall after, (run.advanced line maze steps).run.maze = some after -> after.Grounded := by
  induction steps with
  | zero =>
      intro run line maze hgrounded hmaze
      constructor
      · intro fault hfault
        cases hfault
      · intro after hafter
        change run.maze = some after at hafter
        rw [hmaze] at hafter
        cases hafter
        exact hgrounded
  | succ steps ih =>
      intro run line maze hgrounded hmaze
      have hsame : forall after, run.maze = some after -> after.Grounded := by
        intro after hafter
        rw [hmaze] at hafter
        cases hafter
        exact hgrounded
      rw [advanced]
      cases hwalk : walk maze with
      | unknown => exact absurd hwalk (walk_ne_unknown hgrounded)
      | blocked =>
          refine ⟨?_, hsame⟩
          intro fault hfault
          cases hfault
          exact ⟨_, rfl⟩
      | left =>
          refine ⟨?_, hsame⟩
          intro fault hfault
          cases hfault
      | moved next points =>
          exact ih { run with maze := some next, mazeScore := run.mazeScore + points } line next
            (grounded_of_moved hgrounded hwalk) rfl

/-!
## Lamps
-/

theorem isRectangular_modify {grid : Grid} {columns : Nat} (h : grid.IsRectangular columns)
    {change : List Cell -> List Cell}
    (hchange : forall cells : List Cell, (change cells).length = cells.length) (row : Nat) :
    Grid.IsRectangular (grid.modify row change) columns := by
  intro cells hcells
  rcases List.mem_iff_getElem.mp hcells with ⟨index, hindex, rfl⟩
  rw [List.getElem_modify]
  have hkept : index < grid.length := by simpa using hindex
  split
  · rw [hchange]
    exact h _ (List.getElem_mem hkept)
  · exact h _ (List.getElem_mem hkept)

theorem paintColumn_of_isRectangular {column columns : Nat} (hcolumn : column < columns)
    (value : Cell) {grid : Grid} (h : grid.IsRectangular columns) :
    (Grid.paintColumn column value grid).2 = true ∧
      (Grid.paintColumn column value grid).1.length = grid.length ∧
      Grid.IsRectangular (Grid.paintColumn column value grid).1 columns := by
  induction grid with
  | nil => exact ⟨rfl, rfl, h⟩
  | cons row rest ih =>
      have hrow := h row (by simp)
      rcases ih (fun cells hcells => h cells (by simp [hcells])) with ⟨hcomplete, hlength, hrest⟩
      rw [Grid.paintColumn, if_pos (by omega)]
      refine ⟨hcomplete, by simp [hlength], ?_⟩
      intro cells hcells
      rcases List.mem_cons.mp hcells with rfl | hmem
      · rw [List.length_set, hrow]
      · exact hrest cells hmem

theorem switched_fits {run : Run} {grid : Grid} (hgrid : run.grid = some grid)
    (hrows : grid.length = 8) (hcolumns : grid.IsRectangular 8) {index : Nat} (hindex : index < 8)
    (line : Int) (on : Bool) (axis : Axis) :
    (run.switched line on axis index).fault = none ∧
      exists after, (run.switched line on axis index).run.grid = some after ∧
        after.length = 8 ∧ after.IsRectangular 8 := by
  unfold switched
  rw [hgrid]
  cases axis with
  | row =>
      simp only
      rw [if_pos (by omega)]
      refine ⟨rfl, _, rfl, ?_, ?_⟩
      · rw [Grid.length_paintWholeRow, hrows]
      · exact isRectangular_modify hcolumns (fun cells => List.length_map _) index
  | column =>
      rcases paintColumn_of_isRectangular hindex (if on then some .white else none) hcolumns with
        ⟨hcomplete, hlength, hrest⟩
      simp only [hcomplete, if_true]
      exact ⟨trivial, _, rfl, by rw [hlength, hrows], hrest⟩

/-!
## All primitives
-/

/-- What a primitive of its mode does to a fitting run: the run fits again, and there is no fault
but a problem of the program or a place that cannot be named. -/
structure Behaves (run : Run) (action : Primitive) (carried : Carried) : Prop where
  fits : carried.run.Fits
  fault : forall fault, carried.fault = some fault ->
    (exists problem, fault = .program problem) ∨ fault = .numeral .tooLarge ∧ run.CannotName action

theorem declared_eq_done (run : Run) {rows columns : Nat} (hrows : 1 ≤ rows)
    (hcolumns : 1 ≤ columns) : run.declared rows columns =
      done { run with grid := some (Grid.blank rows columns), anchor := (0, 0) } := by
  unfold declared
  rw [Grid.create_eq_ok hrows hcolumns]

theorem behaves_declared {run : Run} {rows columns : Nat} (hmode : run.mode.declaresSize = true)
    (hrows : 1 ≤ rows) (hcolumns : 1 ≤ columns) :
    Behaves run (.declare rows columns) (run.declared rows columns) := by
  rw [declared_eq_done run hrows hcolumns]
  constructor
  · unfold Fits
    rcases rows with _ | rows
    · omega
    · cases hcase : run.mode with
      | table => exact ⟨_, _, rfl⟩
      | grid => exact ⟨_, _, rfl⟩
      | maze =>
          rw [hcase] at hmode
          cases hmode
      | matrix =>
          rw [hcase] at hmode
          cases hmode
      | pixel => trivial
  · intro fault hfault
    cases hfault

theorem behaves_strip {run : Run} (h : run.Fits) {count row column : Nat} {color : Color}
    (hallowed : run.mode.Allows (.strip count color row column)) (line : Int) :
    Behaves run (.strip count color row column) (run.paintStrip line count color row column) := by
  rcases hallowed with ⟨hmode, hrow, hcolumn⟩
  have hafter := ((paints_paintStrip line count color row column).repainted run).frame.mode
  unfold Fits at h
  rw [hmode] at h
  rcases h with ⟨first, rest, hgrid⟩
  constructor
  · unfold Fits
    rw [hafter, hmode]
    exact grid_paintStrip hgrid line count color row column
  · intro fault hfault
    rcases fault_paintStrip hgrid hfault with hproblem | ⟨_, hmisses⟩
    · exact Or.inl hproblem
    · rcases hmisses with ⟨_, hlong⟩ | ⟨_, _, hlong⟩
      · exact absurd hrow hlong
      · exact absurd hcolumn hlong

theorem grid_paintShifted (run : Run) (line : Int) (count : Nat) (color : Color) (dx dy : Int) :
    (run.paintShifted line count color dx dy).run.grid =
      (run.paintStrip line count color (run.anchor.1 + dy) (run.anchor.2 + dx)).run.grid := by
  unfold paintShifted Carried.andThen
  split
  · rfl
  · rfl

theorem behaves_shifted {run : Run} (h : run.Fits) {count : Nat} {color : Color} {dx dy : Int}
    (hallowed : run.mode.Allows (.shifted count color dx dy)) (line : Int) :
    Behaves run (.shifted count color dx dy) (run.paintShifted line count color dx dy) := by
  have hmode := hallowed.left
  have hafter := ((paints_paintShifted line count color dx dy).repainted run).frame.mode
  unfold Fits at h
  rw [hmode] at h
  rcases h with ⟨first, rest, hgrid⟩
  constructor
  · unfold Fits
    rw [hafter, hmode]
    rw [grid_paintShifted]
    exact grid_paintStrip hgrid line count color (run.anchor.1 + dy) (run.anchor.2 + dx)
  · intro fault hfault
    unfold paintShifted Carried.andThen at hfault
    split at hfault
    · cases hfault
    · rcases fault_paintStrip hgrid hfault with hproblem | ⟨hlong, hmisses⟩
      · exact Or.inl hproblem
      · exact Or.inr ⟨hlong, first, rest, hgrid, hmisses⟩

theorem behaves_turn {run : Run} (h : run.Fits) {quarters : Nat}
    (hallowed : run.mode.Allows (.turn quarters)) (line : Int) :
    Behaves run (.turn quarters) (run.apply line (.turn quarters)) := by
  have hmode := hallowed.left
  have hkept := h
  unfold Fits at h
  rw [hmode] at h
  unfold apply
  cases hmaze : run.maze with
  | none =>
      refine ⟨hkept, ?_⟩
      intro fault hfault
      cases hfault
      exact Or.inl ⟨_, rfl⟩
  | some maze =>
      have hgrounded := h maze hmaze
      constructor
      · show ({ run with maze := some (maze.turned quarters) } : Run).Fits
        unfold Fits
        rw [hmode]
        intro after hafter
        cases hafter
        exact ⟨hgrounded.turtle, hgrounded.walled⟩
      · intro fault hfault
        cases hfault

theorem behaves_advance {run : Run} (h : run.Fits) {steps : Nat}
    (hmode : run.mode = .maze) (line : Int) :
    Behaves run (.advance steps) (run.apply line (.advance steps)) := by
  have hkept := h
  have hafter := (frame_goes_apply run line (.advance steps)).left.mode
  unfold Fits at h
  rw [hmode] at h
  unfold apply at hafter ⊢
  cases hmaze : run.maze with
  | none =>
      refine ⟨hkept, ?_⟩
      intro fault hfault
      cases hfault
      exact Or.inl ⟨_, rfl⟩
  | some maze =>
      rw [hmaze] at hafter
      rcases advanced_fits steps run line maze (h maze hmaze) hmaze with ⟨hfault, hgrounded⟩
      constructor
      · unfold Fits
        rw [hafter, hmode]
        exact hgrounded
      · intro fault hcase
        exact Or.inl (hfault fault hcase)

theorem behaves_switch {run : Run} (h : run.Fits) {on : Bool} {axis : Axis} {index : Nat}
    (hallowed : run.mode.Allows (.switch on axis index)) (line : Int) :
    Behaves run (.switch on axis index) (run.switched line on axis index) := by
  rcases hallowed with ⟨hmode, hindex⟩
  have hafter := ((paints_switched line on axis index).repainted run).frame.mode
  unfold Fits at h
  rw [hmode] at h
  rcases h with ⟨grid, hgrid, hrows, hcolumns⟩
  rcases switched_fits hgrid hrows hcolumns hindex line on axis with ⟨hnone, hlamps⟩
  constructor
  · unfold Fits
    rw [hafter, hmode]
    exact hlamps
  · intro fault hfault
    rw [hnone] at hfault
    cases hfault

theorem behaves_painted {run : Run} {action : Primitive} (hmode : run.mode = .pixel) (line : Int)
    (value : Cell) : Behaves run action (run.painted line value) := by
  have hafter := ((paints_painted line value).repainted run).frame.mode
  constructor
  · unfold Fits
    rw [hafter, hmode]
    trivial
  · intro fault hfault
    unfold painted at hfault
    split at hfault
    · cases hfault
      exact Or.inl ⟨_, rfl⟩
    · cases hfault

theorem behaves_apply {run : Run} (h : run.Fits) {action : Primitive}
    (hallowed : run.mode.Allows action) (line : Int) :
    Behaves run action (run.apply line action) := by
  cases action with
  | declare rows columns =>
      rcases hallowed with ⟨hmode, hrows, hcolumns⟩
      exact behaves_declared hmode hrows hcolumns
  | strip count color row column => exact behaves_strip h hallowed line
  | shifted count color dx dy => exact behaves_shifted h hallowed line
  | turn quarters => exact behaves_turn h hallowed line
  | advance steps => exact behaves_advance h hallowed line
  | switch on axis index => exact behaves_switch h hallowed line
  | paint color => exact behaves_painted hallowed line (some color)
  | erase => exact behaves_painted hallowed line none

theorem fault_of_cannotName {run : Run} {action : Primitive} (h : run.CannotName action)
    (line : Int) : (run.apply line action).fault = some (.numeral .tooLarge) := by
  cases action with
  | shifted count color dx dy =>
      rcases h with ⟨first, rest, hgrid, hmisses⟩
      have hfault := fault_paintStrip_of_misses hgrid hmisses line count color
      show (run.paintShifted line count color dx dy).fault = _
      unfold paintShifted Carried.andThen
      split
      · rename_i hnone
        rw [hnone] at hfault
        cases hfault
      · exact hfault
  | _ => exact absurd h id

theorem fits_enterLineOf {run : Run} (h : run.Fits) (command : Command) :
    (run.enterLineOf command).Fits := by
  unfold enterLineOf
  split
  · exact h
  · exact h

theorem cannotName_enterLineOf (run : Run) (command : Command) (action : Primitive) :
    (run.enterLineOf command).CannotName action ↔ run.CannotName action := by
  unfold enterLineOf
  split
  · exact Iff.rfl
  · exact Iff.rfl

/-!
## Runs
-/

theorem fits_of_wellFormed {program : Program} (h : program.WellFormed)
    (hne : program.commands ≠ []) {run : Run} (hmode : run.mode = program.mode)
    (hgrid : run.grid = Program.initialGrid program.mode program.size)
    (hmaze : program.mode = .maze -> forall maze, run.maze = some maze -> maze.Grounded) :
    run.Fits := by
  have htable : program.mode.declaresSize = true ->
      exists first rest, Program.initialGrid program.mode program.size = some (first :: rest) := by
    intro hdeclares
    rcases h.declared hdeclares with ⟨hnil, _⟩ | ⟨line, rows, columns, rest, hcommands, hsize, _⟩
    · exact absurd hnil hne
    · have hfirst := h.allowed ⟨line, .declare rows columns⟩ (by simp [hcommands])
      have hrows : 1 ≤ rows := hfirst.right.left
      have hother : program.mode ≠ .maze := by
        intro hcase
        rw [hcase] at hdeclares
        cases hdeclares
      rcases rows with _ | rows
      · omega
      · rw [hsize, Program.initialGrid, if_neg hother]
        exact ⟨_, _, rfl⟩
  unfold Fits
  rw [hmode, hgrid]
  cases hcase : program.mode with
  | table =>
      rw [hcase] at htable
      exact htable rfl
  | grid =>
      rw [hcase] at htable
      exact htable rfl
  | maze => exact hmaze hcase
  | matrix =>
      have hsize := h.fixed (by rw [hcase]; rfl)
      rw [hcase] at hsize
      rw [hsize]
      exact ⟨Grid.blank 8 8, rfl, Grid.length_blank 8 8, Grid.blank_isRectangular 8 8⟩
  | pixel => trivial

/-- Some command fails at a row or column that cannot be written, after all the commands in front
of it were carried out. -/
def Stumbles (index : Nat) (run : Run) (commands : List Command) : Prop :=
  exists before command after reached,
    commands = before ++ command :: after ∧
      carryOut index run before = .ok (reached, .complete) ∧ reached.CannotName command.action

theorem mode_of_stumbles {index : Nat} {run : Run} {commands : List Command}
    (hallowed : forall command, command ∈ commands -> run.mode.Allows command.action)
    (h : Stumbles index run commands) : run.mode = .grid := by
  rcases h with ⟨before, command, after, reached, rfl, _, hname⟩
  have hcommand := hallowed command (by simp)
  cases haction : command.action with
  | shifted count color dx dy =>
      rw [haction] at hcommand
      exact hcommand.left
  | _ =>
      rw [haction] at hname
      exact absurd hname id

theorem carryOut_of_stumbles {index : Nat} {run : Run} {commands : List Command}
    (h : Stumbles index run commands) :
    carryOut index run commands = .error (.numeral .tooLarge) := by
  rcases h with ⟨before, command, after, reached, rfl, hbefore, hname⟩
  have hfault := fault_of_cannotName ((cannotName_enterLineOf reached command _).mpr hname)
    command.line
  rw [carryOut_append, hbefore]
  show carryOut (index + before.length) reached (command :: after) = _
  rw [carryOut]
  unfold applyCommand
  rw [hfault]

/-- The only fault on the way through a program that fits its run. -/
theorem stumbles_of_carryOut {index : Nat} {run : Run} {commands : List Command} {fault : Fault}
    (hfits : run.Fits)
    (hallowed : forall command, command ∈ commands -> run.mode.Allows command.action)
    (h : carryOut index run commands = .error fault) : Stumbles index run commands := by
  induction commands generalizing index run with
  | nil => cases h
  | cons command rest ih =>
      have hentered := frame_enterLineOf run command
      have hbehaves := behaves_apply (fits_enterLineOf hfits command)
        (by rw [hentered.left]; exact hallowed command (by simp)) command.line
      have hstays := stays_applyCommand run command
      rw [carryOut] at h
      split at h
      · cases h
      · rename_i hother hfault
        rcases hbehaves.fault _ hfault with ⟨problem, rfl⟩ | ⟨_, hname⟩
        · exact absurd rfl (hother problem)
        · exact ⟨[], command, rest, run, rfl, rfl, (cannotName_enterLineOf run command _).mp hname⟩
      · rename_i hnone
        split at h
        · cases h
        · rename_i hgoing
          rcases ih hbehaves.fits (by
              intro other hother
              show ((run.enterLineOf command).applyCommand command).run.mode.Allows other.action
              rw [hstays.mode]
              exact hallowed other (by simp [hother])) h with
            ⟨before, failing, after, reached, happend, hbefore, hname⟩
          refine ⟨command :: before, failing, after, reached, by rw [happend, List.cons_append],
            ?_, hname⟩
          rw [carryOut]
          simp only [hnone, if_neg hgoing]
          exact hbefore

end Run
end Mosaic
