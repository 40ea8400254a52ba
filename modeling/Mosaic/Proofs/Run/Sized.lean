import Mosaic.Proofs.Run.Faults
import Mosaic.Proofs.Run.Rewinding

/-!
# The size of the picture

Nothing but a declaration gives a grid another size, and a program has at most one, in front of
everything else.  So whatever a run has painted, its grid has the rows and columns that it had when
the program was loaded.
-/

namespace Mosaic
namespace Grid

def outline (grid : Grid) : List Nat := grid.map List.length

theorem outline_modify {change : List Cell -> List Cell}
    (h : forall cells : List Cell, (change cells).length = cells.length) (grid : Grid) (row : Nat) :
    outline (grid.modify row change) = grid.outline := by
  induction grid generalizing row with
  | nil => simp [outline]
  | cons cells rest ih =>
      cases row with
      | zero => simp [outline, h]
      | succ row =>
          have hrest := ih row
          simp only [outline] at hrest
          simp [outline, hrest]

theorem outline_paintColumn (column : Nat) (value : Cell) (grid : Grid) :
    outline (paintColumn column value grid).1 = grid.outline := by
  induction grid with
  | nil => rfl
  | cons row rest ih =>
      rw [paintColumn]
      split
      · show (row.set column value).length :: outline (paintColumn column value rest).1 = _
        rw [ih, List.length_set]
        rfl
      · rfl

theorem outline_eq_replicate {grid : Grid} {rows columns : Nat} :
    grid.outline = List.replicate rows columns ↔ grid.length = rows ∧ grid.IsRectangular columns := by
  unfold outline IsRectangular
  rw [List.eq_replicate_iff, List.length_map]
  simp

theorem outline_blank (rows columns : Nat) :
    (blank rows columns).outline = List.replicate rows columns :=
  outline_eq_replicate.mpr ⟨length_blank rows columns, blank_isRectangular rows columns⟩

end Grid

namespace Run

/-!
## Primitives
-/

theorem outline_paintStrip (run : Run) (line : Int) (count : Nat) (color : Color)
    (row column : Int) :
    (run.paintStrip line count color row column).run.grid.map Grid.outline =
      run.grid.map Grid.outline := by
  unfold paintStrip
  cases hgrid : run.grid with
  | none =>
      show run.grid.map Grid.outline = _
      rw [hgrid]
  | some grid =>
      cases grid with
      | nil =>
          show run.grid.map Grid.outline = _
          rw [hgrid]
      | cons first rest =>
          simp only
          split
          · rw [run_failedAt, hgrid]
          · split
            · rw [run_failedAt, hgrid]
            · split
              · show run.grid.map Grid.outline = _
                rw [hgrid]
              · refine congrArg some (Grid.outline_modify ?_ _ _)
                exact Grid.length_paintRow column.toNat count (some color)

theorem outline_switched (run : Run) (line : Int) (on : Bool) (axis : Axis) (index : Nat) :
    (run.switched line on axis index).run.grid.map Grid.outline = run.grid.map Grid.outline := by
  unfold switched
  cases hgrid : run.grid with
  | none =>
      show run.grid.map Grid.outline = _
      rw [hgrid]
  | some grid =>
      cases axis with
      | row =>
          simp only
          split
          · refine congrArg some (Grid.outline_modify ?_ _ _)
            exact fun cells => List.length_map _
          · rw [hgrid]
      | column => exact congrArg some (Grid.outline_paintColumn index _ grid)

theorem outline_painted (run : Run) (line : Int) (value : Cell) :
    (run.painted line value).run.grid.map Grid.outline = run.grid.map Grid.outline := by
  unfold painted
  cases hgrid : run.grid with
  | none =>
      show run.grid.map Grid.outline = _
      rw [hgrid]
  | some grid =>
      refine congrArg some ?_
      show Grid.outline (if _ then grid else _) = _
      split
      · rfl
      · exact Grid.outline_modify (fun cells => List.length_set) _ _

theorem grid_advanced (steps : Nat) : forall (run : Run) (line : Int) (maze : Maze),
    (run.advanced line maze steps).run.grid = run.grid := by
  induction steps with
  | zero =>
      intro run line maze
      rfl
  | succ steps ih =>
      intro run line maze
      rw [advanced]
      cases walk maze with
      | unknown => rfl
      | blocked => rfl
      | left => rfl
      | moved next points => exact ih _ line next

/-- Nothing but a declaration changes the size of a grid. -/
theorem outline_apply {action : Primitive} (h : action.isDeclaration = false) (run : Run)
    (line : Int) :
    (run.apply line action).run.grid.map Grid.outline = run.grid.map Grid.outline := by
  cases action with
  | declare rows columns => cases h
  | strip count color row column => exact outline_paintStrip run line count color row column
  | shifted count color dx dy =>
      show (run.paintShifted line count color dx dy).run.grid.map Grid.outline = _
      rw [grid_paintShifted]
      exact outline_paintStrip run line count color _ _
  | turn quarters =>
      unfold apply
      cases run.maze with
      | none => rfl
      | some maze => rfl
  | advance steps =>
      unfold apply
      cases run.maze with
      | none => rfl
      | some maze => exact congrArg (Option.map Grid.outline) (grid_advanced steps run line maze)
  | switch on axis index => exact outline_switched run line on axis index
  | paint color => exact outline_painted run line (some color)
  | erase => exact outline_painted run line none

/-!
## Runs
-/

/-- A run whose grid has the size that its commands or its mode give it. -/
def Sized (run : Run) : Prop :=
  run.grid.map Grid.outline = (Program.initialGrid run.mode run.declaredSize).map Grid.outline

theorem sized_rewound {run : Run} {size : Option (Nat × Nat)} (h : run.declaredSize = size) :
    (run.rewound size).Sized := by
  have hsize : (run.rewound size).declaredSize = size := h
  unfold Sized
  rw [hsize]
  rfl

theorem Sized.grid {run : Run} (h : run.Sized) (hother : run.mode ≠ .maze) {rows columns : Nat}
    (hsize : run.declaredSize = some (rows, columns)) :
    exists grid, run.grid = some grid ∧ grid.length = rows ∧ grid.IsRectangular columns := by
  unfold Sized at h
  rw [hsize, Program.initialGrid, if_neg hother] at h
  rcases Option.map_eq_some_iff.mp h with ⟨grid, hgrid, houtline⟩
  rw [Grid.outline_blank] at houtline
  exact ⟨grid, hgrid, Grid.outline_eq_replicate.mp houtline⟩

theorem IsLoaded.positive {run : Run} (h : run.IsLoaded) {rows columns : Nat}
    (hsize : run.declaredSize = some (rows, columns)) : 1 ≤ rows ∧ 1 ≤ columns := by
  rcases h with ⟨program, hprogram, hcommands⟩
  have hwell := Program.load_wellFormed hprogram
  rw [declaredSize_of_load hprogram hcommands] at hsize
  cases hdeclares : program.mode.declaresSize with
  | false =>
      rw [hwell.fixed hdeclares] at hsize
      revert hsize
      cases program.mode with
      | table => nofun
      | grid => nofun
      | _ =>
          intro hsize
          cases hsize
          decide
  | true =>
      rcases hwell.declared hdeclares with ⟨_, hnone⟩ | ⟨line, height, width, rest, hcons, hsome, _⟩
      · rw [hnone] at hsize
        cases hsize
      · rw [hsome] at hsize
        cases hsize
        have hallowed := hwell.allowed ⟨line, .declare rows columns⟩ (by simp [hcons])
        exact hallowed.right

theorem IsLoaded.declaration {run : Run} (h : run.IsLoaded) {line : Int} {rows columns : Nat}
    (hcommand : ⟨line, .declare rows columns⟩ ∈ run.commands) :
    run.mode ≠ .maze ∧ run.declaredSize = some (rows, columns) := by
  rcases h with ⟨program, hprogram, hcommands⟩
  have hwell := Program.load_wellFormed hprogram
  have hmode := (Program.load_eq_ok hprogram).left
  have hsame := declaredSize_of_load hprogram hcommands
  rw [hcommands] at hcommand
  have hdeclares : program.mode.declaresSize = true := (hwell.allowed _ hcommand).left
  constructor
  · rw [hmode] at hdeclares
    exact Mode.ne_maze_of_declaresSize hdeclares
  · rw [hsame]
    rcases hwell.declared hdeclares with ⟨hnil, _⟩ | ⟨first, height, width, rest, hcons, hsize, hrest⟩
    · rw [hnil] at hcommand
      cases hcommand
    · rw [hcons] at hcommand
      rcases List.mem_cons.mp hcommand with hfirst | hlater
      · cases hfirst
        exact hsize
      · cases hrest _ hlater

theorem IsLoaded.declared {run : Run} (h : run.IsLoaded) {line : Int} {rows columns : Nat}
    (hcommand : ⟨line, .declare rows columns⟩ ∈ run.commands) :
    run.declared rows columns =
      done { run with grid := some (Grid.blank rows columns), anchor := (0, 0) } := by
  rcases h.positive (h.declaration hcommand).right with ⟨hrows, hcolumns⟩
  exact declared_eq_done run hrows hcolumns

theorem sized_applyCommand {run : Run} {command : Command} (hloaded : run.IsLoaded)
    (hcommand : command ∈ run.commands) (h : run.Sized) : (run.applyCommand command).run.Sized := by
  rcases command with ⟨line, action⟩
  have hframe := frame_applyCommand run ⟨line, action⟩
  have hsize : (run.applyCommand ⟨line, action⟩).run.declaredSize = run.declaredSize := by
    unfold declaredSize
    rw [hframe.commands, hframe.mode]
  unfold Sized
  rw [hsize, hframe.mode]
  cases hdeclares : action.isDeclaration with
  | false => exact (outline_apply hdeclares run line).trans h
  | true =>
      cases action with
      | declare rows columns =>
          rcases hloaded.declaration hcommand with ⟨hother, hgiven⟩
          show (run.declared rows columns).run.grid.map Grid.outline = _
          rw [hloaded.declared hcommand, hgiven, Program.initialGrid, if_neg hother]
          rfl
      | _ => cases hdeclares

end Run
end Mosaic
