import Mosaic.Run.Execution

/-!
# Painting

All primitives but the two of the turtle paint.  What they do is told by the grid, the anchor and the
cursor alone, and it shows in these, in the movements that are counted, and nowhere else.
-/

namespace Mosaic

/-- What painting leaves: the picture behind it, the movements it adds, and the fault if there is
one. -/
structure Stroke where
  grid : Option Grid
  anchor : Int × Int
  cursor : Int × Int
  moved : Nat
  fault : Option Fault

namespace Run

def drawn (run : Run) (stroke : Stroke) : Carried :=
  ⟨{ run with
      grid := stroke.grid
      anchor := stroke.anchor
      cursor := stroke.cursor
      movements := run.movements + stroke.moved }, stroke.fault⟩

def sketch (run : Run) : Run :=
  { empty .table with grid := run.grid, anchor := run.anchor, cursor := run.cursor }

def strokeOf (action : Run -> Carried) (run : Run) : Stroke where
  grid := (action run.sketch).run.grid
  anchor := (action run.sketch).run.anchor
  cursor := (action run.sketch).run.cursor
  moved := (action run.sketch).run.movements
  fault := (action run.sketch).fault

/-- An action that sees nothing but the picture and does nothing but a stroke. -/
def Paints (action : Run -> Carried) : Prop :=
  forall run : Run, action run = run.drawn (strokeOf action run)

/-!
## Every handler by itself
-/

theorem failedAt_eq (line number : Int) (cause : Int -> Cause) :
    exists fault, forall run : Run, run.failedAt line number cause = ⟨run, some fault⟩ := by
  unfold failedAt
  cases Text.writeWhole number with
  | error fault => exact ⟨_, fun _ => rfl⟩
  | ok text => exact ⟨_, fun _ => rfl⟩

theorem run_failedAt (run : Run) (line number : Int) (cause : Int -> Cause) :
    (run.failedAt line number cause).run = run := by
  rcases failedAt_eq line number cause with ⟨fault, hfault⟩
  rw [hfault]

theorem paints_declared (rows columns : Nat) : Paints fun run => run.declared rows columns := by
  intro run
  unfold strokeOf declared
  cases Grid.create rows columns with
  | error fault => rfl
  | ok grid => rfl

theorem paints_paintStrip (line : Int) (count : Nat) (color : Color) (row column : Int) :
    Paints fun run => run.paintStrip line count color row column := by
  intro run
  rcases run with ⟨_, _, _, _, grid⟩
  cases grid with
  | none => rfl
  | some grid =>
      cases grid with
      | nil => rfl
      | cons first rest =>
          unfold strokeOf paintStrip sketch
          simp only
          split
          · rcases failedAt_eq line row .rowOutside with ⟨fault, hfault⟩
            simp only [hfault]
            rfl
          · split
            · rcases failedAt_eq line column .columnOutside with ⟨fault, hfault⟩
              simp only [hfault]
              rfl
            · split
              · rfl
              · rfl

theorem paints_paintShifted (line : Int) (count : Nat) (color : Color) (dx dy : Int) :
    Paints fun run => run.paintShifted line count color dx dy := by
  intro run
  have hstrip := paints_paintStrip line count color (run.anchor.1 + dy) (run.anchor.2 + dx) run
  have hanchor : run.sketch.anchor = run.anchor := rfl
  simp only at hstrip
  unfold strokeOf paintShifted
  simp only [hstrip, hanchor]
  unfold strokeOf Carried.andThen drawn
  simp only
  cases hfault :
      (run.sketch.paintStrip line count color (run.anchor.1 + dy) (run.anchor.2 + dx)).fault with
  | some fault => simp only [hfault]
  | none =>
      unfold done
      simp only [Nat.add_assoc]

theorem paints_switched (line : Int) (on : Bool) (axis : Axis) (index : Nat) :
    Paints fun run => run.switched line on axis index := by
  intro run
  rcases run with ⟨_, _, _, _, grid⟩
  cases grid with
  | none => rfl
  | some grid =>
      cases axis with
      | column => rfl
      | row =>
          unfold strokeOf switched sketch
          simp only
          split
          · rfl
          · rfl

theorem paints_painted (line : Int) (value : Cell) : Paints fun run => run.painted line value := by
  intro run
  rcases run with ⟨_, _, _, _, grid⟩
  cases grid with
  | none => rfl
  | some grid => rfl

theorem sketch_eq {run other : Run} (hgrid : run.grid = other.grid)
    (hanchor : run.anchor = other.anchor) (hcursor : run.cursor = other.cursor) :
    run.sketch = other.sketch := by
  unfold sketch
  rw [hgrid, hanchor, hcursor]

theorem Paints.sketch {action : Run -> Carried} (h : Paints action) {run other : Run}
    (hsketch : run.sketch = other.sketch) :
    (action run).run.sketch = (action other).run.sketch ∧
      (action run).fault = (action other).fault := by
  rw [h run, h other]
  unfold strokeOf
  rw [hsketch]
  exact ⟨rfl, rfl⟩

theorem paints_or_steers (line : Int) (action : Primitive) :
    (Paints fun run => run.apply line action) ∨
      (exists quarters, action = .turn quarters) ∨ exists steps, action = .advance steps := by
  cases action with
  | declare rows columns => exact Or.inl (paints_declared rows columns)
  | strip count color row column => exact Or.inl (paints_paintStrip line count color row column)
  | shifted count color dx dy => exact Or.inl (paints_paintShifted line count color dx dy)
  | turn quarters => exact Or.inr (Or.inl ⟨quarters, rfl⟩)
  | advance steps => exact Or.inr (Or.inr ⟨steps, rfl⟩)
  | switch on axis index => exact Or.inl (paints_switched line on axis index)
  | paint color => exact Or.inl (paints_painted line (some color))
  | erase => exact Or.inl (paints_painted line none)

end Run
end Mosaic
