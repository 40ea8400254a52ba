import Mosaic.Proofs.Run.Painting

/-!
# The scene of a run

A primitive looks at the scene of a run: the grid, the maze, the anchor, the cursor and what has
been counted.  Where the run is in its program, and whether it is running, does not matter to it.
So two runs with one scene stay so whatever they carry out.
-/

namespace Mosaic

/-- A run without its place in the program: counter, line and running flag are set back. -/
def Run.scene (run : Run) : Run := { run with counter := 0, line := none, isRunning := false }

def Carried.scene (carried : Carried) : Carried := ⟨carried.run.scene, carried.fault⟩

theorem Carried.scene_eq {carried other : Carried} (hrun : carried.run.scene = other.run.scene)
    (hfault : carried.fault = other.fault) : carried.scene = other.scene := by
  unfold Carried.scene
  rw [hrun, hfault]

structure Run.Frame (before after : Run) : Prop where
  mode : after.mode = before.mode
  source : after.source = before.source
  commands : after.commands = before.commands
  counter : after.counter = before.counter
  target : after.target = before.target
  targetCode : after.targetCode = before.targetCode
  line : after.line = before.line
  error : after.error = before.error

/-- How a primitive may end a run: not at all, or by leaving the maze. -/
def Run.Goes (before : Run) (carried : Carried) : Prop :=
  carried.run.outcome = before.outcome ∧ carried.run.isRunning = before.isRunning ∨
    carried.run.outcome = .success ∧ carried.run.isRunning = false ∧ carried.fault = none

namespace Run

theorem Frame.refl (run : Run) : Frame run run := ⟨rfl, rfl, rfl, rfl, rfl, rfl, rfl, rfl⟩

@[simp] theorem scene_enterLine (run : Run) (line : Int) :
    (run.scene.enterLine line).scene = (run.enterLine line).scene := rfl

theorem isHalted_eq_false {run : Run} :
    run.isHalted = false ↔ run.error = none ∧ run.outcome = .idle := by
  unfold isHalted
  cases run.error with
  | some problem => simp
  | none => simp

/-- Runs with one scene agree in all that can be seen of the scene. -/
theorem eq_of_scene {α : Type} {run other : Run} (view : Run -> α)
    (hview : forall run : Run, view run.scene = view run) (h : run.scene = other.scene) :
    view run = view other := by
  rw [← hview run, ← hview other, h]

/-!
## Steps of the turtle
-/

theorem scene_advanced (steps : Nat) : forall (run other : Run) (line : Int) (maze : Maze),
    run.scene = other.scene ->
      (run.advanced line maze steps).scene = (other.advanced line maze steps).scene := by
  induction steps with
  | zero =>
      intro run other line maze h
      exact Carried.scene_eq h rfl
  | succ steps ih =>
      intro run other line maze h
      rw [advanced, advanced]
      cases walk maze with
      | unknown => exact Carried.scene_eq h rfl
      | blocked => exact Carried.scene_eq h rfl
      | left =>
          have hleft := congrArg (fun scene : Run => { scene with outcome := Outcome.success }) h
          exact Carried.scene_eq hleft rfl
      | moved next points =>
          have hmoved := congrArg (fun scene : Run =>
            { scene with maze := some next, mazeScore := scene.mazeScore + points }) h
          exact ih _ _ line next hmoved

theorem frame_advanced (steps : Nat) : forall (run : Run) (line : Int) (maze : Maze),
    Frame run (run.advanced line maze steps).run ∧ run.Goes (run.advanced line maze steps) := by
  induction steps with
  | zero =>
      intro run line maze
      exact ⟨Frame.refl run, Or.inl ⟨rfl, rfl⟩⟩
  | succ steps ih =>
      intro run line maze
      rw [advanced]
      cases walk maze with
      | unknown => exact ⟨Frame.refl run, Or.inl ⟨rfl, rfl⟩⟩
      | blocked => exact ⟨Frame.refl run, Or.inl ⟨rfl, rfl⟩⟩
      | left => exact ⟨⟨rfl, rfl, rfl, rfl, rfl, rfl, rfl, rfl⟩, Or.inr ⟨rfl, rfl, rfl⟩⟩
      | moved next points =>
          rcases ih { run with maze := some next, mazeScore := run.mazeScore + points } line next
            with ⟨hframe, hgoes⟩
          exact ⟨⟨hframe.mode, hframe.source, hframe.commands, hframe.counter, hframe.target,
            hframe.targetCode, hframe.line, hframe.error⟩, hgoes⟩

/-!
## Repainting
-/

def Repainted (before after : Run) : Prop :=
  exists grid anchor cursor movements,
    after = { before with
      grid := grid, anchor := anchor, cursor := cursor, movements := movements }

theorem Repainted.frame {before after : Run} (h : Repainted before after) :
    Frame before after := by
  rcases h with ⟨grid, anchor, cursor, movements, rfl⟩
  exact ⟨rfl, rfl, rfl, rfl, rfl, rfl, rfl, rfl⟩

theorem Repainted.goes {before : Run} {carried : Carried} (h : Repainted before carried.run) :
    before.Goes carried := by
  rcases h with ⟨grid, anchor, cursor, movements, hafter⟩
  unfold Goes
  rw [hafter]
  exact Or.inl ⟨rfl, rfl⟩

theorem Repainted.maze {before after : Run} (h : Repainted before after) :
    after.maze = before.maze := by
  rcases h with ⟨grid, anchor, cursor, movements, rfl⟩
  rfl

theorem Paints.repainted {action : Run -> Carried} (h : Paints action) (run : Run) :
    Repainted run (action run).run := by
  rw [h run]
  exact ⟨_, _, _, _, rfl⟩

theorem Paints.scene {action : Run -> Carried} (h : Paints action) (run : Run) :
    (action run.scene).scene = (action run).scene := by
  rw [h run.scene, h run]
  rfl

/-!
## All primitives
-/

theorem scene_apply (run : Run) (line : Int) (action : Primitive) :
    (run.scene.apply line action).scene = (run.apply line action).scene := by
  have hmaze : run.scene.maze = run.maze := rfl
  rcases paints_or_steers line action with hpaints | ⟨quarters, rfl⟩ | ⟨steps, rfl⟩
  · exact hpaints.scene run
  · unfold apply
    rw [hmaze]
    cases run.maze with
    | none => rfl
    | some maze => rfl
  · unfold apply
    rw [hmaze]
    cases run.maze with
    | none => rfl
    | some maze => exact scene_advanced steps run.scene run line maze rfl

theorem frame_goes_apply (run : Run) (line : Int) (action : Primitive) :
    Frame run (run.apply line action).run ∧ run.Goes (run.apply line action) := by
  rcases paints_or_steers line action with hpaints | ⟨quarters, rfl⟩ | ⟨steps, rfl⟩
  · exact ⟨(hpaints.repainted run).frame, (hpaints.repainted run).goes⟩
  · unfold apply
    cases run.maze with
    | none => exact ⟨Frame.refl run, Or.inl ⟨rfl, rfl⟩⟩
    | some maze => exact ⟨⟨rfl, rfl, rfl, rfl, rfl, rfl, rfl, rfl⟩, Or.inl ⟨rfl, rfl⟩⟩
  · unfold apply
    cases run.maze with
    | none => exact ⟨Frame.refl run, Or.inl ⟨rfl, rfl⟩⟩
    | some maze => exact frame_advanced steps run line maze

theorem frame_applyCommand (run : Run) (command : Command) :
    Frame run (run.applyCommand command).run :=
  (frame_goes_apply run command.line command.action).left

theorem goes_applyCommand (run : Run) (command : Command) :
    run.Goes (run.applyCommand command) :=
  (frame_goes_apply run command.line command.action).right

theorem isRunning_applyCommand {run : Run} {command : Command}
    (hstays : (run.applyCommand command).run.outcome ≠ .success) :
    (run.applyCommand command).run.isRunning = run.isRunning := by
  rcases goes_applyCommand run command with hsame | hleft
  · exact hsame.right
  · exact absurd hleft.left hstays

theorem scene_applyCommand {run other : Run} (h : run.scene = other.scene) (command : Command) :
    (run.applyCommand command).scene = (other.applyCommand command).scene := by
  unfold applyCommand
  rw [← scene_apply run, ← scene_apply other, h]

end Run
end Mosaic
