import Mosaic.Proofs.Maze.Layout
import Mosaic.Proofs.Run.Steady

/-!
# What a run works towards

The objective of a run is its target, or in MAZE the layout of its maze.  Carrying out commands,
stepping, stopping and rewinding leave it as it is.
-/

namespace Mosaic

inductive Objective
  | picture (target : Option Grid)
  | layout (layout : Option Maze.Layout)
  deriving DecidableEq, Repr

namespace Run

def objective (run : Run) : Objective :=
  if run.mode = .maze then .layout (run.maze.map Maze.layout) else .picture run.target

/-- Runs of one mode with the same target and the same maze, whatever was done in it. -/
structure SameGoal (before after : Run) : Prop where
  mode : after.mode = before.mode
  target : after.target = before.target
  layout : after.maze.map Maze.layout = before.maze.map Maze.layout

theorem SameGoal.refl (run : Run) : SameGoal run run := ⟨rfl, rfl, rfl⟩

theorem SameGoal.trans {first second third : Run} (h : SameGoal first second)
    (g : SameGoal second third) : SameGoal first third :=
  ⟨g.mode.trans h.mode, g.target.trans h.target, g.layout.trans h.layout⟩

theorem SameGoal.objective {before after : Run} (h : SameGoal before after) :
    after.objective = before.objective := by
  unfold Run.objective
  rw [h.mode, h.target, h.layout]

/-!
## Primitives
-/

theorem maze_advanced (steps : Nat) : forall (run : Run) (line : Int) (maze : Maze),
    run.maze = some maze ->
      (run.advanced line maze steps).run.maze.map Maze.layout = some maze.layout := by
  induction steps with
  | zero =>
      intro run line maze hmaze
      show run.maze.map Maze.layout = _
      rw [hmaze]
      rfl
  | succ steps ih =>
      intro run line maze hmaze
      have hsame : run.maze.map Maze.layout = some maze.layout := by
        rw [hmaze]
        rfl
      rw [advanced]
      cases hwalk : walk maze with
      | unknown => exact hsame
      | blocked => exact hsame
      | left => exact hsame
      | moved next points =>
          have hnext := ih { run with maze := some next, mazeScore := run.mazeScore + points }
            line next rfl
          rw [Maze.layout_of_moved hwalk] at hnext
          exact hnext

theorem layout_apply (run : Run) (line : Int) (action : Primitive) :
    (run.apply line action).run.maze.map Maze.layout = run.maze.map Maze.layout := by
  rcases paints_or_steers line action with hpaints | ⟨quarters, rfl⟩ | ⟨steps, rfl⟩
  · exact congrArg (Option.map Maze.layout) (hpaints.repainted run).maze
  · unfold apply
    cases hmaze : run.maze with
    | none =>
        show run.maze.map _ = _
        rw [hmaze]
    | some maze => rfl
  · unfold apply
    cases hmaze : run.maze with
    | none =>
        show run.maze.map _ = _
        rw [hmaze]
    | some maze => exact maze_advanced steps run line maze hmaze

theorem sameGoal_applyCommand (run : Run) (command : Command) :
    SameGoal run (run.applyCommand command).run := by
  have hframe := frame_applyCommand run command
  exact ⟨hframe.mode, hframe.target, layout_apply run command.line command.action⟩

/-!
## Steps
-/

theorem steady_sameGoal (first : Run) : Steady (SameGoal first) where
  command command _ h := h.trans (sameGoal_applyCommand _ command)
  counted _ h := ⟨h.mode, h.target, h.layout⟩
  entered _ h := ⟨h.mode, h.target, h.layout⟩
  flagged _ h := ⟨h.mode, h.target, h.layout⟩
  failed _ h := ⟨h.mode, h.target, h.layout⟩
  finished h := ⟨h.mode, h.target, h.layout⟩

theorem sameGoal_step {run after : Run} (h : run.step = .ok after) : SameGoal run after :=
  (steady_sameGoal run).step (SameGoal.refl run) h

theorem sameGoal_runToHalt {run after : Run} {maxSteps : Int}
    (h : run.runToHalt maxSteps = .ok after) : SameGoal run after :=
  (steady_sameGoal run).runToHalt (SameGoal.refl run) h

/-!
## Loading and rewinding
-/

theorem sameGoal_rewound (run : Run) (size : Option (Nat × Nat)) :
    SameGoal run (run.rewound size) := by
  refine ⟨rfl, rfl, ?_⟩
  show (run.maze.map Maze.fresh).map Maze.layout = run.maze.map Maze.layout
  cases run.maze with
  | none => rfl
  | some maze => exact congrArg some (Maze.layout_fresh maze)

theorem sameGoal_withProgram (run : Run) (program : Program) :
    SameGoal run (run.withProgram program) := by
  have hrewound := sameGoal_rewound
    { run with source := program.source, commands := program.commands } program.size
  exact ⟨hrewound.mode, hrewound.target, hrewound.layout⟩

theorem sameGoal_reset_none (run : Run) : SameGoal run (run.reset none) := by
  have hmaze : (none : Option Maze).or run.maze = run.maze := rfl
  unfold reset
  rw [hmaze]
  exact sameGoal_rewound run run.declaredSize

theorem sameGoal_load {run after : Run} {source : String} {asTarget : Bool}
    (hkept : asTarget = false ∨ run.mode = .maze) (h : run.load source asTarget = .ok after) :
    SameGoal run after := by
  have hnot : (asTarget && run.mode != .maze) = false := by
    rcases hkept with hfalse | hmaze
    · rw [hfalse]
      rfl
    · rw [hmaze]
      simp
  unfold load at h
  split at h
  · cases h
    exact ⟨rfl, rfl, rfl⟩
  · cases h
  · simp only [hnot, Bool.false_eq_true, if_false] at h
    cases h
    exact sameGoal_withProgram run _

end Run
end Mosaic
