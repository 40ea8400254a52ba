import Mosaic.Proofs.Run.Course

/-!
# Runs that have succeeded

Outside of MAZE a run succeeds at its end only, and only if it shows its target then.  Nothing that
can be asked of a run makes its success untrue: what paints or sets a target also puts the run back
to its start, and a run that has succeeded does not go on.
-/

namespace Mosaic
namespace Run

/-!
## Runs without a maze
-/

def Outdoors (run : Run) : Prop := run.mode ≠ .maze -> run.maze = none

theorem apply_without_maze {run : Run} (h : run.maze = none) (line : Int) (action : Primitive) :
    (run.apply line action).run.maze = none ∧ (run.apply line action).run.outcome = run.outcome := by
  rcases paints_or_steers line action with hpaints | ⟨quarters, rfl⟩ | ⟨steps, rfl⟩
  · rcases hpaints.repainted run with ⟨grid, anchor, cursor, movements, hafter⟩
    rw [hafter]
    exact ⟨h, rfl⟩
  · unfold apply
    rw [h]
    exact ⟨h, rfl⟩
  · unfold apply
    rw [h]
    exact ⟨h, rfl⟩

theorem outdoors_applyCommand {run : Run} (h : run.Outdoors) (command : Command) :
    (run.applyCommand command).run.Outdoors := by
  intro hother
  rw [(frame_applyCommand run command).mode] at hother
  exact (apply_without_maze (h hother) command.line command.action).left

theorem steady_outdoors : Steady Outdoors where
  command command _ h := outdoors_applyCommand h command
  counted _ h := h
  entered _ h := h
  flagged _ h := h
  failed _ h := h
  finished h := h

theorem outdoors_rewound {run : Run} (h : run.Outdoors) (size : Option (Nat × Nat)) :
    (run.rewound size).Outdoors := fun hother => congrArg (Option.map Maze.fresh) (h hother)

theorem outdoors_load {run after : Run} {source : String} {asTarget : Bool} (h : run.Outdoors)
    (hload : run.load source asTarget = .ok after) : after.Outdoors := by
  have hput : forall program, (run.withProgram program).Outdoors := by
    intro program
    refine outdoors_rewound ?_ program.size
    exact h
  rcases load_cases hload with ⟨problem, _, rfl⟩ | ⟨program, _, rfl | ⟨_, target, rfl⟩⟩
  · exact h
  · exact hput program
  · exact hput program

theorem outdoors_reset_none {run : Run} (h : run.Outdoors) : (run.reset none).Outdoors := by
  refine outdoors_rewound ?_ run.declaredSize
  exact h

/-!
## Success
-/

def ShowsTarget (run : Run) : Prop := run.target.isSome = true ∧ run.grid = run.target

/-- A run that has a maze in MAZE only, and has succeeded elsewhere only if it shows its target. -/
structure Honest (run : Run) : Prop where
  outdoors : run.Outdoors
  success : run.mode ≠ .maze -> run.outcome = .success -> run.ShowsTarget

theorem honest_of_outcome {run : Run} (houtdoors : run.Outdoors) (h : run.outcome ≠ .success) :
    run.Honest := ⟨houtdoors, fun _ hsuccess => absurd hsuccess h⟩

theorem honest_finished {run : Run} (h : run.Honest) : run.finished.Honest := by
  constructor
  · exact h.outdoors
  · intro hother hsuccess
    have hmode : (run.mode != .maze) = true := bne_iff_ne.mpr hother
    unfold finished at hsuccess ⊢
    simp only [hmode, Bool.true_and] at hsuccess ⊢
    cases hreached : (run.target.isSome && run.grid == run.target) with
    | true =>
        rw [Bool.and_eq_true, beq_iff_eq] at hreached
        exact hreached
    | false =>
        rw [hreached] at hsuccess
        exact h.success hother hsuccess

theorem steady_honest : Steady Honest where
  command {run} command hgoing h := by
    have hmode := (frame_applyCommand run command).mode
    have houtdoors := outdoors_applyCommand h.outdoors command
    constructor
    · exact houtdoors
    · intro hother hsuccess
      rw [hmode] at hother
      have hsame := (apply_without_maze (h.outdoors hother) command.line command.action).right
      have hleft : run.outcome = .success := hsame.symm.trans hsuccess
      rw [(isHalted_eq_false.mp hgoing).right] at hleft
      cases hleft
  counted _ h := ⟨h.outdoors, h.success⟩
  entered _ h := ⟨h.outdoors, h.success⟩
  flagged _ h := ⟨h.outdoors, h.success⟩
  failed _ h := ⟨h.outdoors, nofun⟩
  finished h := honest_finished h

section Events

variable {run after : Run} {event : Event}

theorem outdoors_event (hkeeps : KeepsMaze event run) (h : run.Outdoors)
    (hafter : event.on run = .ok after) : after.Outdoors := by
  refine steady_outdoors.enduring.event h (fun _ _ _ hload => outdoors_load h hload) ?_ hafter
  rintro (_ | maze) rfl
  · exact outdoors_reset_none h
  · exact absurd rfl (hkeeps maze)

theorem honest_event (hkeeps : KeepsMaze event run) (h : run.Honest)
    (hafter : event.on run = .ok after) : after.Honest := by
  refine steady_honest.enduring.event h ?_ ?_ hafter
  · intro source asTarget _ hload
    have houtdoors := outdoors_load h.outdoors hload
    rcases load_cases hload with ⟨problem, _, rfl⟩ | ⟨program, _, rfl | ⟨_, target, rfl⟩⟩
    · exact ⟨houtdoors, h.success⟩
    · exact honest_of_outcome houtdoors nofun
    · exact honest_of_outcome houtdoors nofun
  · rintro (_ | maze) rfl
    · exact honest_of_outcome (outdoors_reset_none h.outdoors) nofun
    · exact absurd rfl (hkeeps maze)

/-!
## Runs that are halted
-/

theorem isHalted_of_success (h : run.outcome = .success) : run.isHalted = true := by
  unfold isHalted
  rw [h]
  cases run.error with
  | none => rfl
  | some problem => rfl

theorem step_of_halted (h : run.isHalted = true) : run.step = .ok run.stopped := by
  unfold step
  rw [if_pos h]
  rfl

theorem runToHalt_of_halted {maxSteps : Int} (h : run.isHalted = true)
    (hafter : run.runToHalt maxSteps = .ok after) : after = run.stopped := by
  have hresumed : run.resumed = run.stopped := by
    unfold resumed stopped
    rw [h]
    rfl
  have hstays : forall steps, stepWhileRunning steps run.stopped = .ok run.stopped := by
    intro steps
    cases steps with
    | zero => rfl
    | succ steps => rfl
  unfold runToHalt at hafter
  split at hafter
  · cases hafter
  · rw [hresumed, hstays] at hafter
    cases hafter
    rfl

theorem success_event (h : run.outcome = .success) (hafter : event.on run = .ok after)
    (hstill : after.outcome = .success) :
    after.mode = run.mode ∧ after.grid = run.grid ∧ after.target = run.target := by
  have hhalted := isHalted_of_success h
  cases event with
  | load source asTarget =>
      rcases load_cases hafter with ⟨problem, _, rfl⟩ | ⟨program, _, rfl | ⟨_, target, rfl⟩⟩
      · exact ⟨rfl, rfl, rfl⟩
      · cases hstill
      · cases hstill
  | step =>
      have hstep : run.step = .ok after := hafter
      rw [step_of_halted hhalted] at hstep
      cases hstep
      exact ⟨rfl, rfl, rfl⟩
  | resume =>
      cases hafter
      exact ⟨rfl, rfl, rfl⟩
  | stop =>
      cases hafter
      exact ⟨rfl, rfl, rfl⟩
  | runToHalt maxSteps =>
      cases runToHalt_of_halted hhalted hafter
      exact ⟨rfl, rfl, rfl⟩
  | reset maze =>
      cases hafter
      cases hstill

end Events

end Run
end Mosaic
