import Mosaic.Proofs.Run.Steady

/-!
# Courses of runs

A run is loaded, stepped, stopped and rewound in any order, and each of these leads on from where the
one before has led.  A course may be restricted to what is allowed at each run.  Loading a text and
rewinding put a run back to a start; whatever else happens is made of steps and of the running flag,
so a steady property is lost by loading and rewinding only.
-/

namespace Mosaic
namespace Run

inductive Event
  | load (source : String) (asTarget : Bool)
  | step
  | resume
  | stop
  | runToHalt (maxSteps : Int)
  | reset (maze : Option Maze)

def Event.on : Event -> Run -> Except Fault Run
  | load source asTarget, run => run.load source asTarget
  | step, run => run.step
  | resume, run => .ok run.resumed
  | stop, run => .ok run.stopped
  | runToHalt maxSteps, run => run.runToHalt maxSteps
  | reset maze, run => .ok (run.reset maze)

/-- The runs that are reached from a first one by events, each allowed where it happens. -/
inductive Course (allowed : Event -> Run -> Prop) (first : Run) : Run -> Prop
  | start : Course allowed first first
  | event {run after : Run} (event : Event) (before : Course allowed first run)
      (permitted : allowed event run) (result : event.on run = .ok after) :
      Course allowed first after

def Anything (_ : Event) (_ : Run) : Prop := True

def KeepsMaze (event : Event) (_ : Run) : Prop := forall maze, event ≠ .reset (some maze)

/-- Everything is allowed that leaves both the maze and the program in place: a text is loaded only
if it has a problem. -/
def KeepsProgram (event : Event) (run : Run) : Prop :=
  KeepsMaze event run ∧ forall source asTarget, event = .load source asTarget ->
    exists problem, Program.load run.mode source = .error (.program problem)

/-!
## Loading
-/

theorem load_cases {run after : Run} {source : String} {asTarget : Bool}
    (h : run.load source asTarget = .ok after) :
    (exists problem, Program.load run.mode source = .error (.program problem) ∧
      after = { run with error := some problem, isRunning := false }) ∨
      exists program, Program.load run.mode source = .ok program ∧
        (after = run.withProgram program ∨ run.mode ≠ .maze ∧ exists target,
          after = { run.withProgram program with target := target, targetCode := some source }) := by
  unfold load at h
  split at h
  · rename_i problem hproblem
    cases h
    exact Or.inl ⟨problem, hproblem, rfl⟩
  · cases h
  · rename_i program hprogram
    refine Or.inr ⟨program, hprogram, ?_⟩
    simp only at h
    split at h
    · rename_i hasked
      rw [Bool.and_eq_true, bne_iff_ne] at hasked
      rcases Attempts.bind_eq_ok_iff.mp h with ⟨target, _, hpure⟩
      cases Attempts.pure_eq_ok_iff.mp hpure
      exact Or.inr ⟨hasked.right, target, rfl⟩
    · cases h
      exact Or.inl rfl

/-!
## Along a course
-/

section Along

variable {P : Run -> Prop} {allowed : Event -> Run -> Prop} {first run : Run}

theorem Enduring.event (h : Enduring P) {event : Event} {after : Run} (hrun : P run)
    (hload : forall (source : String) (asTarget : Bool), event = .load source asTarget ->
      run.load source asTarget = .ok after -> P after)
    (hreset : forall maze : Option Maze, event = .reset maze -> P (run.reset maze))
    (hafter : event.on run = .ok after) : P after := by
  cases event with
  | load source asTarget => exact hload source asTarget rfl hafter
  | step => exact h.step hrun hafter
  | resume =>
      cases hafter
      exact h.flagged _ hrun
  | stop =>
      cases hafter
      exact h.flagged _ hrun
  | runToHalt maxSteps => exact h.runToHalt hrun hafter
  | reset maze =>
      cases hafter
      exact hreset maze rfl

theorem Course.invariant (h : Course allowed first run) (hfirst : P first)
    (hevent : forall (event : Event) (before after : Run), allowed event before -> P before ->
      event.on before = .ok after -> P after) : P run := by
  induction h with
  | start => exact hfirst
  | event event _ permitted result ih => exact hevent event _ _ permitted ih result

/-- An enduring property that loading and rewinding do not take away holds along a course. -/
theorem Course.enduring (h : Course allowed first run) (henduring : Enduring P) (hfirst : P first)
    (hload : forall (before after : Run) (source : String) (asTarget : Bool),
      allowed (.load source asTarget) before -> P before ->
        before.load source asTarget = .ok after -> P after)
    (hreset : forall (before : Run) (maze : Option Maze), allowed (.reset maze) before ->
      P before -> P (before.reset maze)) : P run := by
  refine h.invariant hfirst fun event before after permitted hbefore result => ?_
  refine henduring.event hbefore ?_ ?_ result
  · rintro source asTarget rfl hafter
    exact hload before after source asTarget permitted hbefore hafter
  · rintro maze rfl
    exact hreset before maze permitted hbefore

/-- A steady property that loading and rewinding do not take away holds along a course. -/
theorem Course.steady (h : Course allowed first run) (hsteady : Steady P) (hfirst : P first)
    (hload : forall (before after : Run) (source : String) (asTarget : Bool),
      allowed (.load source asTarget) before -> P before ->
        before.load source asTarget = .ok after -> P after)
    (hreset : forall (before : Run) (maze : Option Maze), allowed (.reset maze) before ->
      P before -> P (before.reset maze)) : P run :=
  h.enduring hsteady.enduring hfirst hload hreset

end Along

end Run
end Mosaic
