import Mosaic.Proofs.Attempts
import Mosaic.Proofs.Countdown
import Mosaic.Workbench

/-!
# Operations taken apart

An operation gives a result or a fault, and the workbench afterwards in either case.  Here is what
each of the steps that operations are made of gives.
-/

namespace Mosaic

def Operation.on {σ α : Type} (operation : Operation σ α) (bench : Workbench σ) :
    Except Fault α × Workbench σ := operation bench

def Run.towards (run : Run) (goal : Goal) : Run :=
  match goal.maze with
  | some maze => run.reset (some maze)
  | none => { run with target := goal.grid, targetCode := goal.code }

def Run.forSession (run : Run) (maze : Maze) : Run :=
  if run.mode = .maze then run else start .maze (some maze)

@[simp] theorem Run.mode_forSession (run : Run) (maze : Maze) :
    (run.forSession maze).mode = .maze := by
  unfold forSession
  split
  · assumption
  · rfl

namespace Workbench

variable {σ α β : Type}

@[simp] theorem on_pure (value : α) (bench : Workbench σ) :
    Operation.on (pure value) bench = (.ok value, bench) := rfl

@[simp] theorem on_throw (fault : Fault) (bench : Workbench σ) :
    Operation.on (throw fault : Operation σ α) bench = (.error fault, bench) := rfl

theorem on_bind (operation : Operation σ α) (next : α -> Operation σ β) (bench : Workbench σ) :
    Operation.on (operation >>= next) bench =
      match operation.on bench with
      | (.ok value, after) => (next value).on after
      | (.error fault, after) => (.error fault, after) := by
  cases hfirst : operation.on bench with
  | mk result after =>
      cases result with
      | ok value => exact Attempts.run_bind_of_ok hfirst next
      | error fault => exact Attempts.run_bind_of_error hfirst next

theorem on_bind_of_ok {operation : Operation σ α} {bench after : Workbench σ} {value : α}
    (h : operation.on bench = (.ok value, after)) (next : α -> Operation σ β) :
    Operation.on (operation >>= next) bench = (next value).on after :=
  Attempts.run_bind_of_ok h next

theorem on_bind_of_error {operation : Operation σ α} {bench after : Workbench σ} {fault : Fault}
    (h : operation.on bench = (.error fault, after)) (next : α -> Operation σ β) :
    Operation.on (operation >>= next) bench = (.error fault, after) :=
  Attempts.run_bind_of_error h next

theorem on_bind_eq_ok {operation : Operation σ α} {next : α -> Operation σ β}
    {bench after : Workbench σ} {result : β}
    (h : Operation.on (operation >>= next) bench = (.ok result, after)) :
    exists value between, operation.on bench = (.ok value, between) ∧
      (next value).on between = (.ok result, after) := by
  rw [on_bind] at h
  cases hfirst : operation.on bench with
  | mk first between =>
      rw [hfirst] at h
      cases first with
      | ok value => exact ⟨value, between, rfl, h⟩
      | error fault => cases h

/-- Two operations in a row are refused by the first, or by the second after the first. -/
theorem on_bind_eq_error {operation : Operation σ α} {next : α -> Operation σ β}
    {bench after : Workbench σ} {fault : Fault}
    (h : Operation.on (operation >>= next) bench = (.error fault, after)) :
    operation.on bench = (.error fault, after) ∨
      exists value between, operation.on bench = (.ok value, between) ∧
        (next value).on between = (.error fault, after) := by
  rw [on_bind] at h
  cases hfirst : operation.on bench with
  | mk first between =>
      rw [hfirst] at h
      cases first with
      | ok value => exact Or.inr ⟨value, between, rfl, h⟩
      | error other =>
          cases h
          exact Or.inl rfl

theorem on_discard (operation : Operation σ α) (bench : Workbench σ) :
    Operation.on (discard operation) bench =
      ((operation.on bench).1.map fun _ => (), (operation.on bench).2) := by
  have hbind : (discard operation : Operation σ Unit) = operation >>= fun _ => pure () := rfl
  rw [hbind, on_bind]
  cases operation.on bench with
  | mk result after =>
      cases result with
      | ok value => rfl
      | error fault => rfl

@[simp] theorem on_get (bench : Workbench σ) :
    Operation.on (get : Operation σ (Workbench σ)) bench = (.ok bench, bench) := rfl

@[simp] theorem on_modify (change : Workbench σ -> Workbench σ) (bench : Workbench σ) :
    Operation.on (modify change : Operation σ Unit) bench = (.ok (), change bench) := rfl

@[simp] theorem on_attempt (result : Except Fault α) (bench : Workbench σ) :
    (attempt result).on bench = (result, bench) := by
  cases result with
  | ok value => rfl
  | error fault => rfl

@[simp] theorem on_setRun (run : Run) (bench : Workbench σ) :
    (setRun run).on bench = (.ok (), { bench with run }) := rfl

@[simp] theorem on_setSource (source : String) (bench : Workbench σ) :
    (setSource source).on bench = (.ok (), { bench with source }) := rfl

@[simp] theorem on_drawing (draw : Draw σ α) (bench : Workbench σ) :
    (drawing draw).on bench =
      (.ok (draw bench.chance).1, { bench with chance := (draw bench.chance).2 }) := rfl

theorem on_timing (operation : Timing α) (bench : Workbench σ) :
    (timing operation).on bench =
      ((operation.run bench.challenge).1,
        { bench with challenge := (operation.run bench.challenge).2 }) := by
  unfold timing
  rw [on_bind_of_ok (on_get bench)]
  exact (on_bind_of_ok (on_modify _ bench) _).trans (on_attempt _ _)

theorem on_changeRun (change : Run -> Except Fault Run) (bench : Workbench σ) :
    (changeRun change).on bench =
      match change bench.run with
      | .ok run => (.ok run, { bench with run })
      | .error fault => (.error fault, bench) := by
  unfold changeRun
  rw [on_bind_of_ok (on_get bench), on_bind, on_attempt]
  cases change bench.run with
  | ok run => rfl
  | error fault => rfl

theorem on_forbidDuringChallenge (action : String) (bench : Workbench σ) :
    (forbidDuringChallenge action).on bench =
      (if bench.challenge.active then .error (.challenge (.forbidden action)) else .ok (),
        bench) := by
  unfold forbidDuringChallenge
  rw [on_bind_of_ok (on_get bench)]
  cases bench.challenge.active with
  | true => rfl
  | false => rfl

theorem on_allowed {bench : Workbench σ} (h : bench.challenge.active = false) (action : String) :
    (forbidDuringChallenge action).on bench = (.ok (), bench) := by
  rw [on_forbidDuringChallenge, h]
  rfl

theorem on_forbidden {action : String} {bench : Workbench σ} (h : bench.challenge.active = true)
    (next : Unit -> Operation σ α) :
    Operation.on (forbidDuringChallenge action >>= next) bench =
      (.error (.challenge (.forbidden action)), bench) := by
  refine on_bind_of_error ?_ next
  rw [on_forbidDuringChallenge, h]
  rfl

/-!
## What operations keep
-/

section Kept

variable (I : Workbench σ -> Prop) {bench : Workbench σ}

/-- What two operations keep one after the other is kept by both together, also if the first one is
refused. -/
theorem kept_bind {operation : Operation σ α} {next : α -> Operation σ β}
    (h : I (operation.on bench).2)
    (hnext : forall value after, I after -> I ((next value).on after).2) :
    I (Operation.on (operation >>= next) bench).2 := by
  rw [on_bind]
  cases hon : operation.on bench with
  | mk result after =>
      rw [hon] at h
      cases result with
      | ok value => exact hnext value after h
      | error fault => exact h

theorem kept_attempt {result : Except Fault α} {next : α -> Operation σ β} (h : I bench)
    (hnext : forall value, result = .ok value -> I ((next value).on bench).2) :
    I (Operation.on (attempt result >>= next) bench).2 := by
  rw [on_bind, on_attempt]
  cases result with
  | ok value => exact hnext value rfl
  | error fault => exact h

theorem kept_forbidden {action : String} {next : Unit -> Operation σ α} (h : I bench)
    (hnext : bench.challenge.active = false -> I ((next ()).on bench).2) :
    I (Operation.on (forbidDuringChallenge action >>= next) bench).2 := by
  cases hactive : bench.challenge.active with
  | true =>
      rw [on_forbidden hactive]
      exact h
  | false =>
      rw [on_bind_of_ok (on_allowed hactive action)]
      exact hnext hactive

end Kept

/-!
## Programs
-/

theorem on_load (source : Option String) (asTarget : Bool) (bench : Workbench σ) :
    (load source asTarget).on bench =
      (changeRun fun run => run.load (source.getD bench.source) asTarget).on
        { bench with source := source.getD bench.source } := by
  unfold load
  cases source with
  | none => rfl
  | some text => rfl

/-!
## Targets
-/

theorem on_putTarget (target : Option Grid) (code : Option String) (bench : Workbench σ) :
    (putTarget target code).on bench =
      match checkTargetSize bench.run.mode target with
      | .ok _ =>
          (.ok { bench.run with target := target, targetCode := code },
            { bench with run := { bench.run with target := target, targetCode := code } })
      | .error fault => (.error fault, bench) := by
  unfold putTarget
  rw [on_bind_of_ok (on_get bench), on_bind, on_attempt]
  cases checkTargetSize bench.run.mode target with
  | ok value => rfl
  | error fault => rfl

def readTarget (mode : Mode) (target : Document) : Except Fault (Option Grid) := do
  let grid <- match target with
    | .null => .ok none
    | value => (Grid.ofDocument value).map some
  checkTargetSize mode grid
  return grid

theorem on_setTarget_of_maze {bench : Workbench σ} (h : bench.run.mode = .maze) (target : Document)
    (code : Option String) :
    (setTarget target code).on bench = (.error (.goal .mazeHasNoTarget), bench) := by
  unfold setTarget
  rw [on_bind_of_ok (on_get bench)]
  simp only [h, if_true]
  rfl

theorem on_setTarget {bench : Workbench σ} (h : bench.run.mode ≠ .maze) (target : Document)
    (code : Option String) :
    (setTarget target code).on bench =
      match readTarget bench.run.mode target with
      | .ok grid =>
          (.ok { bench.run with target := grid, targetCode := code },
            { bench with run := { bench.run with target := grid, targetCode := code } })
      | .error fault => (.error fault, bench) := by
  have hput : forall grid, (putTarget grid code).on bench =
      match (checkTargetSize bench.run.mode grid >>= fun _ => .ok grid) with
      | .ok grid =>
          (.ok { bench.run with target := grid, targetCode := code },
            { bench with run := { bench.run with target := grid, targetCode := code } })
      | .error fault => (.error fault, bench) := by
    intro grid
    rw [on_putTarget]
    cases checkTargetSize bench.run.mode grid with
    | ok value => rfl
    | error fault => rfl
  have hread : forall reading : Except Fault Grid,
      Operation.on (attempt reading >>= fun grid => putTarget (some grid) code) bench =
        match (reading.map some >>= fun grid =>
          checkTargetSize bench.run.mode grid >>= fun _ => .ok grid) with
        | .ok grid =>
            (.ok { bench.run with target := grid, targetCode := code },
              { bench with run := { bench.run with target := grid, targetCode := code } })
        | .error fault => (.error fault, bench) := by
    intro reading
    rw [on_bind, on_attempt]
    cases reading with
    | ok grid => exact hput (some grid)
    | error fault => rfl
  unfold setTarget readTarget
  rw [on_bind_of_ok (on_get bench)]
  simp only [h, if_false]
  cases target with
  | null => exact hput none
  | _ => exact hread _

/-!
## Goals and challenges
-/

theorem on_applyGoal {goal : Goal} (bench : Workbench σ)
    (h : checkTargetSize bench.run.mode goal.grid = .ok ()) :
    (applyGoal goal).on bench = (.ok (), { bench with run := bench.run.towards goal }) := by
  unfold applyGoal Run.towards
  cases goal.maze with
  | some maze =>
      simp only
      rw [on_discard, on_changeRun]
      rfl
  | none =>
      simp only
      rw [on_discard, on_putTarget, h]
      rfl

/-!
## Sessions
-/

theorem on_restoreSession {bench : Workbench σ} (h : bench.challenge.active = false)
    (text : String) :
    (restoreSession text).on bench =
      match Maze.loadSession text with
      | .error fault => (.error fault, bench)
      | .ok (code, maze) =>
          match (bench.run.forSession maze).load code false with
          | .error fault =>
              (.error fault, { bench with source := code, run := bench.run.forSession maze })
          | .ok loaded =>
              (.ok { loaded with maze := some maze, mazeScore := maze.collectedValue },
                { bench with
                  source := code
                  run := { loaded with maze := some maze, mazeScore := maze.collectedValue } }) := by
  have hrest : forall (code : String) (maze : Maze) (between : Workbench σ),
      Operation.on (discard (changeRun fun run => run.load code false) >>= fun _ =>
        changeRun fun run => .ok { run with maze := some maze, mazeScore := maze.collectedValue })
        between =
      match between.run.load code false with
      | .error fault => (.error fault, between)
      | .ok loaded =>
          (.ok { loaded with maze := some maze, mazeScore := maze.collectedValue },
            { between with
              run := { loaded with maze := some maze, mazeScore := maze.collectedValue } }) := by
    intro code maze between
    rw [on_bind, on_discard, on_changeRun]
    cases between.run.load code false with
    | error fault => rfl
    | ok loaded => rfl
  unfold restoreSession
  rw [on_bind_of_ok (on_allowed h _), on_bind, on_attempt]
  cases Maze.loadSession text with
  | error fault => rfl
  | ok session =>
      rcases session with ⟨code, maze⟩
      simp only
      rw [on_bind_of_ok (on_get bench)]
      unfold Run.forSession
      by_cases hmode : bench.run.mode = .maze
      · simp only [hmode, bne_self_eq_false, Bool.false_eq_true, if_false, if_true]
        rw [on_bind_of_ok (on_setSource code bench)]
        exact hrest code maze { bench with source := code }
      · simp only [bne_iff_ne.mpr hmode, if_true, if_neg hmode]
        rw [on_bind_of_ok (on_setRun _ bench), on_bind_of_ok (on_setSource code _)]
        exact hrest code maze { bench with source := code, run := .start .maze (some maze) }

/-!
## Rewinding
-/

variable [RandomSource σ]

theorem on_reset_new {bench : Workbench σ} (h : bench.run.mode = .maze) :
    (reset true).on bench =
      (.ok (bench.run.reset (some (Maze.generateUsual bench.chance).1)),
        { bench with
          chance := (Maze.generateUsual bench.chance).2
          run := bench.run.reset (some (Maze.generateUsual bench.chance).1) }) := by
  unfold reset
  rw [on_bind_of_ok (on_get bench)]
  simp only [h, decide_true, Bool.and_self, if_true]
  rw [on_bind_of_ok (on_drawing _ bench), on_changeRun]

theorem on_reset_same {bench : Workbench σ} {newMaze : Bool}
    (h : newMaze = false ∨ bench.run.mode ≠ .maze) :
    (reset newMaze).on bench =
      (.ok (bench.run.reset none), { bench with run := bench.run.reset none }) := by
  have hnot : (newMaze && decide (bench.run.mode = .maze)) = false := by
    rcases h with hfalse | hmode
    · rw [hfalse]
      rfl
    · simp [hmode]
  unfold reset
  rw [on_bind_of_ok (on_get bench)]
  simp only [hnot, Bool.false_eq_true, if_false]
  rw [on_changeRun]

end Workbench
end Mosaic
