import Mosaic.Proofs.Run.Course
import Mosaic.Proofs.Workbench.Refusal

/-!
# What requests make of the run

A request leaves the run alone, lets something happen to it, puts another target in place, or puts
another run in its place.  So whatever holds of the run of every workbench is seen from these few
moves, and not from one request after the other.
-/

namespace Mosaic

def Goal.picture? (drawn : Except Fault Goal) : Option (Option Grid) :=
  match drawn with
  | .ok goal => if goal.maze.isSome then none else some goal.grid
  | .error _ => none

theorem Goal.picture?_of_maze {goal : Goal} {maze : Maze} (h : goal.maze = some maze) :
    picture? (.ok goal) = none := by
  unfold picture?
  simp [h]

theorem Goal.picture?_of_grid {goal : Goal} (h : goal.maze = none) :
    picture? (.ok goal) = some goal.grid := by
  unfold picture?
  simp [h]

namespace Workbench

variable {σ : Type} [RandomSource σ]

/-- The target that a request puts in place while the run stays what it is, if it does so. -/
def put? (bench : Workbench σ) : Request -> Option (Option Grid)
  | .setTarget target _ =>
      if bench.run.mode = .maze then none else (readTarget bench.run.mode target).toOption
  | .newGoal =>
      if bench.challenge.active then none
      else Goal.picture? (Goal.draw bench.run.mode bench.chance).1
  | .startChallenge =>
      match bench.challenge.checkReady with
      | .ok _ => Goal.picture? (Goal.drawChallenge bench.run.mode bench.settings.secondsPerRow
          bench.settings.mazeBudget bench.chance).1
      | .error _ => none
  | _ => none

/-- What may become of the run of a workbench, and the target that is put in place. -/
inductive Becomes (bench : Workbench σ) : Option (Option Grid) -> Run -> Prop
  | same : Becomes bench none bench.run
  | event {after : Run} (event : Run.Event) (keeps : Run.KeepsMaze event bench.run)
      (result : event.on bench.run = .ok after) : Becomes bench none after
  | put (target : Option Grid) (code : Option String) (mode : bench.run.mode ≠ .maze)
      (size : checkTargetSize bench.run.mode target = .ok ()) :
      Becomes bench (some target) { bench.run with target := target, targetCode := code }
  | moved (maze : Maze) (mode : bench.run.mode = .maze) (playable : maze.Playable) :
      Becomes bench none (bench.run.reset (some maze))
  | exchanged (mode : Mode) (chance : σ) : Becomes bench none (drawRun mode chance).1
  | entered {text code : String} {maze : Maze} (session : Maze.loadSession text = .ok (code, maze)) :
      Becomes bench none (bench.run.forSession maze)
  | restored {text code : String} {maze : Maze} {loaded : Run}
      (session : Maze.loadSession text = .ok (code, maze))
      (result : (bench.run.forSession maze).load code false = .ok loaded) :
      Becomes bench none { loaded with maze := some maze, mazeScore := maze.collectedValue }

theorem readTarget_cases {mode : Mode} {target : Document} {grid : Option Grid}
    (h : readTarget mode target = .ok grid) :
    checkTargetSize mode grid = .ok () ∧
      (grid = none ∨ exists read, Grid.ofDocument target = .ok read ∧ grid = some read) := by
  have hput : forall reading : Except Fault (Option Grid),
      (reading >>= fun given => checkTargetSize mode given >>= fun _ => pure given) = .ok grid ->
        reading = .ok grid ∧ checkTargetSize mode grid = .ok () := by
    intro reading hreading
    rcases Attempts.bind_eq_ok_iff.mp hreading with ⟨given, hgiven, hrest⟩
    rcases Attempts.bind_eq_ok_iff.mp hrest with ⟨_, hsize, hsame⟩
    cases Attempts.pure_eq_ok_iff.mp hsame
    exact ⟨hgiven, hsize⟩
  unfold readTarget at h
  split at h
  · rcases hput _ h with ⟨hnone, hsize⟩
    cases hnone
    exact ⟨hsize, Or.inl rfl⟩
  · rcases hput _ h with ⟨hread, hsize⟩
    rcases Attempts.map_eq_ok_iff.mp hread with ⟨read, hread, hsame⟩
    exact ⟨hsize, Or.inr ⟨read, hread, hsame.symm⟩⟩

section Operations

variable {bench : Workbench σ}

theorem becomes_changeRun (event : Run.Event) (keeps : Run.KeepsMaze event bench.run) :
    Becomes bench none ((changeRun event.on).on bench).2.run := by
  rw [on_changeRun]
  cases hafter : event.on bench.run with
  | ok after => exact .event event keeps hafter
  | error fault => exact .same

theorem becomes_load (source : Option String) (asTarget : Bool) :
    Becomes bench none ((load source asTarget).on bench).2.run := by
  rw [on_load, on_changeRun]
  cases hafter : bench.run.load (source.getD bench.source) asTarget with
  | ok after =>
      exact .event (.load (source.getD bench.source) asTarget) nofun hafter
  | error fault => exact .same

theorem becomes_setTarget (target : Document) (code : Option String) :
    Becomes bench (put? bench (.setTarget target code)) ((setTarget target code).on bench).2.run := by
  by_cases hmode : bench.run.mode = .maze
  · have hnone : put? bench (.setTarget target code) = none := if_pos hmode
    rw [hnone, on_setTarget_of_maze hmode]
    exact .same
  · have hput : put? bench (.setTarget target code) =
        (readTarget bench.run.mode target).toOption := if_neg hmode
    rw [hput, on_setTarget hmode]
    cases hread : readTarget bench.run.mode target with
    | error fault => exact .same
    | ok grid =>
        exact .put grid code hmode (readTarget_cases hread).left

theorem becomes_towards {goal : Goal} (hdrawn : goal.Drawn bench.run.mode)
    (hfits : goal.Fits bench.run.mode) :
    Becomes bench (Goal.picture? (.ok goal)) (bench.run.towards goal) := by
  unfold Run.towards
  cases hmaze : goal.maze with
  | some maze =>
      rw [Goal.picture?_of_maze hmaze]
      have hmode : bench.run.mode = .maze := hdrawn.hasMaze.mp (by rw [hmaze]; rfl)
      exact .moved maze hmode (hdrawn.playable maze hmaze)
  | none =>
      rw [Goal.picture?_of_grid hmaze]
      have hmode : bench.run.mode ≠ .maze := by
        intro hcase
        have hsome := hdrawn.hasMaze.mpr hcase
        rw [hmaze] at hsome
        cases hsome
      exact .put goal.grid goal.code hmode (checkTargetSize_of_fits hfits)

theorem becomes_reset (newMaze : Bool) : Becomes bench none ((reset newMaze).on bench).2.run := by
  by_cases hnew : newMaze = true ∧ bench.run.mode = .maze
  · rcases hnew with ⟨rfl, hmode⟩
    rw [on_reset_new hmode]
    exact .moved _ hmode (Maze.always_generateUsual bench.chance)
  · have hsame : newMaze = false ∨ bench.run.mode ≠ .maze := by
      cases newMaze with
      | false => exact Or.inl rfl
      | true => exact Or.inr fun hmode => hnew ⟨rfl, hmode⟩
    rw [on_reset_same hsame]
    exact .event (.reset none) nofun rfl

theorem becomes_setMode (mode : Document) : Becomes bench none ((setMode mode).on bench).2.run := by
  unfold setMode
  refine kept_forbidden (fun after => Becomes bench none after.run) .same fun _ => ?_
  rw [on_bind_of_ok (on_setSource "" bench)]
  refine kept_attempt (fun after => Becomes bench none after.run) .same fun mode _ => ?_
  rw [on_bind_of_ok (on_drawing _ _), on_bind_of_ok (on_setRun _ _), on_bind_of_ok (on_get _)]
  exact .exchanged mode bench.chance

theorem becomes_newGoal :
    Becomes bench (put? bench .newGoal) ((newGoal.on bench).2.run) := by
  show Becomes bench (if bench.challenge.active then none else _) _
  unfold newGoal
  cases hactive : bench.challenge.active with
  | true =>
      rw [on_forbidden hactive]
      exact .same
  | false =>
      rw [on_bind_of_ok (on_allowed hactive _), on_bind_of_ok (on_get bench),
        on_bind_of_ok (on_drawing _ bench), on_bind, on_attempt]
      cases hgoal : (Goal.draw bench.run.mode bench.chance).1 with
      | error fault => exact .same
      | ok goal =>
          have hdrawn := Goal.drawn_draw bench.run.mode bench.chance goal hgoal
          have hfits := Goal.fits_draw bench.run.mode bench.chance goal hgoal
          have happlied := on_applyGoal
            { bench with chance := (Goal.draw bench.run.mode bench.chance).2 }
            (checkTargetSize_of_fits hfits)
          simp only [Bool.false_eq_true, if_false]
          rw [on_bind_of_ok happlied, on_bind_of_ok (on_get _)]
          exact becomes_towards hdrawn hfits

theorem becomes_startChallenge :
    Becomes bench (put? bench .startChallenge) ((startChallenge.on bench).2.run) := by
  show Becomes bench (match bench.challenge.checkReady with | .ok _ => _ | .error _ => none) _
  unfold startChallenge
  rw [on_bind_of_ok (on_get bench), on_bind, on_attempt]
  cases hready : bench.challenge.checkReady with
  | error fault => exact .same
  | ok _ =>
      simp only
      rw [on_bind_of_ok (on_drawing _ bench), on_bind, on_attempt]
      cases hgoal : (Goal.drawChallenge bench.run.mode bench.settings.secondsPerRow
        bench.settings.mazeBudget bench.chance).1 with
      | error fault => exact .same
      | ok goal =>
          have hdrawn := Goal.drawn_drawChallenge bench.run.mode _ _ bench.chance goal hgoal
          have hfits := Goal.fits_drawChallenge bench.run.mode _ _ bench.chance goal hgoal
          have happlied := on_applyGoal
            { bench with chance := (Goal.drawChallenge bench.run.mode bench.settings.secondsPerRow
              bench.settings.mazeBudget bench.chance).2 } (checkTargetSize_of_fits hfits)
          simp only
          rw [on_bind_of_ok happlied, on_bind, on_timing]
          cases ((Challenge.start (goal.budget.getD 0)).run bench.challenge).1 with
          | ok _ => exact becomes_towards hdrawn hfits
          | error fault => exact becomes_towards hdrawn hfits

theorem becomes_tick : Becomes bench none ((tick.on bench).2.run) := by
  unfold tick
  rw [on_bind_of_ok (on_get bench)]
  show Becomes bench none (if bench.challenge.tick.1 then bench.run.stopped else bench.run)
  split
  · exact .event .stop nofun rfl
  · exact .same

theorem becomes_saveSession : Becomes bench none ((saveSession.on bench).2.run) := by
  unfold saveSession
  rw [on_bind_of_ok (on_get bench)]
  split
  · exact .same
  · exact .same

theorem becomes_restoreSession (text : String) :
    Becomes bench none ((restoreSession text).on bench).2.run := by
  cases hactive : bench.challenge.active with
  | true =>
      unfold restoreSession
      rw [on_forbidden hactive]
      exact .same
  | false =>
      rw [on_restoreSession hactive]
      cases hsession : Maze.loadSession text with
      | error fault => exact .same
      | ok session =>
          rcases session with ⟨code, maze⟩
          simp only
          cases hload : (bench.run.forSession maze).load code false with
          | error fault => exact .entered hsession
          | ok loaded => exact .restored hsession hload

end Operations

theorem becomes_perform (request : Request) (bench : Workbench σ) :
    Becomes bench (put? bench request) (request.perform bench).run := by
  unfold Request.perform Request.operation
  cases request with
  | load source asTarget =>
      rw [on_discard]
      exact becomes_load source asTarget
  | step =>
      rw [on_discard]
      exact becomes_changeRun .step nofun
  | resume =>
      rw [on_discard]
      exact becomes_changeRun .resume nofun
  | stop =>
      rw [on_discard]
      exact becomes_changeRun .stop nofun
  | reset newMaze =>
      rw [on_discard]
      exact becomes_reset newMaze
  | runToHalt maxSteps =>
      rw [on_discard]
      exact becomes_changeRun (.runToHalt maxSteps) nofun
  | setMode mode =>
      rw [on_discard]
      exact becomes_setMode mode
  | setSource source => exact .same
  | setTarget target code =>
      rw [on_discard]
      exact becomes_setTarget target code
  | newGoal =>
      rw [on_discard]
      exact becomes_newGoal
  | startChallenge =>
      rw [on_discard]
      exact becomes_startChallenge
  | stopChallenge => exact .event .stop nofun rfl
  | tick =>
      rw [on_discard]
      exact becomes_tick
  | saveSession =>
      rw [on_discard]
      exact becomes_saveSession
  | restoreSession text =>
      rw [on_discard]
      exact becomes_restoreSession text
  | score => exact .same
  | report => exact .same

theorem run_of_create {settings : Settings} {chance : σ} {mode : Mode} {bench : Workbench σ}
    (h : create settings chance mode = .ok bench) : bench.run = (drawRun mode chance).1 := by
  unfold create at h
  rcases Attempts.bind_eq_ok_iff.mp h with ⟨challenge, _, hbench⟩
  cases Attempts.pure_eq_ok_iff.mp hbench
  rfl

/-- What holds of every new run, and is kept by every move, holds of the run of a workbench that can be
reached. -/
theorem Reachable.kept {P : Run -> Prop} {bench : Workbench σ} (h : bench.Reachable)
    (hdrawn : forall (mode : Mode) (chance : σ), P (drawRun mode chance).1)
    (hmove : forall (before : Workbench σ) (request : Request) (after : Run), P before.run ->
      Becomes before (put? before request) after -> P after) : P bench.run := by
  induction h with
  | created checked opened =>
      rw [run_of_create opened]
      exact hdrawn _ _
  | performed request before ih => exact hmove _ request _ ih (becomes_perform request _)

end Workbench
end Mosaic
