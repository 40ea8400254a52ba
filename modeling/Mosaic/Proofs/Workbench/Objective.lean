import Mosaic.Proofs.Goal.Rows
import Mosaic.Proofs.Maze.Generation
import Mosaic.Proofs.Run.Objective
import Mosaic.Proofs.Workbench.Reachable

/-!
# The goal of a challenge

A challenge starts with a goal of its own.  While it is active, no request changes the mode, and
most requests leave the goal alone or are refused.  Three of them do neither: a text loaded as the
target, a target put in place, and a reset in a new maze.
-/

namespace Mosaic

def Goal.objective (goal : Goal) : Objective :=
  match goal.maze with
  | some maze => .layout (some maze.layout)
  | none => .picture goal.grid

/-- A goal that belongs to a mode: a maze in MAZE, and a grid in the other modes. -/
structure Goal.Suits (goal : Goal) (mode : Mode) : Prop where
  sameMode : goal.mode = mode
  hasMaze : goal.maze.isSome = true ↔ mode = .maze

structure Goal.Drawn (goal : Goal) (mode : Mode) : Prop extends Goal.Suits goal mode where
  playable : forall maze, goal.maze = some maze -> maze.Playable

namespace Goal

open Draw

theorem drawn_of_grid (mode : Mode) (h : mode ≠ .maze) (grid : Grid) (code : Option String)
    (budget : Option Int) : Drawn ⟨mode, some grid, code, budget, none⟩ mode := by
  refine ⟨⟨rfl, ?_⟩, nofun⟩
  constructor
  · nofun
  · intro hmode
    exact absurd hmode h

theorem drawn_of_maze {maze : Maze} (h : maze.Playable) :
    Drawn ⟨.maze, none, none, none, some maze⟩ .maze := by
  refine ⟨⟨rfl, by simp⟩, ?_⟩
  intro other hother
  cases hother
  exact h

theorem Drawn.timed {goal : Goal} {mode : Mode} (h : goal.Drawn mode)
    (secondsPerRow mazeBudget : Int) : (goal.timed secondsPerRow mazeBudget).Drawn mode := by
  unfold Goal.timed
  split
  · exact ⟨⟨h.sameMode, h.hasMaze⟩, h.playable⟩
  · exact ⟨⟨h.sameMode, h.hasMaze⟩, h.playable⟩

variable {σ : Type} [RandomSource σ]

theorem drawn_draw (mode : Mode) :
    Always (draw mode : Draw σ (Except Fault Goal)) fun result =>
      forall goal, result = .ok goal -> goal.Drawn mode := by
  have hok : forall goal : Goal, goal.Drawn mode ->
      forall other, (.ok goal : Except Fault Goal) = .ok other -> other.Drawn mode := by
    intro goal hgoal other hother
    cases hother
    exact hgoal
  unfold draw
  cases mode with
  | table =>
      exact always_bind (always_any drawTable) fun grid _ =>
        always_pure (hok _ (drawn_of_grid .table (by decide) grid none none))
  | grid =>
      exact always_bind (always_any drawTable) fun grid _ =>
        always_pure (hok _ (drawn_of_grid .grid (by decide) grid none none))
  | matrix =>
      refine always_bind (always_any (drawLamps usualLitLamps usualAttempts)) fun lamps _ =>
        always_pure ?_
      cases lamps with
      | error fault =>
          intro goal hgoal
          cases hgoal
      | ok lamps => exact hok _ (drawn_of_grid .matrix (by decide) lamps.1 (some lamps.2) none)
  | pixel =>
      exact always_bind (always_any drawScreen) fun screen _ =>
        always_pure (hok _ (drawn_of_grid .pixel (by decide) screen.1 (some screen.2) none))
  | maze =>
      exact always_bind Maze.always_generateUsual fun maze hmaze =>
        always_pure (hok _ (drawn_of_maze hmaze))

theorem drawn_drawChallenge (mode : Mode) (secondsPerRow mazeBudget : Int) :
    Always (drawChallenge mode secondsPerRow mazeBudget : Draw σ (Except Fault Goal))
      fun result => forall goal, result = .ok goal -> goal.Drawn mode := by
  unfold drawChallenge
  split
  · rename_i hdeclares
    have hmode : mode ≠ .maze := by
      intro hsame
      subst hsame
      cases hdeclares
    refine always_bind (always_any (drawTimedTable secondsPerRow)) fun table _ => always_pure ?_
    intro goal hgoal
    cases hgoal
    exact drawn_of_grid mode hmode table.1 none (some table.2)
  · refine always_bind (drawn_draw mode) fun result hresult => always_pure ?_
    intro goal hgoal
    rcases Attempts.map_eq_ok_iff.mp hgoal with ⟨drawn, hdrawn, rfl⟩
    exact (hresult drawn hdrawn).timed secondsPerRow mazeBudget

end Goal

namespace Workbench

variable {σ : Type}

theorem objective_with_target {run : Run} (h : run.mode ≠ .maze) (target : Option Grid)
    (code : Option String) :
    ({ run with target := target, targetCode := code } : Run).objective = .picture target := by
  unfold Run.objective
  rw [if_neg h]

theorem objective_reset_some {run : Run} (h : run.mode = .maze) (maze : Maze) :
    (run.reset (some maze)).objective = .layout (some maze.layout) := by
  have hmode : (run.reset (some maze)).mode = .maze := h
  unfold Run.objective
  rw [if_pos hmode]
  exact congrArg (fun layout => Objective.layout (some layout)) (Maze.layout_fresh maze)

theorem applyGoal_of_ok {goal : Goal} {mode : Mode} {bench after : Workbench σ}
    (h : (applyGoal goal).on bench = (.ok (), after)) (hsuits : goal.Suits mode)
    (hbench : bench.run.mode = mode) :
    after.run.mode = goal.mode ∧ after.run.objective = goal.objective ∧
      after.challenge = bench.challenge := by
  subst hbench
  unfold applyGoal at h
  unfold Goal.objective
  rw [hsuits.sameMode]
  cases hmaze : goal.maze with
  | some maze =>
      have hmode : bench.run.mode = .maze := hsuits.hasMaze.mp (by rw [hmaze]; rfl)
      rw [hmaze] at h
      simp only at h
      rw [on_discard, on_changeRun] at h
      cases h
      exact ⟨rfl, objective_reset_some hmode maze, rfl⟩
  | none =>
      have hmode : bench.run.mode ≠ .maze := by
        intro hcase
        have hsome := hsuits.hasMaze.mpr hcase
        rw [hmaze] at hsome
        cases hsome
      rw [hmaze] at h
      simp only at h
      rw [on_discard, on_putTarget] at h
      split at h
      · cases h
        exact ⟨rfl, objective_with_target hmode _ _, rfl⟩
      · cases h

/-!
## Keeping and replacing
-/

/-- What is asked to be worked towards after a change of the run, and the mode. -/
structure Replaces (objective : Option Objective) (before after : Run) : Prop where
  mode : after.mode = before.mode
  objective : after.objective = objective.getD before.objective

theorem replaces_none {before after : Run} (h : Run.SameGoal before after) :
    Replaces none before after := ⟨h.mode, h.objective⟩

theorem replaces_changeRun {change : Run -> Except Fault Run} {bench : Workbench σ}
    (h : forall after, change bench.run = .ok after -> Run.SameGoal bench.run after) :
    Replaces none bench.run ((changeRun change).on bench).2.run := by
  rw [on_changeRun]
  cases hchange : change bench.run with
  | ok after => exact replaces_none (h after hchange)
  | error fault => exact replaces_none (Run.SameGoal.refl bench.run)

variable [RandomSource σ]

theorem startChallenge_of_ok {bench started : Workbench σ} {goal : Goal}
    (h : startChallenge.on bench = (.ok goal, started)) :
    goal.Suits bench.run.mode ∧ started.challenge.active = true ∧
      started.run.mode = goal.mode ∧ started.run.objective = goal.objective := by
  unfold startChallenge at h
  rw [on_bind_of_ok (on_get bench)] at h
  rcases on_bind_eq_ok h with ⟨_, ready, hready, h⟩
  rw [on_attempt] at hready
  injection hready with _ hready
  subst hready
  rw [on_bind_of_ok (on_drawing _ bench)] at h
  rcases on_bind_eq_ok h with ⟨drawn, drawnBench, hdrawn, h⟩
  rw [on_attempt] at hdrawn
  injection hdrawn with hgoal hdrawn
  subst hdrawn
  have hsuits := (Goal.drawn_drawChallenge bench.run.mode bench.settings.secondsPerRow
    bench.settings.mazeBudget bench.chance drawn hgoal).toSuits
  rcases on_bind_eq_ok h with ⟨_, applied, happlied, h⟩
  rcases applyGoal_of_ok happlied hsuits rfl with ⟨hmode, hobjective, _⟩
  rcases on_bind_eq_ok h with ⟨_, clockBench, hclock, h⟩
  rw [on_timing] at hclock
  injection hclock with hstart hclock
  subst hclock
  cases h
  exact ⟨hsuits, Challenge.active_of_granted hstart, hmode, hobjective⟩

/-!
## Requests during a challenge
-/

def drawnTarget? (mode : Mode) (source : String) : Option Objective :=
  match Program.load mode source with
  | .ok program => program.replay.toOption.map .picture
  | .error _ => none

/-- What a request puts in place of the goal of an active challenge, if it does so. -/
def replacement? (bench : Workbench σ) : Request -> Option Objective
  | .load source true =>
      if bench.run.mode = .maze then none
      else drawnTarget? bench.run.mode (source.getD bench.source)
  | .setTarget target _ =>
      if bench.run.mode = .maze then none
      else (readTarget bench.run.mode target).toOption.map .picture
  | .reset true =>
      if bench.run.mode = .maze then
        some (.layout (some (Maze.generateUsual bench.chance).1.layout))
      else none
  | _ => none

theorem replaces_load (bench : Workbench σ) (source : Option String) (asTarget : Bool) :
    Replaces (replacement? bench (.load source asTarget)) bench.run
      ((load source asTarget).on bench).2.run := by
  rw [on_load]
  by_cases hkept : asTarget = false ∨ bench.run.mode = .maze
  · have hnone : replacement? bench (.load source asTarget) = none := by
      rcases hkept with rfl | hmode
      · rfl
      · cases asTarget with
        | false => rfl
        | true => exact if_pos hmode
    rw [hnone]
    exact @replaces_changeRun σ _ { bench with source := source.getD bench.source }
      fun after hafter => Run.sameGoal_load hkept hafter
  · simp only [not_or, Bool.not_eq_false] at hkept
    rcases hkept with ⟨rfl, hmode⟩
    have hnot : (true && bench.run.mode != .maze) = true := by simp [hmode]
    show Replaces (if bench.run.mode = .maze then none
      else drawnTarget? bench.run.mode (source.getD bench.source)) bench.run _
    rw [if_neg hmode, on_changeRun]
    unfold drawnTarget? Run.load
    cases Program.load bench.run.mode (source.getD bench.source) with
    | error fault =>
        cases fault with
        | program problem => exact replaces_none ⟨rfl, rfl, rfl⟩
        | _ => exact replaces_none (Run.SameGoal.refl bench.run)
    | ok program =>
        simp only [hnot, if_true]
        cases program.replay with
        | error fault => exact replaces_none (Run.SameGoal.refl bench.run)
        | ok target => exact ⟨rfl, @objective_with_target (bench.run.withProgram program) hmode target
            (some (source.getD bench.source))⟩

theorem replaces_setTarget (bench : Workbench σ) (target : Document) (code : Option String) :
    Replaces (replacement? bench (.setTarget target code)) bench.run
      ((setTarget target code).on bench).2.run := by
  show Replaces (if bench.run.mode = .maze then none
    else (readTarget bench.run.mode target).toOption.map .picture) bench.run _
  by_cases hmode : bench.run.mode = .maze
  · rw [if_pos hmode, on_setTarget_of_maze hmode]
    exact replaces_none (Run.SameGoal.refl bench.run)
  · rw [if_neg hmode, on_setTarget hmode]
    cases readTarget bench.run.mode target with
    | ok grid => exact ⟨rfl, objective_with_target hmode grid code⟩
    | error fault => exact replaces_none (Run.SameGoal.refl bench.run)

theorem replaces_reset (bench : Workbench σ) (newMaze : Bool) :
    Replaces (replacement? bench (.reset newMaze)) bench.run ((reset newMaze).on bench).2.run := by
  by_cases hnew : newMaze = true ∧ bench.run.mode = .maze
  · rcases hnew with ⟨rfl, hmode⟩
    show Replaces (if bench.run.mode = .maze then _ else none) bench.run _
    rw [if_pos hmode, on_reset_new hmode]
    exact ⟨rfl, objective_reset_some hmode _⟩
  · have hsame : newMaze = false ∨ bench.run.mode ≠ .maze := by
      cases newMaze with
      | false => exact Or.inl rfl
      | true => exact Or.inr fun hmode => hnew ⟨rfl, hmode⟩
    have hnone : replacement? bench (.reset newMaze) = none := by
      rcases hsame with rfl | hmode
      · rfl
      · cases newMaze with
        | false => rfl
        | true => exact if_neg hmode
    rw [hnone, on_reset_same hsame]
    exact replaces_none (Run.sameGoal_reset_none bench.run)

/-- During a challenge a request keeps the mode, and it keeps the goal unless it replaces it. -/
theorem replaces_perform {bench : Workbench σ} (h : bench.challenge.active = true)
    (request : Request) :
    Replaces (replacement? bench request) bench.run (request.perform bench).run := by
  unfold Request.perform Request.operation
  cases request with
  | load source asTarget =>
      rw [on_discard]
      exact replaces_load bench source asTarget
  | step =>
      rw [on_discard]
      exact replaces_changeRun fun after hafter => Run.sameGoal_step hafter
  | resume =>
      rw [on_discard]
      refine replaces_changeRun fun after hafter => ?_
      cases hafter
      exact ⟨rfl, rfl, rfl⟩
  | stop =>
      rw [on_discard]
      refine replaces_changeRun fun after hafter => ?_
      cases hafter
      exact ⟨rfl, rfl, rfl⟩
  | reset newMaze =>
      rw [on_discard]
      exact replaces_reset bench newMaze
  | runToHalt maxSteps =>
      rw [on_discard]
      exact replaces_changeRun fun after hafter => Run.sameGoal_runToHalt hafter
  | setMode mode =>
      unfold setMode
      rw [on_discard, on_forbidden h]
      exact replaces_none (Run.SameGoal.refl bench.run)
  | setSource source => exact replaces_none (Run.SameGoal.refl bench.run)
  | setTarget target code =>
      rw [on_discard]
      exact replaces_setTarget bench target code
  | newGoal =>
      unfold newGoal
      rw [on_discard, on_forbidden h]
      exact replaces_none (Run.SameGoal.refl bench.run)
  | startChallenge =>
      have hactive : bench.challenge.checkReady = .error (.challenge .alreadyActive) := by
        unfold Challenge.checkReady
        rw [h]
        rfl
      unfold startChallenge
      rw [on_discard, on_bind_of_ok (on_get bench), hactive,
        on_bind_of_error (on_attempt _ bench)]
      exact replaces_none (Run.SameGoal.refl bench.run)
  | stopChallenge => exact replaces_none ⟨rfl, rfl, rfl⟩
  | tick =>
      unfold tick
      rw [on_discard, on_bind_of_ok (on_get bench)]
      apply replaces_none
      show Run.SameGoal bench.run
        (if bench.challenge.tick.1 then bench.run.stopped else bench.run)
      split
      · exact ⟨rfl, rfl, rfl⟩
      · exact Run.SameGoal.refl bench.run
  | saveSession =>
      unfold saveSession
      rw [on_discard, on_bind_of_ok (on_get bench)]
      split
      · exact replaces_none (Run.SameGoal.refl bench.run)
      · exact replaces_none (Run.SameGoal.refl bench.run)
  | restoreSession text =>
      unfold restoreSession
      rw [on_discard, on_forbidden h]
      exact replaces_none (Run.SameGoal.refl bench.run)
  | score => exact replaces_none (Run.SameGoal.refl bench.run)
  | report => exact replaces_none (Run.SameGoal.refl bench.run)

/-!
## A whole challenge
-/

/-- The challenge is active, and stays so through requests in a row. -/
def StaysActive : List Request -> Workbench σ -> Prop
  | [], bench => bench.challenge.active = true
  | request :: rest, bench =>
      bench.challenge.active = true ∧ StaysActive rest (request.perform bench)

/-- The last replacement of the goal among requests in a row. -/
def lastReplacement? : List Request -> Workbench σ -> Option Objective
  | [], _ => none
  | request :: rest, bench =>
      (lastReplacement? rest (request.perform bench)).or (replacement? bench request)

theorem replaces_performAll {requests : List Request} {bench : Workbench σ}
    (h : StaysActive requests bench) :
    Replaces (lastReplacement? requests bench) bench.run
      (Request.performAll requests bench).run := by
  induction requests generalizing bench with
  | nil => exact replaces_none (Run.SameGoal.refl bench.run)
  | cons request rest ih =>
      have hfirst := replaces_perform h.left request
      have hrest := ih h.right
      refine ⟨hrest.mode.trans hfirst.mode, ?_⟩
      rw [Request.performAll_cons, hrest.objective, hfirst.objective, lastReplacement?]
      cases lastReplacement? rest (request.perform bench) with
      | none => rfl
      | some objective => rfl

/-- What is worked towards during a challenge is the goal it started with, unless a request has put
something else in its place. -/
theorem objective_during_challenge {bench started : Workbench σ} {goal : Goal}
    {requests : List Request} (hstart : startChallenge.on bench = (.ok goal, started))
    (hactive : StaysActive requests started) :
    (Request.performAll requests started).run.mode = bench.run.mode ∧
      (Request.performAll requests started).run.objective =
        (lastReplacement? requests started).getD goal.objective ∧
      ((Request.performAll requests started).run.objective = goal.objective ↔
        forall objective, lastReplacement? requests started = some objective ->
          objective = goal.objective) := by
  rcases startChallenge_of_ok hstart with ⟨hsuits, _, hmode, hobjective⟩
  have hreplaces := replaces_performAll hactive
  have hlast := hreplaces.objective
  rw [hobjective] at hlast
  refine ⟨?_, hlast, ?_⟩
  · rw [hreplaces.mode, hmode, hsuits.sameMode]
  · rw [hlast]
    cases lastReplacement? requests started with
    | none => simp
    | some objective => simp

theorem startChallenge_table {bench : Workbench σ} (hmode : bench.run.mode.declaresSize = true)
    (hready : bench.challenge.checkReady = .ok ()) (hpace : 0 < bench.settings.secondsPerRow) :
    exists goal started grid, startChallenge.on bench = (.ok goal, started) ∧
      goal.objective = .picture (some grid) := by
  rcases Goal.drawChallenge_table hmode hpace bench.settings.mazeBudget bench.chance with
    ⟨grid, seconds, hgoal, hseconds⟩
  have hsize : checkTargetSize bench.run.mode (some grid) = .ok () := by
    cases hcase : bench.run.mode with
    | table => rfl
    | grid => rfl
    | _ =>
        rw [hcase] at hmode
        cases hmode
  refine ⟨⟨bench.run.mode, some grid, none, some seconds, none⟩,
    { bench with
      chance := (Goal.drawChallenge bench.run.mode bench.settings.secondsPerRow
        bench.settings.mazeBudget bench.chance).2
      challenge := { bench.challenge with active := true, timeLeft := seconds }
      run := { bench.run with target := some grid, targetCode := none } }, grid, ?_, rfl⟩
  unfold startChallenge
  rw [on_bind_of_ok (on_get bench), hready, on_bind_of_ok (on_attempt _ bench),
    on_bind_of_ok (on_drawing _ bench), hgoal, on_bind_of_ok (on_attempt _ _),
    on_bind_of_ok (on_applyGoal _ hsize)]
  show Operation.on (timing (Challenge.start seconds) >>= _) _ = _
  rw [on_bind, on_timing, Challenge.start_of_ready hready hseconds]
  rfl

theorem exists_challenge :
    exists bench started goal grid,
      create usualSettings (Twister.ofSeed 7) .table = .ok bench ∧
        startChallenge.on bench = (.ok goal, started) ∧
        goal.objective = .picture (some grid) ∧ started.challenge.active = true ∧
        started.run.mode = .table := by
  have hcreate : exists bench, create usualSettings (Twister.ofSeed 7) .table = .ok bench ∧
      bench.run.mode = .table ∧ bench.challenge.checkReady = .ok () ∧
      bench.settings = usualSettings := ⟨_, rfl, rfl, rfl, rfl⟩
  rcases hcreate with ⟨bench, hbench, hmode, hready, hsettings⟩
  rcases startChallenge_table (by rw [hmode]; rfl) hready (by rw [hsettings]; decide) with
    ⟨goal, started, grid, hstart, hgrid⟩
  rcases startChallenge_of_ok hstart with ⟨hsuits, hactive, hstartedMode, _⟩
  exact ⟨bench, started, goal, grid, hbench, hstart, hgrid, hactive,
    by rw [hstartedMode, hsuits.sameMode, hmode]⟩

/-- A new goal is refused, and the run started: the goal of the challenge is still there. -/
theorem objective_during_challenge_refused :
    exists bench started goal, create usualSettings (Twister.ofSeed 7) .table = .ok bench ∧
      startChallenge.on bench = (.ok goal, started) ∧
      StaysActive [.newGoal, .resume] started ∧
      (Request.performAll [.newGoal, .resume] started).run.objective = goal.objective := by
  rcases exists_challenge with ⟨bench, started, goal, grid, hbench, hstart, _, hactive, _⟩
  have hrefused : Request.newGoal.perform started = started := by
    unfold Request.perform Request.operation newGoal
    rw [on_discard, on_forbidden hactive]
  have hstays : StaysActive [.newGoal, .resume] started := by
    refine ⟨hactive, ?_⟩
    rw [hrefused]
    exact ⟨hactive, hactive⟩
  exact ⟨bench, started, goal, hbench, hstart, hstays,
    (objective_during_challenge hstart hstays).right.right.mpr (by
      intro objective hobjective
      rw [lastReplacement?, lastReplacement?, lastReplacement?] at hobjective
      cases hobjective)⟩

/-- The target is taken away in the middle of a challenge. -/
theorem not_objective_during_challenge :
    exists bench started goal, create usualSettings (Twister.ofSeed 7) .table = .ok bench ∧
      startChallenge.on bench = (.ok goal, started) ∧
      StaysActive [.setTarget .null none] started ∧
      (Request.performAll [.setTarget .null none] started).run.objective ≠ goal.objective := by
  rcases exists_challenge with ⟨bench, started, goal, grid, hbench, hstart, hgrid, hactive, hmode⟩
  have hother : started.run.mode ≠ .maze := by
    rw [hmode]
    simp
  have hperform : Request.perform (.setTarget .null none) started =
      { started with run := { started.run with target := none, targetCode := none } } := by
    unfold Request.perform Request.operation
    rw [on_discard, on_setTarget hother, hmode]
    rfl
  have hstays : StaysActive [.setTarget .null none] started := by
    refine ⟨hactive, ?_⟩
    rw [hperform]
    exact hactive
  refine ⟨bench, started, goal, hbench, hstart, hstays, ?_⟩
  rw [Request.performAll_cons, Request.performAll_nil, hperform, hgrid,
    objective_with_target hother]
  simp

end Workbench
end Mosaic
