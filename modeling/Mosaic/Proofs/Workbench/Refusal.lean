import Mosaic.Proofs.Goal.Budget
import Mosaic.Proofs.Workbench.Objective

/-!
# What a refused request leaves behind

A request that is refused should leave the workbench as it was, apart from the source of chance.
Most requests ask whatever may refuse them before they put anything in place.  Four do not: a text
that is given is in the editor before it is loaded, the editor is cleared before the name of the mode
is read, the text of a session, and a new run if the mode is another one, are there before the text
is loaded, and the goal of a challenge is there before the clock looks at its time.
-/

namespace Mosaic
namespace Run

theorem with_target_eq_iff (run : Run) (target : Option Grid) (code : Option String) :
    { run with target := target, targetCode := code } = run ↔
      target = run.target ∧ code = run.targetCode := by
  constructor
  · intro hsame
    exact ⟨congrArg Run.target hsame, congrArg Run.targetCode hsame⟩
  · intro hsame
    rcases hsame with ⟨rfl, rfl⟩
    rfl

end Run

namespace Workbench

variable {σ : Type}

/-- Two workbenches that differ in nothing but their source of chance. -/
structure Unchanged (before after : Workbench σ) : Prop where
  settings : after.settings = before.settings
  source : after.source = before.source
  run : after.run = before.run
  challenge : after.challenge = before.challenge

theorem Unchanged.refl (bench : Workbench σ) : Unchanged bench bench := ⟨rfl, rfl, rfl, rfl⟩

theorem unchanged_chance (bench : Workbench σ) (chance : σ) :
    Unchanged bench { bench with chance } := ⟨rfl, rfl, rfl, rfl⟩

theorem unchanged_source_iff (bench : Workbench σ) (source : String) :
    Unchanged bench { bench with source } ↔ source = bench.source :=
  ⟨fun h => h.source, fun h => ⟨rfl, h, rfl, rfl⟩⟩

/-!
## Steps that refuse
-/

section Steps

variable {α β : Type} {bench after : Workbench σ} {fault : Fault}

theorem refused_discard {operation : Operation σ α}
    (h : Operation.on (discard operation) bench = (.error fault, after)) :
    operation.on bench = (.error fault, after) := by
  rw [on_discard] at h
  injection h with hresult hafter
  exact Prod.ext (Attempts.map_eq_error_iff.mp hresult) hafter

theorem refused_changeRun {change : Run -> Except Fault Run}
    (h : (changeRun change).on bench = (.error fault, after)) :
    change bench.run = .error fault ∧ after = bench := by
  rw [on_changeRun] at h
  cases hchange : change bench.run with
  | ok run =>
      rw [hchange] at h
      cases h
  | error other =>
      rw [hchange] at h
      cases h
      exact ⟨rfl, rfl⟩

theorem refused_forbidden {action : String} {next : Unit -> Operation σ α}
    (h : Operation.on (forbidDuringChallenge action >>= next) bench = (.error fault, after)) :
    bench.challenge.active = true ∧ after = bench ∨
      bench.challenge.active = false ∧ (next ()).on bench = (.error fault, after) := by
  cases hactive : bench.challenge.active with
  | true =>
      rw [on_forbidden hactive] at h
      cases h
      exact Or.inl ⟨rfl, rfl⟩
  | false =>
      rw [on_bind_of_ok (on_allowed hactive action)] at h
      exact Or.inr ⟨rfl, h⟩

theorem refused_attempt {result : Except Fault α} {next : α -> Operation σ β}
    (h : Operation.on (attempt result >>= next) bench = (.error fault, after)) :
    result = .error fault ∧ after = bench ∨
      exists value, result = .ok value ∧ (next value).on bench = (.error fault, after) := by
  rcases on_bind_eq_error h with hfirst | ⟨value, between, hvalue, hnext⟩
  · rw [on_attempt] at hfirst
    injection hfirst with hresult hafter
    exact Or.inl ⟨hresult, hafter.symm⟩
  · rw [on_attempt] at hvalue
    injection hvalue with hresult hbetween
    subst hbetween
    exact Or.inr ⟨value, hresult, hnext⟩

end Steps

theorem checkTargetSize_of_fits {goal : Goal} {mode : Mode} (h : goal.Fits mode) :
    checkTargetSize mode goal.grid = .ok () := by
  unfold checkTargetSize
  split
  · rename_i grid rows columns hgrid hmode
    rw [if_pos (h grid (rows, columns) hgrid hmode)]
  · rfl

/-!
## Requests that are refused
-/

section Requests

variable {bench after : Workbench σ} {fault : Fault}

theorem refused_load {source : Option String} {asTarget : Bool}
    (h : (load source asTarget).on bench = (.error fault, after)) :
    after = { bench with source := source.getD bench.source } := by
  rw [on_load] at h
  exact (refused_changeRun h).right

theorem refused_setTarget {target : Document} {code : Option String}
    (h : (setTarget target code).on bench = (.error fault, after)) : after = bench := by
  by_cases hmode : bench.run.mode = .maze
  · rw [on_setTarget_of_maze hmode] at h
    cases h
    rfl
  · rw [on_setTarget hmode] at h
    cases hread : readTarget bench.run.mode target with
    | ok grid =>
        rw [hread] at h
        cases h
    | error other =>
        rw [hread] at h
        cases h
        rfl

theorem refused_saveSession (h : saveSession.on bench = (.error fault, after)) : after = bench := by
  unfold saveSession at h
  rw [on_bind_of_ok (on_get bench)] at h
  split at h
  · cases h
  · cases h
    rfl

theorem refused_restoreSession {text : String}
    (h : (restoreSession text).on bench = (.error fault, after)) :
    (bench.challenge.active = true ∨ Maze.loadSession text = .error fault) ∧ after = bench ∨
      bench.challenge.active = false ∧
        exists code maze, Maze.loadSession text = .ok (code, maze) ∧
          after = { bench with source := code, run := bench.run.forSession maze } := by
  cases hactive : bench.challenge.active with
  | true =>
      unfold restoreSession at h
      rw [on_forbidden hactive] at h
      cases h
      exact Or.inl ⟨Or.inl rfl, rfl⟩
  | false =>
      rw [on_restoreSession hactive] at h
      cases hsession : Maze.loadSession text with
      | error other =>
          rw [hsession] at h
          cases h
          exact Or.inl ⟨Or.inr rfl, rfl⟩
      | ok session =>
          rcases session with ⟨code, maze⟩
          rw [hsession] at h
          simp only at h
          split at h
          · cases h
            exact Or.inr ⟨rfl, code, maze, rfl, rfl⟩
          · cases h

variable [RandomSource σ]

theorem refused_reset {newMaze : Bool} : (reset newMaze).on bench ≠ (.error fault, after) := by
  intro h
  unfold reset at h
  rw [on_bind_of_ok (on_get bench)] at h
  split at h
  · rw [on_bind_of_ok (on_drawing _ bench)] at h
    cases (refused_changeRun h).left
  · cases (refused_changeRun h).left

theorem refused_setMode {mode : Document} (h : (setMode mode).on bench = (.error fault, after)) :
    bench.challenge.active = true ∧ after = bench ∨
      bench.challenge.active = false ∧ after = { bench with source := "" } := by
  unfold setMode at h
  rcases refused_forbidden h with hforbidden | ⟨hactive, h⟩
  · exact Or.inl hforbidden
  rw [on_bind_of_ok (on_setSource "" bench)] at h
  rcases refused_attempt h with ⟨_, hafter⟩ | ⟨mode, _, h⟩
  · exact Or.inr ⟨hactive, hafter⟩
  · rw [on_bind_of_ok (on_drawing _ _), on_bind_of_ok (on_setRun _ _),
      on_bind_of_ok (on_get _)] at h
    cases h

theorem refused_newGoal (h : newGoal.on bench = (.error fault, after)) : Unchanged bench after := by
  unfold newGoal at h
  rcases refused_forbidden h with ⟨_, rfl⟩ | ⟨_, h⟩
  · exact Unchanged.refl after
  rw [on_bind_of_ok (on_get bench), on_bind_of_ok (on_drawing _ bench)] at h
  rcases refused_attempt h with ⟨_, rfl⟩ | ⟨goal, hgoal, h⟩
  · exact unchanged_chance bench _
  · have hfits := Goal.fits_draw bench.run.mode bench.chance goal hgoal
    have happlied := on_applyGoal { bench with chance := (Goal.draw bench.run.mode bench.chance).2 }
      (checkTargetSize_of_fits hfits)
    rw [on_bind_of_ok happlied, on_bind_of_ok (on_get _)] at h
    cases h

/-- A challenge is refused by the clock before or after its goal is put in place, or for want of a
goal. -/
theorem refused_startChallenge {goals : Except Fault Goal × σ}
    (hgoals : Goal.drawChallenge bench.run.mode bench.settings.secondsPerRow
      bench.settings.mazeBudget bench.chance = goals)
    (hfits : forall goal, goals.1 = .ok goal -> goal.Fits bench.run.mode)
    (h : startChallenge.on bench = (.error fault, after)) :
    bench.challenge.checkReady = .error fault ∧ after = bench ∨
      goals.1 = .error fault ∧ after = { bench with chance := goals.2 } ∨
      bench.challenge.checkReady = .ok () ∧ exists goal, goals.1 = .ok goal ∧
        Not (0 < goal.budget.getD 0) ∧
        after = { bench with chance := goals.2, run := bench.run.towards goal } := by
  unfold startChallenge at h
  rw [on_bind_of_ok (on_get bench)] at h
  rcases refused_attempt h with hbusy | ⟨_, hready, h⟩
  · exact Or.inl hbusy
  rw [on_bind_of_ok (on_drawing _ bench), hgoals] at h
  rcases refused_attempt h with hnone | ⟨goal, hgoal, h⟩
  · exact Or.inr (Or.inl hnone)
  have happlied := on_applyGoal { bench with chance := goals.2 }
    (checkTargetSize_of_fits (hfits goal hgoal))
  rw [on_bind_of_ok happlied] at h
  rcases on_bind_eq_error h with hclock | ⟨_, _, _, h⟩
  · rw [on_timing] at hclock
    injection hclock with hrefused hafter
    -- a clock that refuses is put back as it was
    rcases Challenge.start_cases bench.challenge (goal.budget.getD 0) with
      ⟨_, _, hgranted⟩ | ⟨other, hsame⟩
    · rw [hgranted] at hrefused
      cases hrefused
    · rw [hsame] at hafter
      refine Or.inr (Or.inr ⟨hready, goal, hgoal, fun htime => ?_, hafter.symm⟩)
      rw [Challenge.start_of_ready hready htime] at hsame
      cases hsame
  · cases h

end Requests

/-!
## What a refusal spoils
-/

variable [RandomSource σ]

/-- A challenge in PIXEL that would start with a dark screen. -/
structure StartsDark (bench : Workbench σ) : Prop where
  ready : bench.challenge.checkReady = .ok ()
  mode : bench.run.mode = .pixel
  dark : Not (Goal.drawScreen bench.chance).1.1.IsLit

/-- A request that has put something in place by the time it is refused: something else than what was
there before. -/
def Spoils (bench : Workbench σ) : Request -> Prop
  | .load source _ => source.getD bench.source ≠ bench.source
  | .setMode _ => bench.challenge.active = false ∧ bench.source ≠ ""
  | .restoreSession text =>
      bench.challenge.active = false ∧
        exists code maze, Maze.loadSession text = .ok (code, maze) ∧
          Not (code = bench.source ∧ bench.run.mode = .maze)
  | .startChallenge =>
      bench.StartsDark ∧
        Not (some (Goal.drawScreen bench.chance).1.1 = bench.run.target ∧
          some (Goal.drawScreen bench.chance).1.2 = bench.run.targetCode)
  | _ => False

section Spoiling

variable {bench after : Workbench σ} {fault : Fault}

theorem unchanged_setMode_iff {mode : Document}
    (h : (setMode mode).on bench = (.error fault, after)) :
    Unchanged bench after ↔ Not (bench.Spoils (.setMode mode)) := by
  rcases refused_setMode h with ⟨hactive, rfl⟩ | ⟨hactive, rfl⟩
  · simp [Spoils, hactive, Unchanged.refl after]
  · rw [unchanged_source_iff]
    constructor
    · intro hempty hspoils
      exact hspoils.right hempty.symm
    · intro hkept
      exact Decidable.byContradiction fun hgiven => hkept ⟨hactive, fun hempty => hgiven hempty.symm⟩

theorem unchanged_restoreSession_iff {text : String}
    (h : (restoreSession text).on bench = (.error fault, after)) :
    Unchanged bench after ↔ Not (bench.Spoils (.restoreSession text)) := by
  rcases refused_restoreSession h with ⟨hreason, rfl⟩ | ⟨hactive, code, maze, hsession, rfl⟩
  · refine ⟨fun _ hspoils => ?_, fun _ => Unchanged.refl after⟩
    rcases hspoils with ⟨hidle, code, maze, hsession, _⟩
    rcases hreason with hactive | hunread
    · rw [hactive] at hidle
      cases hidle
    · rw [hsession] at hunread
      cases hunread
  · constructor
    · intro hsame hspoils
      rcases hspoils with ⟨_, other, _, hother, hnew⟩
      rw [hsession] at hother
      cases hother
      have hmode := Run.mode_forSession bench.run maze
      have hrun : bench.run.forSession maze = bench.run := hsame.run
      rw [hrun] at hmode
      exact hnew ⟨hsame.source, hmode⟩
    · intro hkept
      have hsame : code = bench.source ∧ bench.run.mode = .maze :=
        Decidable.byContradiction fun hnew => hkept ⟨hactive, code, maze, hsession, hnew⟩
      exact ⟨rfl, hsame.left, if_pos hsame.right, rfl⟩

theorem unchanged_startChallenge_iff (hsettings : bench.settings.checked = .ok bench.settings)
    (h : startChallenge.on bench = (.error fault, after)) :
    Unchanged bench after ↔ Not (bench.Spoils .startChallenge) := by
  rcases time_of_checked hsettings with ⟨hpace, hmaze⟩
  have hchallenges := Goal.challenges_drawChallenge bench.run.mode hpace hmaze bench.chance
  have hscreen := Goal.drawChallenge_pixel bench.settings.secondsPerRow bench.settings.mazeBudget
    bench.chance
  rcases refused_startChallenge rfl (fun goal hgoal => (hchallenges goal hgoal).fits) h with
    ⟨hbusy, rfl⟩ | ⟨hnone, rfl⟩ | ⟨hready, goal, hgoal, htime, rfl⟩
  · refine ⟨fun _ hspoils => ?_, fun _ => Unchanged.refl after⟩
    rw [hspoils.left.ready] at hbusy
    cases hbusy
  · refine ⟨fun _ hspoils => ?_, fun _ => unchanged_chance bench _⟩
    rw [hspoils.left.mode, hscreen] at hnone
    cases hnone
  · -- the clock was ready, so it misses the time, and only a dark screen gives none
    have hdark : Not goal.Shows := fun hshows => htime ((hchallenges goal hgoal).time.mpr hshows)
    have hmode : bench.run.mode = .pixel :=
      Decidable.byContradiction fun hother => hdark ((hchallenges goal hgoal).shows hother)
    rw [hmode, hscreen] at hgoal
    cases hgoal
    have hstarts : bench.StartsDark :=
      ⟨hready, hmode, fun hlit => hdark ((Goal.shows_iff_of_grid rfl).mpr hlit)⟩
    have hrun := Run.with_target_eq_iff bench.run (some (Goal.drawScreen bench.chance).1.1)
      (some (Goal.drawScreen bench.chance).1.2)
    constructor
    · intro hsame hspoils
      exact hspoils.right (hrun.mp hsame.run)
    · intro hkept
      refine ⟨rfl, rfl, hrun.mpr ?_, rfl⟩
      exact Classical.byContradiction fun hother => hkept ⟨hstarts, hother⟩

end Spoiling

/-- A request that is refused leaves everything but the source of chance as it is, exactly if it does
not put anything in place before it is refused. -/
theorem unchanged_iff_of_refused {bench after : Workbench σ} {request : Request} {fault : Fault}
    (hbench : bench.Reachable) (h : request.operation.on bench = (.error fault, after)) :
    Unchanged bench after ↔ Not (bench.Spoils request) := by
  have hkept : forall {other : Workbench σ}, other = bench ->
      (Unchanged bench other ↔ Not False) := by
    intro other hother
    subst hother
    exact ⟨fun _ => id, fun _ => Unchanged.refl other⟩
  unfold Request.operation at h
  cases request with
  | load source asTarget =>
      rw [refused_load (refused_discard h)]
      exact (unchanged_source_iff bench _).trans Decidable.not_not.symm
  | step => exact hkept (refused_changeRun (refused_discard h)).right
  | resume => exact hkept (refused_changeRun (refused_discard h)).right
  | stop => exact hkept (refused_changeRun (refused_discard h)).right
  | reset newMaze => exact absurd (refused_discard h) refused_reset
  | runToHalt maxSteps => exact hkept (refused_changeRun (refused_discard h)).right
  | setMode mode => exact unchanged_setMode_iff (refused_discard h)
  | setSource source => cases h
  | setTarget target code => exact hkept (refused_setTarget (refused_discard h))
  | newGoal => exact ⟨fun _ => id, fun _ => refused_newGoal (refused_discard h)⟩
  | startChallenge => exact unchanged_startChallenge_iff hbench.checked (refused_discard h)
  | stopChallenge => cases h
  | tick => cases h
  | saveSession => exact hkept (refused_saveSession (refused_discard h))
  | restoreSession text => exact unchanged_restoreSession_iff (refused_discard h)
  | score => cases h
  | report => cases h

theorem exists_unknown_mode : exists fault, Mode.ofDocument (.text "LOGO") = .error fault := ⟨_, rfl⟩

theorem setMode_unknown {bench : Workbench σ} {mode : Document} {fault : Fault}
    (hidle : bench.challenge.active = false) (hmode : Mode.ofDocument mode = .error fault) :
    (Request.setMode mode).operation.on bench = (.error fault, { bench with source := "" }) := by
  unfold Request.operation setMode
  rw [on_discard, on_bind_of_ok (on_allowed hidle _), on_bind_of_ok (on_setSource "" bench), hmode,
    on_bind_of_error (on_attempt _ _)]
  rfl

def twoStrips : List Primitive := [.strip 1 .red 0 0, .strip 1 .blue 0 1]

theorem exists_painted : exists bench : Workbench Twister, bench.Reachable ∧
    bench.source = "1#2\n1 R 0 0\n1 B 0 1" ∧ bench.run.counter = 3 ∧
    bench.run.grid = some [[some .red, some .blue]] ∧ bench.challenge.active = false := by
  have htext : Program.tableText 1 2 twoStrips = "1#2\n1 R 0 0\n1 B 0 1" := by decide
  have hprogram : Program.load .table (Program.tableText 1 2 twoStrips) =
      .ok (Program.tableProgram .table 1 2 twoStrips) := by
    refine Program.load_tableText rfl ⟨by decide, by decide, by decide, by decide⟩ ?_
    unfold twoStrips
    rw [List.forall_mem_cons, List.forall_mem_singleton]
    exact ⟨⟨Program.isWritable_strip (Or.inl rfl) (by decide) (by decide) (by decide), rfl⟩,
      ⟨Program.isWritable_strip (Or.inr (Or.inr rfl)) (by decide) (by decide) (by decide), rfl⟩⟩
  have hhalt : exists halted : Run,
      ((Run.start .table none).withProgram (Program.tableProgram .table 1 2 twoStrips)).runToHalt 9 =
        .ok halted ∧ halted.counter = 3 ∧ halted.grid = some [[some .red, some .blue]] :=
    ⟨_, rfl, rfl, rfl⟩
  rw [htext] at hprogram
  rcases hhalt with ⟨halted, hhalt, hcounter, hgrid⟩
  rcases exists_idleTable with ⟨bench, hbench, _, hrun, hidle⟩
  have hload := Run.load_of_program (show Program.load bench.run.mode _ = _ by rw [hrun]; exact hprogram)
  rw [← hrun] at hhalt
  refine ⟨_, .performed (.runToHalt 9) (.performed (.load (some "1#2\n1 R 0 0\n1 B 0 1") false)
    hbench), ?_⟩
  rw [perform_load hload, perform_runToHalt hhalt]
  exact ⟨rfl, hcounter, hgrid, hidle⟩

/-- With a program that has run in place, a session that cannot be read is refused and changes
nothing, and a mode that there is not is refused and clears the editor. -/
theorem unchanged_iff_of_refused_painted :
    exists (bench kept spoiled : Workbench Twister) (unread unknown : Fault), bench.Reachable ∧
      bench.source = "1#2\n1 R 0 0\n1 B 0 1" ∧ bench.run.counter = 3 ∧
      (Request.restoreSession "\x7b").operation.on bench = (.error unread, kept) ∧
      Unchanged bench kept ∧
      (Request.setMode (.text "LOGO")).operation.on bench = (.error unknown, spoiled) ∧
      Not (Unchanged bench spoiled) := by
  have hsession : exists fault, Maze.loadSession "\x7b" = .error fault := ⟨_, rfl⟩
  rcases exists_painted with ⟨bench, hbench, hsource, hcounter, _, hidle⟩
  rcases hsession with ⟨unread, hsession⟩
  rcases exists_unknown_mode with ⟨unknown, hmode⟩
  have hread : (Request.restoreSession "\x7b").operation.on bench = (.error unread, bench) := by
    unfold Request.operation
    simp only
    rw [on_discard, on_restoreSession hidle, hsession]
    rfl
  have hset := setMode_unknown hidle hmode
  have hkeeps : Not (bench.Spoils (.restoreSession "\x7b")) := by
    rintro ⟨_, code, maze, hloaded, _⟩
    cases hsession.symm.trans hloaded
  have hspoils : bench.Spoils (.setMode (.text "LOGO")) := by
    refine ⟨hidle, ?_⟩
    rw [hsource]
    decide
  exact ⟨bench, _, _, unread, unknown, hbench, hsource, hcounter, hread,
    (unchanged_iff_of_refused hbench hread).mpr hkeeps, hset,
    fun hsame => (unchanged_iff_of_refused hbench hset).mp hsame hspoils⟩

/-- A mode that there is not is refused, and the text in the editor is gone. -/
theorem not_unchanged_of_refused :
    exists (bench after : Workbench Twister) (fault : Fault), bench.Reachable ∧
      (Request.setMode (.text "LOGO")).operation.on bench = (.error fault, after) ∧
      Not (Unchanged bench after) := by
  rcases exists_idleTable with ⟨bench, hbench, _, _, hidle⟩
  rcases exists_unknown_mode with ⟨fault, hmode⟩
  have hidle : ((Request.setSource "1#1").perform bench).challenge.active = false := hidle
  refine ⟨(Request.setSource "1#1").perform bench, _, fault, .performed _ hbench,
    setMode_unknown hidle hmode, fun hsame => ?_⟩
  have hsource : "" = "1#1" := hsame.source
  revert hsource
  decide

end Workbench
end Mosaic
