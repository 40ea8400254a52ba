import Mosaic.Proofs.Run.Refinement
import Mosaic.Proofs.Run.Sturdy
import Mosaic.Random.Twister

/-!
# Steps that return

A step of a sturdy run gives a run, with one exception: a strip of GRID that misses the table at a
row or column too long to be written.  Where a command has a problem of its own, the run that is
given tells it.
-/

namespace Mosaic
namespace Run

/-- A run whose next command, behind the declarations at the counter, misses the table at a row or
column that cannot be written. -/
def Stumbling (run : Run) : Prop :=
  run.isHalted = false ∧ exists ready first rest,
    run.passDeclarations (run.commands.drop run.counter) = .ok ready ∧
    (run.commands.drop run.counter).dropWhile (fun command => command.action.isDeclaration) =
      first :: rest ∧
    ready.CannotName first.action

/-!
## The parts of a step
-/

theorem runBatch_eq_error {run : Run} {batch : List Command} {fault : Fault}
    (h : run.runBatch batch = .error fault) :
    exists before command after reached, batch = before ++ command :: after ∧
      run.runBatch before = .ok reached ∧ (reached.applyCommand command).fault = some fault ∧
      forall problem, fault ≠ .program problem := by
  induction batch generalizing run with
  | nil => cases h
  | cons command rest ih =>
      rw [runBatch] at h
      simp only at h
      split at h
      · cases h
      · rename_i hother hfault
        cases h
        exact ⟨[], command, rest, run, rfl, rfl, hfault, hother⟩
      · rename_i hnone
        split at h
        · cases h
        · rename_i hgoing
          rcases ih h with ⟨before, failing, after, reached, happend, hbefore, hfault⟩
          refine ⟨command :: before, failing, after, reached, by rw [happend, List.cons_append],
            ?_, hfault⟩
          rw [runBatch]
          simp only [hnone, if_neg hgoing]
          exact hbefore

theorem Sturdy.passDeclarations_isOk {run : Run} (h : run.Sturdy) (hgoing : run.isHalted = false)
    {commands : List Command} (hown : forall command, command ∈ commands -> command ∈ run.commands) :
    exists ready, run.passDeclarations commands = .ok ready := by
  induction commands generalizing run with
  | nil => exact ⟨run, rfl⟩
  | cons command rest ih =>
      have hcommand := hown command (by simp)
      have hsame := (frame_applyCommand run command).commands
      rw [Run.passDeclarations]
      split
      · rename_i hdeclaration
        have hnone : (run.applyCommand command).fault = none := by
          rcases command with ⟨line, action⟩
          cases action with
          | declare rows columns =>
              show (run.declared rows columns).fault = none
              rw [h.loaded.declared hcommand]
              rfl
          | _ => cases hdeclaration
        simp only [hnone]
        have hnext := enduring_sturdy.counted ((run.applyCommand command).run.counter + 1)
          (enduring_sturdy.command hcommand hgoing h)
        exact ih hnext (isHalted_declaration hgoing hdeclaration)
          fun other hother => hsame.symm ▸ hown other (by simp [hother])
      · exact ⟨run, rfl⟩

theorem Sturdy.separate {run : Run} (h : run.Sturdy) (hmode : run.mode = .grid) {first : Command}
    {rest : List Command} (hahead : List.Sublist (first :: rest) run.commands) :
    (rest.takeWhile fun command => command.line == first.line) = [] := by
  rcases h.loaded with ⟨program, hprogram, hcommands⟩
  have hapart := (Program.load_wellFormed hprogram).separate (by
    rw [(Program.load_eq_ok hprogram).left, hmode]
    decide)
  rw [← hcommands] at hapart
  have hlater := (List.pairwise_cons.mp (hapart.sublist hahead)).left
  cases rest with
  | nil => rfl
  | cons second others =>
      have hbelow := hlater second (by simp)
      rw [List.takeWhile_cons_of_neg]
      rw [beq_iff_eq]
      omega

theorem cannotName_enterLine (run : Run) (line : Int) (action : Primitive) :
    (run.enterLine line).CannotName action ↔ run.CannotName action := Iff.rfl

theorem mode_of_cannotName {run : Run} {action : Primitive} (hallowed : run.mode.Allows action)
    (h : run.CannotName action) : run.mode = .grid := by
  cases action with
  | shifted count color dx dy => exact hallowed.left
  | _ => exact absurd h id

/-!
## Steps
-/

theorem sublist_ahead {run : Run} {first : Command} {rest : List Command}
    (h : (run.commands.drop run.counter).dropWhile (fun command => command.action.isDeclaration) =
      first :: rest) : List.Sublist (first :: rest) run.commands := by
  rw [← h]
  exact (List.dropWhile_sublist _).trans (List.drop_sublist _ _)

structure IsReady (run ready : Run) : Prop where
  sturdy : ready.Sturdy
  going : ready.isHalted = false
  commands : ready.commands = run.commands
  mode : ready.mode = run.mode

theorem Sturdy.isReady {run ready : Run} (h : run.Sturdy) (hgoing : run.isHalted = false)
    (hready : run.passDeclarations (run.commands.drop run.counter) = .ok ready) :
    IsReady run ready := by
  have hown : forall command, command ∈ run.commands.drop run.counter -> command ∈ run.commands :=
    fun command hcommand => List.mem_of_mem_drop hcommand
  rcases enduring_sturdy.passDeclarations hown h hgoing hready with ⟨hsturdy, hstill, hcommands⟩
  have hgoal := (steady_sameGoal run).enduring.passDeclarations hown (SameGoal.refl run) hgoing hready
  exact ⟨hsturdy, hstill, hcommands, hgoal.left.mode⟩

theorem Sturdy.mode_of_stumbling {run : Run} (h : run.Sturdy) (hstumbling : run.Stumbling) :
    run.mode = .grid := by
  rcases hstumbling with ⟨hgoing, ready, first, rest, hready, hahead, hname⟩
  have hpassed := h.isReady hgoing hready
  have hfirst : first ∈ ready.commands := by
    rw [hpassed.commands]
    exact (sublist_ahead hahead).mem (by simp)
  rw [← hpassed.mode]
  exact mode_of_cannotName (hpassed.sturdy.allowed hfirst) hname

theorem steady_commands (first : Run) : Steady fun run => run.commands = first.commands where
  command command _ h := (frame_applyCommand _ command).commands.trans h
  counted _ h := h
  entered _ h := h
  flagged _ h := h
  failed _ h := h
  finished h := h

/-- The commands of the next line have no fault but at a place that cannot be named. -/
theorem Sturdy.fault_of_runBatch {run : Run} (h : run.Sturdy) (hgoing : run.isHalted = false)
    {first : Command} {rest : List Command} (hahead : List.Sublist (first :: rest) run.commands)
    {fault : Fault}
    (hfault : run.runBatch (first :: rest.takeWhile fun command => command.line == first.line) =
      .error fault) : fault = .numeral .tooLarge ∧ run.CannotName first.action := by
  have hown : forall command,
      command ∈ first :: rest.takeWhile (fun command => command.line == first.line) ->
        command ∈ run.commands := fun command hcommand =>
    (((List.takeWhile_sublist _).cons_cons first).trans hahead).mem hcommand
  rcases runBatch_eq_error hfault with
    ⟨before, command, after, reached, hbatch, hbefore, hcommand, hother⟩
  have hfront : forall other, other ∈ before -> other ∈ run.commands := by
    intro other hmem
    apply hown
    rw [hbatch]
    exact List.mem_append_left _ hmem
  have hreached := enduring_sturdy.runBatch hfront h hgoing hbefore
  have hgoal := (steady_sameGoal run).enduring.runBatch hfront (SameGoal.refl run) hgoing hbefore
  have hcommands : reached.commands = run.commands :=
    (steady_commands run).enduring.runBatch hfront rfl hgoing hbefore
  have hmem : command ∈ reached.commands := by
    rw [hcommands]
    apply hown
    rw [hbatch]
    simp
  rcases (hreached.behaves hmem).fault fault hcommand with ⟨problem, hproblem⟩ | ⟨hlong, hname⟩
  · exact absurd hproblem (hother problem)
  · -- in GRID the line has no other command, so nothing has been carried out in front of this one
    have hmode : run.mode = .grid := by
      rw [← hgoal.mode]
      exact mode_of_cannotName (hreached.allowed hmem) hname
    rw [h.separate hmode hahead] at hbatch
    cases before with
    | nil =>
        cases hbatch
        cases hbefore
        exact ⟨hlong, hname⟩
    | cons other others => cases others with
      | nil => cases hbatch
      | cons => cases hbatch

theorem step_of_declarations {run ready : Run} (hgoing : run.isHalted = false)
    (hready : run.passDeclarations (run.commands.drop run.counter) = .ok ready)
    (hahead : (run.commands.drop run.counter).dropWhile
      (fun command => command.action.isDeclaration) = []) : run.step = .ok ready.finished := by
  rw [step, hgoing]
  simp only [Bool.false_eq_true, if_false, hready, hahead]
  rfl

theorem step_of_line {run ready : Run} {first : Command} {rest : List Command}
    (hgoing : run.isHalted = false)
    (hready : run.passDeclarations (run.commands.drop run.counter) = .ok ready)
    (hahead : (run.commands.drop run.counter).dropWhile
      (fun command => command.action.isDeclaration) = first :: rest) :
    run.step =
      (ready.enterLine first.line).runBatch
        (first :: rest.takeWhile fun command => command.line == first.line) >>= fun after =>
          .ok (if !after.isHalted && after.isFinished then after.finished else after) := by
  rw [step, hgoing]
  simp only [Bool.false_eq_true, if_false, hready, hahead, take_batchLength]
  rfl

theorem Sturdy.step_eq_error_iff {run : Run} (h : run.Sturdy) (fault : Fault) :
    run.step = .error fault ↔ fault = .numeral .tooLarge ∧ run.Stumbling := by
  constructor
  · intro hfault
    cases hgoing : run.isHalted with
    | true =>
        rw [step, hgoing] at hfault
        cases hfault
    | false =>
        rcases h.passDeclarations_isOk hgoing fun command hcommand => List.mem_of_mem_drop hcommand
          with ⟨ready, hready⟩
        have hpassed := h.isReady hgoing hready
        cases hahead : (run.commands.drop run.counter).dropWhile
            (fun command => command.action.isDeclaration) with
        | nil =>
            rw [step_of_declarations hgoing hready hahead] at hfault
            cases hfault
        | cons first rest =>
            have hsublist : List.Sublist (first :: rest) ready.commands := by
              rw [hpassed.commands]
              exact sublist_ahead hahead
            have hentered : (ready.enterLine first.line).Sturdy :=
              enduring_sturdy.entered first.line hpassed.sturdy
            rw [step_of_line hgoing hready hahead] at hfault
            rcases Attempts.bind_eq_error_iff.mp hfault with hbatch | ⟨_, _, hnone⟩
            · rcases hentered.fault_of_runBatch hpassed.going hsublist hbatch with ⟨hlong, hname⟩
              exact ⟨hlong, hgoing, ready, first, rest, hready, hahead, hname⟩
            · cases hnone
  · intro hgiven
    rcases hgiven with ⟨rfl, hgoing, ready, first, rest, hready, hahead, hname⟩
    have hfails := fault_of_cannotName
      ((cannotName_enterLine ready first.line first.action).mpr hname) first.line
    rw [step_of_line hgoing hready hahead]
    apply Attempts.bind_eq_error_iff.mpr
    left
    rw [runBatch]
    unfold applyCommand
    simp only [hfails]

/-!
## Runs of many steps
-/

/-- A run that stumbles on one of so many next steps. -/
def StumblesWithin (run : Run) (steps : Nat) : Prop :=
  exists taken reached, taken < steps ∧ stepWhileRunning taken run = .ok reached ∧
    reached.isRunning = true ∧ reached.Stumbling

theorem Sturdy.mode_of_stumblesWithin {run : Run} (h : run.Sturdy) {steps : Nat}
    (hstumbles : run.StumblesWithin steps) : run.mode = .grid := by
  rcases hstumbles with ⟨taken, reached, _, hreached, _, hends⟩
  have hgoal := (steady_sameGoal run).enduring.stepWhileRunning (SameGoal.refl run) hreached
  rw [← hgoal.mode]
  exact (enduring_sturdy.stepWhileRunning h hreached).mode_of_stumbling hends

theorem Sturdy.stepWhileRunning_eq_error_iff {run : Run} (h : run.Sturdy) (steps : Nat)
    (fault : Fault) :
    stepWhileRunning steps run = .error fault ↔
      fault = .numeral .tooLarge ∧ run.StumblesWithin steps := by
  induction steps generalizing run with
  | zero =>
      constructor
      · intro hfault
        cases hfault
      · intro hgiven
        rcases hgiven with ⟨_, taken, _, hbelow, _⟩
        cases hbelow
  | succ steps ih =>
      rw [stepWhileRunning]
      cases hrunning : run.isRunning with
      | false =>
          constructor
          · intro hfault
            cases hfault
          · intro hgiven
            rcases hgiven with ⟨_, taken, reached, _, hreached, hstill, _⟩
            have hsame : stepWhileRunning taken run = .ok run := by
              cases taken with
              | zero => rfl
              | succ taken =>
                  rw [stepWhileRunning, hrunning]
                  rfl
            rw [hsame] at hreached
            cases hreached
            rw [hrunning] at hstill
            cases hstill
      | true =>
          simp only [if_true]
          rw [Attempts.bind_eq_error_iff]
          constructor
          · intro hfault
            rcases hfault with hnow | ⟨next, hnext, hlater⟩
            · rcases (h.step_eq_error_iff fault).mp hnow with ⟨hlong, hstumbling⟩
              exact ⟨hlong, 0, run, Nat.succ_pos steps, rfl, hrunning, hstumbling⟩
            · rcases (ih (enduring_sturdy.step h hnext)).mp hlater with
                ⟨hlong, taken, reached, hbelow, hreached, hends⟩
              refine ⟨hlong, taken + 1, reached, Nat.succ_lt_succ hbelow, ?_, hends⟩
              rw [stepWhileRunning, if_pos hrunning, hnext]
              exact hreached
          · intro hgiven
            rcases hgiven with ⟨hlong, taken, reached, hbelow, hreached, hends⟩
            cases taken with
            | zero =>
                cases hreached
                exact Or.inl ((h.step_eq_error_iff fault).mpr ⟨hlong, hends.right⟩)
            | succ taken =>
                rw [stepWhileRunning, if_pos hrunning] at hreached
                rcases Attempts.bind_eq_ok_iff.mp hreached with ⟨next, hnext, hlater⟩
                refine Or.inr ⟨next, hnext, (ih (enduring_sturdy.step h hnext)).mpr ?_⟩
                exact ⟨hlong, taken, reached, Nat.lt_of_succ_lt_succ hbelow, hlater, hends⟩

theorem Sturdy.runToHalt_eq_error_iff {run : Run} (h : run.Sturdy) {maxSteps : Int}
    (hsteps : 0 < maxSteps) (fault : Fault) :
    run.runToHalt maxSteps = .error fault ↔
      fault = .numeral .tooLarge ∧ run.mode = .grid ∧ run.resumed.StumblesWithin maxSteps.toNat := by
  have hresumed : run.resumed.Sturdy := enduring_sturdy.flagged _ h
  unfold runToHalt
  rw [if_neg (Int.not_le.mpr hsteps), Attempts.bind_eq_error_iff,
    hresumed.stepWhileRunning_eq_error_iff]
  constructor
  · intro hfault
    rcases hfault with ⟨hlong, hstumbles⟩ | ⟨_, _, hnone⟩
    · exact ⟨hlong, hresumed.mode_of_stumblesWithin hstumbles, hstumbles⟩
    · cases hnone
  · intro hgiven
    exact Or.inl ⟨hgiven.left, hgiven.right.right⟩

/-!
## Problems of the program
-/

/-- What may be told of a problem: nothing new, or that the run has failed, and where. -/
def Tells (before after : Run) : Prop :=
  after.error = before.error ∧ (after.outcome = .failure -> before.outcome = .failure) ∨
    after.outcome = .failure ∧ exists problem, after.error = some problem

theorem enduring_tells (first : Run) : Enduring (Tells first) where
  command {run} {command} _ hgoing h := by
    rcases isHalted_eq_false.mp hgoing with ⟨_, hidle⟩
    rcases h with hquiet | hfailed
    · left
      constructor
      · exact (frame_applyCommand run command).error.trans hquiet.left
      · intro hfailure
        rcases goes_applyCommand run command with hsame | hleft
        · rw [hsame.left] at hfailure
          exact hquiet.right hfailure
        · rw [hleft.left] at hfailure
          cases hfailure
    · rw [hidle] at hfailed
      cases hfailed.left
  counted _ h := h
  entered _ h := h
  flagged _ h := h
  failed problem _ := Or.inr ⟨rfl, problem, rfl⟩
  finished {run} hgoing h := by
    rcases isHalted_eq_false.mp hgoing with ⟨_, hidle⟩
    rcases h with hquiet | hfailed
    · left
      constructor
      · exact hquiet.left
      · intro hfailure
        unfold finished at hfailure
        simp only at hfailure
        split at hfailure
        · cases hfailure
        · rw [hidle] at hfailure
          cases hfailure
    · rw [hidle] at hfailed
      cases hfailed.left

theorem Tells.refl (run : Run) : Tells run run := Or.inl ⟨rfl, id⟩

theorem steady_told : Steady fun run => run.outcome = .failure -> run.error.isSome = true where
  command {run} command hgoing h := by
    intro hfailure
    rw [(frame_applyCommand run command).error]
    rcases goes_applyCommand run command with hsame | hleft
    · rw [hsame.left] at hfailure
      exact h hfailure
    · rw [hleft.left] at hfailure
      cases hfailure
  counted _ h := h
  entered _ h := h
  flagged _ h := h
  failed _ _ := fun _ => rfl
  finished {run} h := by
    intro hfailure
    unfold finished at hfailure
    simp only at hfailure
    split at hfailure
    · cases hfailure
    · exact h hfailure

theorem Course.told {mode : Mode} {maze : Option Maze} {run : Run}
    (h : Course GivenMazes (Run.start mode maze) run) (hfailure : run.outcome = .failure) :
    run.error.isSome = true := by
  refine h.steady steady_told nofun ?_ (fun _ _ _ _ => nofun) hfailure
  intro before after source asTarget _ hbefore hload
  rcases load_cases hload with ⟨problem, _, rfl⟩ | ⟨program, _, rfl | ⟨_, target, rfl⟩⟩
  · exact fun _ => rfl
  · nofun
  · nofun

/-!
## What can be asked next
-/

/-- What stepping, carrying on and rewinding give: a run, unless the run stumbles on the way, with
the size it should have, and with the problem that there is. -/
structure Answers (run : Run) : Prop where
  step : forall fault, run.step = .error fault ↔
    fault = .numeral .tooLarge ∧ run.mode = .grid ∧ run.Stumbling
  halt : forall (maxSteps : Int) (fault : Fault), 0 < maxSteps ->
    (run.runToHalt maxSteps = .error fault ↔
      fault = .numeral .tooLarge ∧ run.mode = .grid ∧ run.resumed.StumblesWithin maxSteps.toNat)
  size : forall rows columns : Nat, run.declaredSize = some (rows, columns) ->
    Grid.create rows columns = .ok (Grid.blank rows columns)
  stepped : forall after, run.step = .ok after -> Tells run after
  halted : forall (maxSteps : Int) (after : Run), run.runToHalt maxSteps = .ok after ->
    Tells run after
  told : run.outcome = .failure -> run.error.isSome = true

/-- Whatever has been done with a run in mazes that were generated or read, the next step, the next
row of steps and the next rewinding give a run.  Only a strip of GRID that misses the table at a
place that cannot be written keeps them from it. -/
theorem course_answers {mode : Mode} {maze : Option Maze} {run : Run}
    (hmaze : forall given, maze = some given -> given.Given)
    (h : Course GivenMazes (start mode maze) run) : run.Answers := by
  have hsturdy := h.sturdy hmaze
  constructor
  · intro fault
    rw [hsturdy.step_eq_error_iff]
    constructor
    · intro hgiven
      exact ⟨hgiven.left, hsturdy.mode_of_stumbling hgiven.right, hgiven.right⟩
    · intro hgiven
      exact ⟨hgiven.left, hgiven.right.right⟩
  · intro maxSteps fault hsteps
    exact hsturdy.runToHalt_eq_error_iff hsteps fault
  · intro rows columns hsize
    have hpositive := hsturdy.loaded.positive hsize
    exact Grid.create_eq_ok hpositive.left hpositive.right
  · intro after hafter
    exact (enduring_tells run).step (Tells.refl run) hafter
  · intro maxSteps after hafter
    exact (enduring_tells run).runToHalt (Tells.refl run) hafter
  · exact h.told

/-- A turn in a generated maze: the step gives a run. -/
theorem course_answers_turn :
    exists (origin : Maze) (loaded turned : Run),
      (Maze.generate 2 4 (Twister.ofSeed 7)).1 = .ok origin ∧
        (start .maze (some origin)).load "ruota 1" false = .ok loaded ∧
        loaded.Answers ∧ loaded.step = .ok turned := by
  rcases @Maze.always_generate Twister _ 2 4 (by decide) (by decide) (by decide)
    (Twister.ofSeed 7) with ⟨origin, horigin, _⟩
  have hload : exists loaded, (start .maze (some origin)).load "ruota 1" false = .ok loaded ∧
    loaded.mode = .maze := ⟨_, rfl, rfl⟩
  rcases hload with ⟨loaded, hload, hmode⟩
  have hcourse : Course GivenMazes (start .maze (some origin)) loaded :=
    Course.start.event (.load "ruota 1" false) nofun hload
  have hanswers := course_answers (fun given hgiven => by
    cases hgiven
    exact .generated horigin) hcourse
  cases hstep : loaded.step with
  | ok turned => exact ⟨origin, loaded, turned, horigin, hload, hanswers, hstep⟩
  | error fault =>
      have hgrid := ((hanswers.step fault).mp hstep).right.left
      rw [hmode] at hgrid
      cases hgrid

theorem stumbling_farStrip {run : Run} (hmode : run.mode = .grid) (source : String)
    (running : Bool) {far : Nat} (hlong : Not (Text.IsWritable (1 + far)))
    (hbelow : Not (Within (1 + far) 2)) :
    exists painted, Run.step { run.withProgram ⟨.grid, source,
        [⟨0, .declare 2 1⟩, ⟨1, .shifted 1 .red 0 1⟩, ⟨2, .shifted 1 .red 0 far⟩], some (2, 1)⟩
          with isRunning := running } = .ok painted ∧
      painted.isRunning = running ∧ painted.Stumbling := by
  rcases run with ⟨mode⟩
  cases hmode
  refine ⟨_, rfl, rfl, rfl, _, _, _, rfl, rfl, ?_⟩
  exact ⟨_, _, rfl, Or.inl ⟨hbelow, hlong⟩⟩

/-- A program that has been loaded and stepped through up to its last line has no next step. -/
theorem not_course_answers :
    exists run, Course GivenMazes (start .grid none) run ∧
      forall after, run.step ≠ .ok after := by
  rcases (⟨4299, rfl⟩ : exists n, n + 1 = Text.digitLimit) with ⟨n, hlimit⟩
  rcases not_isWritable_farRow hlimit with ⟨hlong, hbelow⟩
  have hprogram : Program.load (start .grid none).mode (farStrip (n + 1)) = _ :=
    load_farStrip (Nat.le_of_eq hlimit)
  rcases @stumbling_farStrip (start .grid none) rfl (farStrip (n + 1)) false _ hlong hbelow with
    ⟨painted, hstep, _, hstumbling⟩
  have hcourse : Course GivenMazes (start .grid none) painted :=
    (Course.start.event (.load (farStrip (n + 1)) false) nofun (load_of_program hprogram)).event
      .step nofun hstep
  have hsturdy := hcourse.sturdy fun given hgiven => by cases hgiven
  have hfault := (hsturdy.step_eq_error_iff (.numeral .tooLarge)).mpr ⟨rfl, hstumbling⟩
  refine ⟨painted, hcourse, ?_⟩
  intro after hafter
  rw [hfault] at hafter
  cases hafter

end Run
end Mosaic
