import Mosaic.Proofs.Run.Refinement
import Mosaic.Proofs.Run.Replaying

/-!
# Replays against runs

A replay leaves out the commands that fail where it comes to them.  The commands it keeps make up a
program of their own.  That program runs without a problem and draws what the replay draws.
-/

namespace Mosaic
namespace Run

/-!
## Commands that are kept
-/

/-- The commands that do not fail where a replay comes to them. -/
def kept (run : Run) : List Command -> List Command
  | [] => []
  | command :: rest =>
      match run.replayCommand command with
      | .error _ => []
      | .ok next =>
          if ((run.enterLineOf command).applyCommand command).fault = none then
            command :: next.kept rest
          else next.kept rest

theorem replayCommand_of_none {run : Run} {command : Command}
    (h : ((run.enterLineOf command).applyCommand command).fault = none) :
    run.replayCommand command = .ok ((run.enterLineOf command).applyCommand command).run := by
  unfold replayCommand
  simp only [h]

theorem replayCommand_cases {run next : Run} {command : Command}
    (h : run.replayCommand command = .ok next) :
    ((run.enterLineOf command).applyCommand command).fault = none ∧
        next = ((run.enterLineOf command).applyCommand command).run ∨
      ((run.enterLineOf command).applyCommand command).fault ≠ none ∧
        next.sketch = (run.enterLineOf command).sketch := by
  unfold replayCommand at h
  simp only at h
  split at h
  · rename_i hnone
    cases h
    exact Or.inl ⟨hnone, rfl⟩
  · rename_i hsome
    cases h
    exact Or.inr ⟨by simp [hsome], rfl⟩
  · cases h

theorem kept_cons_of_none {run : Run} {command : Command} (rest : List Command)
    (h : ((run.enterLineOf command).applyCommand command).fault = none) :
    run.kept (command :: rest) =
      command :: ((run.enterLineOf command).applyCommand command).run.kept rest := by
  rw [kept, replayCommand_of_none h]
  simp only [h, if_true]

theorem kept_cons_of_ne_none {run next : Run} {command : Command} (rest : List Command)
    (hnext : run.replayCommand command = .ok next)
    (h : ((run.enterLineOf command).applyCommand command).fault ≠ none) :
    run.kept (command :: rest) = next.kept rest := by
  rw [kept, hnext]
  simp only [if_neg h]

theorem kept_sublist (run : Run) (commands : List Command) :
    (run.kept commands).Sublist commands := by
  induction commands generalizing run with
  | nil => exact List.Sublist.refl []
  | cons command rest ih =>
      rw [kept]
      split
      · exact List.nil_sublist _
      · rename_i next _
        split
        · exact (ih next).cons_cons command
        · exact (ih next).cons command

/-!
## Beside a replay
-/

/-- A replay and a run that carries out what the replay keeps: they have one picture.  The line that
was entered last may differ, but not in PIXEL, where no command fails on a screen. -/
structure Beside (replayed carried : Run) : Prop where
  sketch : replayed.sketch = carried.sketch
  mode : replayed.mode = carried.mode
  painting : replayed.mode ≠ .maze
  line : replayed.mode = .pixel -> replayed.line = carried.line
  screen : replayed.mode = .pixel -> replayed.grid ≠ none
  idle : carried.outcome = .idle

theorem paints_of_allows {mode : Mode} {command : Command} (h : mode.Allows command.action)
    (hmode : mode ≠ .maze) : Paints fun run => run.applyCommand command := by
  rcases paints_or_steers command.line command.action with hpaints | ⟨quarters, hsteers⟩ |
    ⟨steps, hsteers⟩
  · exact hpaints
  · rw [hsteers] at h
    exact absurd h.left hmode
  · rw [hsteers] at h
    exact absurd h hmode

theorem outcome_of_paints {action : Run -> Carried} (h : Paints action) (run : Run) :
    (action run).run.outcome = run.outcome := by
  rw [h run]
  rfl

theorem painted_of_screen {run : Run} (hgrid : run.grid ≠ none) (line : Int) (value : Cell) :
    (run.painted line value).fault = none ∧ (run.painted line value).run.grid ≠ none := by
  unfold painted
  split
  · rename_i hnone
    exact absurd hnone hgrid
  · exact ⟨rfl, by simp [done]⟩

theorem applyCommand_of_screen {run : Run} {command : Command} (hmode : run.mode = .pixel)
    (hgrid : run.grid ≠ none) (h : run.mode.Allows command.action) :
    (run.applyCommand command).fault = none ∧ (run.applyCommand command).run.grid ≠ none := by
  unfold applyCommand
  rw [hmode] at h
  cases haction : command.action with
  | paint color => exact painted_of_screen hgrid command.line (some color)
  | erase => exact painted_of_screen hgrid command.line none
  | declare rows columns =>
      rw [haction] at h
      cases h.left
  | strip count color row column =>
      rw [haction] at h
      cases h.left
  | shifted count color dx dy =>
      rw [haction] at h
      cases h.left
  | turn quarters =>
      rw [haction] at h
      cases h.left
  | advance steps =>
      rw [haction] at h
      cases h
  | switch on axis index =>
      rw [haction] at h
      cases h.left

theorem sketch_enterLineOf_of_mode_ne {run : Run} (hmode : run.mode ≠ .pixel) (command : Command) :
    (run.enterLineOf command).sketch = run.sketch := by
  have hscene := congrArg sketch (scene_enterLineOf_of_mode_ne hmode command)
  exact hscene

theorem grid_enterLineOf (run : Run) (command : Command) :
    (run.enterLineOf command).grid = run.grid := by
  unfold enterLineOf
  split
  · rfl
  · rfl

theorem beside_enterLineOf {replayed carried : Run} (h : Beside replayed carried)
    (command : Command) : Beside (replayed.enterLineOf command) (carried.enterLineOf command) := by
  rcases frame_enterLineOf replayed command with ⟨hmode, _⟩
  rcases frame_enterLineOf carried command with ⟨hother, _, _, _, houtcome, _⟩
  refine ⟨?_, by rw [hmode, hother, h.mode], by rw [hmode]; exact h.painting, ?_, ?_,
    by rw [houtcome, h.idle]⟩
  · by_cases hpixel : replayed.mode = .pixel
    · unfold enterLineOf
      rw [← h.line hpixel]
      split
      · exact h.sketch
      · have hsame := congrArg Run.grid h.sketch
        have hanchor := congrArg Run.anchor h.sketch
        refine sketch_eq hsame hanchor ?_
        unfold enterLine
        rw [if_pos hpixel, if_pos (h.mode ▸ hpixel)]
    · rw [sketch_enterLineOf_of_mode_ne hpixel,
        sketch_enterLineOf_of_mode_ne (by rwa [← h.mode]), h.sketch]
  · intro _
    rw [line_enterLineOf, line_enterLineOf]
  · intro hpixel
    rw [grid_enterLineOf]
    exact h.screen (hmode ▸ hpixel)

theorem beside_applyCommand {replayed carried : Run} {command : Command}
    (h : Beside replayed carried) (hallowed : replayed.mode.Allows command.action) :
    (replayed.applyCommand command).fault = (carried.applyCommand command).fault ∧
      Beside (replayed.applyCommand command).run (carried.applyCommand command).run := by
  have hpaints := paints_of_allows hallowed h.painting
  have hframe := frame_applyCommand replayed command
  have hother := frame_applyCommand carried command
  rcases hpaints.sketch h.sketch with ⟨hsketch, hfault⟩
  refine ⟨hfault, hsketch, by rw [hframe.mode, hother.mode, h.mode],
    by rw [hframe.mode]; exact h.painting, ?_, ?_, ?_⟩
  · intro hpixel
    rw [hframe.line, hother.line]
    exact h.line (hframe.mode ▸ hpixel)
  · intro hpixel
    have hscreen : replayed.mode = .pixel := hframe.mode ▸ hpixel
    exact (applyCommand_of_screen hscreen (h.screen hscreen) hallowed).right
  · exact (outcome_of_paints hpaints carried).trans h.idle

theorem beside_of_skipped {replayed carried next : Run} {command : Command}
    (h : Beside replayed carried) (hallowed : replayed.mode.Allows command.action)
    (hnext : replayed.replayCommand command = .ok next)
    (hfault : ((replayed.enterLineOf command).applyCommand command).fault ≠ none)
    (hsketch : next.sketch = (replayed.enterLineOf command).sketch) : Beside next carried := by
  have hmode := mode_replayCommand hnext
  have hentered := beside_enterLineOf h command
  have hscreen : replayed.mode ≠ .pixel := by
    intro hpixel
    have hframe := (frame_enterLineOf replayed command).left
    rw [← hframe] at hallowed hpixel
    exact hfault (applyCommand_of_screen hpixel (hentered.screen hpixel) hallowed).left
  constructor
  · rw [hsketch, sketch_enterLineOf_of_mode_ne hscreen, h.sketch]
  · rw [hmode, h.mode]
  · rw [hmode]
    exact h.painting
  · intro hpixel
    exact absurd (hmode ▸ hpixel) hscreen
  · intro hpixel
    exact absurd (hmode ▸ hpixel) hscreen
  · exact h.idle

theorem carryOut_kept {commands : List Command} {replayed carried last : Run} (index : Nat)
    (h : Beside replayed carried)
    (hallowed : forall command, command ∈ commands -> replayed.mode.Allows command.action)
    (hreplay : commands.foldlM replayCommand replayed = .ok last) :
    exists final, carryOut index carried (replayed.kept commands) = .ok (final, .complete) ∧
      Beside last final := by
  induction commands generalizing replayed carried index with
  | nil =>
      cases hreplay
      exact ⟨carried, rfl, h⟩
  | cons command rest ih =>
      rw [List.foldlM_cons] at hreplay
      rcases Attempts.bind_eq_ok_iff.mp hreplay with ⟨next, hnext, hrest⟩
      have hcommand := hallowed command (by simp)
      have hlater : forall other, other ∈ rest -> next.mode.Allows other.action := by
        intro other hother
        rw [mode_replayCommand hnext]
        exact hallowed other (by simp [hother])
      rcases replayCommand_cases hnext with ⟨hnone, rfl⟩ | ⟨hfault, hsketch⟩
      · rcases beside_applyCommand (beside_enterLineOf h command)
          (by rw [(frame_enterLineOf replayed command).left]; exact hcommand) with
          ⟨hsame, hbeside⟩
        rw [kept_cons_of_none rest hnone,
          carryOut_cons_of_none _ (hsame.symm.trans hnone) hbeside.idle]
        exact ih (index + 1) hbeside hlater hrest
      · rw [kept_cons_of_ne_none rest hnext hfault]
        exact ih index (beside_of_skipped h hcommand hnext hfault hsketch) hlater hrest

theorem kept_of_complete {commands : List Command} {index : Nat} {replayed carried final : Run}
    (h : Beside replayed carried)
    (hallowed : forall command, command ∈ commands -> replayed.mode.Allows command.action)
    (hcarried : carryOut index carried commands = .ok (final, .complete)) :
    replayed.kept commands = commands ∧
      exists last, commands.foldlM replayCommand replayed = .ok last ∧ Beside last final := by
  induction commands generalizing replayed carried index with
  | nil =>
      cases hcarried
      exact ⟨rfl, replayed, rfl, h⟩
  | cons command rest ih =>
      rcases beside_applyCommand (beside_enterLineOf h command)
        (by
          rw [(frame_enterLineOf replayed command).left]
          exact hallowed command (by simp)) with ⟨hsame, hbeside⟩
      have hnone : ((carried.enterLineOf command).applyCommand command).fault = none := by
        rw [carryOut] at hcarried
        split at hcarried
        · cases hcarried
        · cases hcarried
        · assumption
      rw [carryOut_cons_of_none rest hnone hbeside.idle] at hcarried
      have hnext := replayCommand_of_none (hsame.trans hnone)
      rcases ih hbeside (by
          intro other hother
          rw [mode_replayCommand hnext]
          exact hallowed other (by simp [hother])) hcarried with ⟨hkept, last, hlast, hend⟩
      refine ⟨by rw [kept_cons_of_none rest (hsame.trans hnone), hkept], last, ?_, hend⟩
      rw [List.foldlM_cons, hnext]
      exact hlast

end Run

/-- A program without the commands that fail in its replay. -/
def Program.keeping (program : Program) : Program :=
  { program with commands := program.blankRun.kept program.commands }

namespace Run

/-!
## Loaded programs
-/

theorem beside_blankRun {run : Run} {program : Program} {commands : List Command}
    (h : AtStart program commands run) (hwell : program.WellFormed)
    (hpainting : program.mode ≠ .maze) : Beside program.blankRun run := by
  refine ⟨?_, h.mode.symm, hpainting, fun _ => h.line.symm, ?_, h.outcome⟩
  · exact sketch_eq h.grid.symm h.anchor.symm h.cursor.symm
  · intro hpixel
    change program.mode = .pixel at hpixel
    have hsize := hwell.fixed (by rw [hpixel]; rfl)
    show Program.initialGrid program.mode program.size ≠ none
    rw [hsize, hpixel]
    simp [Program.initialGrid, Mode.fixedSize]

theorem replay_eq_ok_iff {program : Program} (hpainting : program.mode ≠ .maze)
    {picture : Option Grid} :
    program.replay = .ok picture ↔
      exists last, program.commands.foldlM replayCommand program.blankRun = .ok last ∧
        last.grid = picture := by
  unfold Program.replay
  rw [if_neg hpainting, Attempts.bind_eq_ok_iff]
  constructor
  · intro hgiven
    rcases hgiven with ⟨last, hlast, hpure⟩
    exact ⟨last, hlast, Attempts.pure_eq_ok_iff.mp hpure⟩
  · intro hgiven
    rcases hgiven with ⟨last, hlast, hpicture⟩
    exact ⟨last, hlast, Attempts.pure_eq_ok_iff.mpr hpicture⟩

theorem grid_of_beside {replayed carried : Run} (h : Beside replayed carried) :
    replayed.grid = carried.grid := by
  have hgrid := congrArg Run.grid h.sketch
  exact hgrid

theorem runToHalt_of_nil {run : Run} {maxSteps : Int} (h : run.commands.drop run.counter = [])
    (hpositive : 0 < maxSteps) : run.runToHalt maxSteps = .ok run.stopped := by
  have hstopped : run.resumed.isRunning = false := by
    show (!run.isHalted && !run.isFinished) = false
    rw [isFinished_of_drop h]
    simp
  unfold runToHalt
  rw [if_neg (by omega), stepWhileRunning_of_stopped hstopped]
  rfl

theorem runToHalt_of_complete {run final : Run} {commands : List Command} {maxSteps : Int}
    (h : Ready run run commands) (hcounter : run.counter = 0) (hpositive : 0 < maxSteps)
    (hsteps : ((linesOf commands).length : Int) ≤ maxSteps)
    (hcarried : carryOut 0 run commands = .ok (final, .complete)) :
    exists halted, run.runToHalt maxSteps = .ok halted ∧ halted.error = none ∧
      halted.counter = commands.length ∧ halted.grid = final.grid := by
  by_cases hcommands : commands = []
  · subst hcommands
    cases hcarried
    exact ⟨run.stopped, runToHalt_of_nil h.place hpositive, (isHalted_eq_false.mp h.halted).left,
      hcounter, rfl⟩
  · have hagrees := runToHalt_agrees_of_ready h hcommands hsteps
    rw [hcounter, Nat.zero_add, hcarried] at hagrees
    rcases hagrees with ⟨halted, hhalted, hshows, hlast, herror, _⟩
    exact ⟨halted, hhalted, herror, hlast, hshows.grid⟩

/-- The commands that a replay keeps run without a problem to the picture of the replay. -/
theorem runToHalt_keeping {run : Run} {program : Program} {picture : Option Grid} {maxSteps : Int}
    (hwell : program.WellFormed) (hmode : run.mode = program.mode)
    (hpainting : program.mode ≠ .maze) (hreplay : program.replay = .ok picture)
    (hpositive : 0 < maxSteps) (hsteps : (program.keeping.lineCount : Int) ≤ maxSteps) :
    exists halted, (run.withProgram program.keeping).runToHalt maxSteps = .ok halted ∧
      halted.error = none ∧ halted.counter = program.keeping.commands.length ∧
      halted.grid = picture := by
  rcases (replay_eq_ok_iff hpainting).mp hreplay with ⟨last, hlast, rfl⟩
  have hstart := atStart_withProgram hmode program.keeping.commands
  have hready := ready_of_atStart hstart hwell (kept_sublist program.blankRun program.commands)
  rcases carryOut_kept 0 (beside_blankRun hstart hwell hpainting) hwell.allowed hlast with
    ⟨final, hfinal, hend⟩
  rw [grid_of_beside hend]
  exact runToHalt_of_complete hready rfl hpositive hsteps hfinal

theorem replay_of_complete {run final : Run} {program : Program}
    (h : AtStart program program.commands run) (hwell : program.WellFormed)
    (hpainting : program.mode ≠ .maze)
    (hcarried : carryOut 0 run program.commands = .ok (final, .complete)) :
    program.replay = .ok final.grid := by
  rcases kept_of_complete (beside_blankRun h hwell hpainting) hwell.allowed hcarried with
    ⟨_, last, hlast, hend⟩
  exact (replay_eq_ok_iff hpainting).mpr ⟨last, hlast, grid_of_beside hend⟩

theorem replayStumbles_of_stumbles {run : Run} {program : Program}
    (h : AtStart program program.commands run) (hwell : program.WellFormed)
    (hpainting : program.mode ≠ .maze) (hstumbles : Stumbles 0 run program.commands) :
    program.ReplayStumbles := by
  rcases hstumbles with ⟨before, command, after, reached, happend, hbefore, hname⟩
  rcases kept_of_complete (beside_blankRun h hwell hpainting) (by
      intro other hother
      exact hwell.allowed other (by simp [happend, hother])) hbefore with ⟨_, last, hlast, hend⟩
  have hanchor := congrArg Run.anchor hend.sketch
  change last.anchor = reached.anchor at hanchor
  refine ⟨before, command, after, last, happend, hlast, ?_⟩
  cases haction : command.action with
  | shifted count color dx dy =>
      rw [haction] at hname
      rcases hname with ⟨first, rest, hgrid, hmisses⟩
      refine ⟨first, rest, (grid_of_beside hend).trans hgrid, ?_⟩
      rwa [hanchor]
  | _ =>
      rw [haction] at hname
      exact absurd hname id

theorem ending_of_painting {commands : List Command} {index : Nat} {run final : Run}
    {ending : Ending} (hpainting : run.mode ≠ .maze) (hidle : run.outcome = .idle)
    (hallowed : forall command, command ∈ commands -> run.mode.Allows command.action)
    (h : carryOut index run commands = .ok (final, ending)) :
    ending = .complete ∨ exists place problem, ending = .failed place problem := by
  induction commands generalizing index run with
  | nil =>
      cases h
      exact Or.inl rfl
  | cons command rest ih =>
      rcases frame_enterLineOf run command with ⟨hmode, _, _, _, houtcome, _⟩
      have hstays := stays_applyCommand run command
      have hpaints := paints_of_allows (hallowed command (by simp)) hpainting
      have hstill := outcome_of_paints hpaints (run.enterLineOf command)
      rw [houtcome, hidle] at hstill
      rcases carryOut_cons_cases h with ⟨problem, _, _, hending⟩ | ⟨hsuccess, _, _⟩ | ⟨_, hrest⟩
      · exact Or.inr ⟨index, problem, hending⟩
      · rw [hstill] at hsuccess
        cases hsuccess
      · refine ih (by rwa [hstays.mode]) hstill ?_ hrest
        intro other hother
        rw [hstays.mode]
        exact hallowed other (by simp [hother])

end Run
end Mosaic
