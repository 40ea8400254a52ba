import Mosaic.Proofs.Run.Keeping
import Mosaic.Score

/-!
# Programs as their own targets

A program can be loaded as a target, and what it draws in its replay is then what it should draw.
It does, unless a command fails on the way.
-/

namespace Mosaic
namespace Run

theorem atStart_blankRun (program : Program) :
    AtStart program program.commands program.blankRun :=
  ⟨rfl, rfl, rfl, rfl, rfl, rfl, rfl, rfl, rfl⟩

theorem grid_ne_none_of_replay {program : Program} (hwell : program.WellFormed)
    (hpainting : program.mode ≠ .maze) (hcommands : program.commands ≠ []) {picture : Option Grid}
    (hreplay : program.replay = .ok picture) : picture ≠ none := by
  rcases (replay_eq_ok_iff hpainting).mp hreplay with ⟨last, hlast, rfl⟩
  have hblank := @fits_of_wellFormed program hwell hcommands program.blankRun rfl rfl
    (fun hmaze => absurd hmaze hpainting)
  rcases foldlM_replayCommand_fits hblank hwell.allowed hlast with ⟨hfits, hmode⟩
  have hbeside := beside_blankRun (atStart_blankRun program) hwell hpainting
  rcases carryOut_kept 0 hbeside hwell.allowed hlast with ⟨final, _, hend⟩
  change last.mode = program.mode at hmode
  unfold Fits at hfits
  cases hcase : last.mode with
  | table =>
      rw [hcase] at hfits
      rcases hfits with ⟨first, rest, hgrid⟩
      rw [hgrid]
      simp
  | grid =>
      rw [hcase] at hfits
      rcases hfits with ⟨first, rest, hgrid⟩
      rw [hgrid]
      simp
  | maze => exact absurd (hmode.symm.trans hcase) hpainting
  | matrix =>
      rw [hcase] at hfits
      rcases hfits with ⟨grid, hgrid, _⟩
      rw [hgrid]
      simp
  | pixel => exact hend.screen hcase

theorem load_as_target {run : Run} {source : String} {program : Program} {picture : Option Grid}
    (hprogram : Program.load run.mode source = .ok program) (hpainting : run.mode ≠ .maze)
    (hreplay : program.replay = .ok picture) :
    exists loaded, run.load source true = .ok loaded ∧ loaded.target = picture := by
  refine ⟨{ run.withProgram program with target := picture, targetCode := some source }, ?_, rfl⟩
  unfold load
  rw [hprogram]
  simp only
  rw [if_pos (by simp [hpainting]), hreplay]
  rfl

theorem exists_load_of_complete {run : Run} {source : String} {program : Program}
    (hprogram : Program.load run.mode source = .ok program) (hpainting : run.mode ≠ .maze)
    (hcomplete : exists final,
      carryOut 0 program.blankRun program.commands = .ok (final, .complete)) (asTarget : Bool) :
    exists loaded, run.load source asTarget = .ok loaded := by
  cases asTarget with
  | false => exact ⟨_, load_of_program hprogram⟩
  | true =>
      have hpicture : program.mode ≠ .maze := by rwa [(Program.load_eq_ok hprogram).left]
      rcases hcomplete with ⟨final, hfinal⟩
      have hreplay := replay_of_complete (atStart_blankRun program)
        (Program.load_wellFormed hprogram) hpicture hfinal
      rcases load_as_target hprogram hpainting hreplay with ⟨loaded, hload, _⟩
      exact ⟨loaded, hload⟩

theorem exists_carryOut_of_replay {program : Program} {loaded : Run} {picture : Option Grid}
    (hstart : AtStart program program.commands loaded) (hwell : program.WellFormed)
    (hpainting : program.mode ≠ .maze) (hcommands : program.commands ≠ [])
    (hreplay : program.replay = .ok picture) :
    exists final ending, carryOut 0 loaded program.commands = .ok (final, ending) := by
  have hallowed : forall command, command ∈ program.commands ->
      loaded.mode.Allows command.action := by
    rw [hstart.mode]
    exact hwell.allowed
  have hfits := fits_of_wellFormed hwell hcommands hstart.mode hstart.grid
    (fun hmaze => absurd hmaze hpainting)
  cases hcarried : carryOut 0 loaded program.commands with
  | error fault =>
      have hclear := (Program.replay_isOk_iff hwell hpainting).mp ⟨picture, hreplay⟩
      have hstumbles := stumbles_of_carryOut hfits hallowed hcarried
      exact absurd (replayStumbles_of_stumbles hstart hwell hpainting hstumbles) hclear
  | ok reached => exact ⟨reached.1, reached.2, rfl⟩

/-- A program that is its own target succeeds if all its commands can be carried out, and it fails if
one of them does. -/
theorem runToHalt_as_target {run : Run} {source : String} {program : Program}
    {picture : Option Grid} (hprogram : Program.load run.mode source = .ok program)
    (hpainting : run.mode ≠ .maze) (hreplay : program.replay = .ok picture)
    (hcommands : program.commands ≠ []) :
    exists loaded final ending, run.load source true = .ok loaded ∧
      carryOut 0 loaded program.commands = .ok (final, ending) ∧
      forall maxSteps : Int, (program.lineCount : Int) ≤ maxSteps ->
        exists halted, loaded.runToHalt maxSteps = .ok halted ∧
          (ending = .complete ∧ halted.error = none ∧ halted.outcome = .success ∨
            exists index problem, ending = .failed index problem ∧ halted.error = some problem ∧
              halted.outcome = .failure) := by
  have hwell := Program.load_wellFormed hprogram
  have hmode := (Program.load_eq_ok hprogram).left
  rcases load_as_target hprogram hpainting hreplay with ⟨loaded, hload, htarget⟩
  have hstart := atStart_of_load hprogram hload
  have hpicture : program.mode ≠ .maze := by rwa [hmode]
  have hloaded : loaded.mode ≠ .maze := by rwa [hstart.mode]
  have hallowed : forall command, command ∈ program.commands ->
      loaded.mode.Allows command.action := by
    rw [hstart.mode]
    exact hwell.allowed
  rcases exists_carryOut_of_replay hstart hwell hpicture hcommands hreplay with
    ⟨final, ending, hcarried⟩
  refine ⟨loaded, final, ending, hload, hcarried, fun maxSteps hsteps => ?_⟩
  have hagrees := runToHalt_agrees hprogram hload hcommands hsteps
  rw [hcarried] at hagrees
  rcases hagrees with ⟨halted, hhalted, _, hends⟩
  refine ⟨halted, hhalted, ?_⟩
  rcases ending_of_painting hloaded hstart.outcome hallowed hcarried with
    rfl | ⟨index, problem, rfl⟩
  · have hdrawn := replay_of_complete hstart hwell hpicture hcarried
    rw [hreplay] at hdrawn
    injection hdrawn with hdrawn
    have hstays := stays_carryOut hcarried
    have hgiven := grid_ne_none_of_replay hwell hpicture hcommands hreplay
    rcases hends with ⟨_, herror, houtcome⟩
    rw [hstays.mode, hstays.target, htarget, ← hdrawn,
      if_pos ⟨hloaded, Option.isSome_iff_ne_none.mpr hgiven, rfl⟩] at houtcome
    exact Or.inl ⟨rfl, herror, houtcome⟩
  · exact Or.inr ⟨index, problem, rfl, hends.2.1, hends.2.2⟩

/-- A replay ends unless a strip of GRID misses the table at a place that cannot be written.  Where
it ends, the commands it keeps run to the same picture without a problem, and the program reaches
its own picture exactly if none of its commands fails. -/
theorem replay_agrees_with_running {run : Run} {source : String} {program : Program}
    (hprogram : Program.load run.mode source = .ok program) (hpainting : run.mode ≠ .maze) :
    (Not program.ReplayStumbles ->
      exists picture, program.replay = .ok picture ∧
        (forall maxSteps : Int, 0 < maxSteps -> (program.keeping.lineCount : Int) ≤ maxSteps ->
          exists halted, (run.withProgram program.keeping).runToHalt maxSteps = .ok halted ∧
            halted.error = none ∧ halted.counter = program.keeping.commands.length ∧
            halted.grid = picture) ∧
        (program.commands ≠ [] ->
          exists loaded final ending, run.load source true = .ok loaded ∧
            carryOut 0 loaded program.commands = .ok (final, ending) ∧
            forall maxSteps : Int, (program.lineCount : Int) ≤ maxSteps ->
              exists halted, loaded.runToHalt maxSteps = .ok halted ∧
                (ending = .complete ∧ halted.error = none ∧ halted.outcome = .success ∨
                  exists index problem, ending = .failed index problem ∧
                    halted.error = some problem ∧ halted.outcome = .failure))) ∧
      (program.ReplayStumbles ->
        program.replay = .error (.numeral .tooLarge) ∧
          run.load source true = .error (.numeral .tooLarge)) := by
  have hwell := Program.load_wellFormed hprogram
  have hmode := (Program.load_eq_ok hprogram).left
  have hpicture : program.mode ≠ .maze := by rwa [hmode]
  constructor
  · intro hclear
    rcases (Program.replay_isOk_iff hwell hpicture).mpr hclear with ⟨picture, hreplay⟩
    refine ⟨picture, hreplay, fun maxSteps hpositive hsteps => ?_, fun hcommands => ?_⟩
    · exact runToHalt_keeping hwell hmode.symm hpicture hreplay hpositive hsteps
    · exact runToHalt_as_target hprogram hpainting hreplay hcommands
  · intro hstumbles
    have hreplay : program.replay = .error (.numeral .tooLarge) := by
      unfold Program.replay
      rw [if_neg hpicture, Program.foldlM_of_replayStumbles hstumbles]
      rfl
    refine ⟨hreplay, ?_⟩
    unfold load
    rw [hprogram]
    simp only
    rw [if_pos (by simp [hpainting]), hreplay]
    rfl

/-- A strip that is too long is left out of the target, and then the run fails at it. -/
theorem replay_agrees_with_running_long_strip :
    exists program loaded halted,
      Program.load .table "1#2\n1 R 0 0\n3 G 0 0" = .ok program ∧
        program.replay = .ok (some [[some .red, none]]) ∧ program.keeping.commands.length = 2 ∧
        (start .table none).load "1#2\n1 R 0 0\n3 G 0 0" true = .ok loaded ∧
        loaded.runToHalt 3 = .ok halted ∧ halted.outcome = .failure := by
  have hprogram : Program.load (start .table none).mode "1#2\n1 R 0 0\n3 G 0 0" = _ :=
    load_longStrip
  have hlines : ((([0, 1, 2] : List Int).eraseDups.length : Nat) : Int) ≤ 3 := by decide
  rcases replay_agrees_with_running hprogram (by decide) with ⟨hclear, hstumbles⟩
  have hreplay : Program.replay ⟨.table, "1#2\n1 R 0 0\n3 G 0 0",
      [⟨0, .declare 1 2⟩, ⟨1, .strip 1 .red 0 0⟩, ⟨2, .strip 3 .green 0 0⟩], some (1, 2)⟩ =
      .ok (some [[some .red, none]]) := by rfl
  rcases hclear (by
      intro h
      rw [(hstumbles h).left] at hreplay
      cases hreplay) with ⟨picture, _, _, htarget⟩
  rcases htarget (by simp) with ⟨loaded, final, ending, hload, hcarried, hruns⟩
  rcases hruns 3 hlines with ⟨halted, hhalted, hends⟩
  refine ⟨_, loaded, halted, load_longStrip, hreplay, rfl, hload, hhalted, ?_⟩
  rcases load_eq_ok hprogram hload with ⟨target, targetCode, rfl⟩
  rcases hends with ⟨hcomplete, _, _⟩ | ⟨_, _, _, _, houtcome⟩
  · subst hcomplete
    cases hcarried
  · exact houtcome

theorem replayStumbles_farStrip {n : Nat} (h : n = Text.digitLimit) :
    Program.ReplayStumbles ⟨.grid, farStrip n,
      [⟨0, .declare 2 1⟩, ⟨1, .shifted 1 .red 0 1⟩,
        ⟨2, .shifted 1 .red 0 (Text.decimalValue (List.replicate n '9'))⟩], some (2, 1)⟩ := by
  rcases not_isWritable_farRow h with ⟨hlong, hbelow⟩
  refine ⟨[⟨0, .declare 2 1⟩, ⟨1, .shifted 1 .red 0 1⟩], _, [], _, rfl, rfl, ?_⟩
  exact ⟨_, _, rfl, Or.inl ⟨hbelow, hlong⟩⟩

/-- A program that can be loaded, and neither be replayed nor be its own target. -/
theorem not_replay_agrees_with_running :
    exists program, Program.load (start .grid none).mode (farStrip Text.digitLimit) = .ok program ∧
      program.commands ≠ [] ∧ (forall picture, program.replay ≠ .ok picture) ∧
      forall loaded, (start .grid none).load (farStrip Text.digitLimit) true ≠ .ok loaded := by
  rcases (⟨4299, rfl⟩ : exists n, n + 1 = Text.digitLimit) with ⟨n, hlimit⟩
  have hstumbles := replayStumbles_farStrip hlimit
  rw [← hlimit]
  have hprogram : Program.load (start .grid none).mode (farStrip (n + 1)) = _ :=
    load_farStrip (Nat.le_of_eq hlimit)
  have hpainting : (start .grid none).mode ≠ .maze := by decide
  have hpicture := Program.replay_isOk_iff (Program.load_wellFormed hprogram) hpainting
  have hnone := not_exists.mp fun hreplay => hpicture.mp hreplay hstumbles
  refine ⟨_, hprogram, by simp, hnone, ?_⟩
  intro loaded hload
  unfold load at hload
  rw [hprogram] at hload
  simp only at hload
  rw [if_pos (by decide)] at hload
  rcases Attempts.bind_eq_ok_iff.mp hload with ⟨picture, hreplay, _⟩
  exact hnone picture hreplay

end Run
end Mosaic
