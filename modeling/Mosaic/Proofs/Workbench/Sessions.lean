import Mosaic.Proofs.Maze.Session
import Mosaic.Proofs.Program.Plain
import Mosaic.Proofs.Run.Rewinding
import Mosaic.Proofs.Workbench.Tidy

/-!
# Sessions on another workbench

A session that was saved on one workbench is restored on another one just as it was, and nothing of
what was done on the other one before is left in its run.
-/

namespace Mosaic

/-- The run in which a session is taken up: a program at its start, and a maze in progress. -/
def Run.resuming (program : Program) (maze : Maze) : Run :=
  { (start .maze none).withProgram program with
    maze := some maze, mazeScore := maze.collectedValue }

namespace Workbench

/-- A workbench on which the session of another one has been restored.  The halves of a pair that
stand in a row in the text are one character there; no other text is changed. -/
structure Resumed {σ τ : Type} (origin : Workbench σ) (after : Workbench τ) : Prop where
  mode : after.run.mode = .maze
  source : after.source = Text.rejoined origin.source
  joined : Text.IsJoined origin.source -> after.source = origin.source
  maze : after.run.maze = origin.run.maze
  score : after.run.mazeScore = origin.run.mazeScore

variable {σ τ υ : Type}

theorem on_saveSession {bench : Workbench σ} {maze : Maze} (hmode : bench.run.mode = .maze)
    (hmaze : bench.run.maze = some maze) :
    saveSession.on bench = (.ok (Maze.saveSession bench.source maze), bench) := by
  unfold saveSession
  rw [on_bind_of_ok (on_get bench), hmode, hmaze]
  rfl

theorem restoreSession_eq_ok_iff {bench after : Workbench σ} {text : String} {run : Run} :
    (restoreSession text).on bench = (.ok run, after) ↔
      bench.challenge.active = false ∧
        exists code maze loaded, Maze.loadSession text = .ok (code, maze) ∧
          (bench.run.forSession maze).load code false = .ok loaded ∧
          run = { loaded with maze := some maze, mazeScore := maze.collectedValue } ∧
          after = { bench with source := code, run } := by
  constructor
  · intro h
    cases hactive : bench.challenge.active with
    | true =>
        unfold restoreSession at h
        rw [on_forbidden hactive] at h
        cases h
    | false =>
        rw [on_restoreSession hactive] at h
        refine ⟨rfl, ?_⟩
        cases hsession : Maze.loadSession text with
        | error fault =>
            rw [hsession] at h
            cases h
        | ok session =>
            rcases session with ⟨code, maze⟩
            rw [hsession] at h
            simp only at h
            cases hload : (bench.run.forSession maze).load code false with
            | error fault =>
                rw [hload] at h
                cases h
            | ok loaded =>
                rw [hload] at h
                cases h
                exact ⟨code, maze, loaded, rfl, hload, rfl, rfl⟩
  · intro h
    rcases h with ⟨hactive, code, maze, loaded, hsession, hload, rfl, rfl⟩
    rw [on_restoreSession hactive, hsession]
    simp only
    rw [hload]

theorem load_forSession {source : String} {program : Program}
    (h : Program.load .maze source = .ok program) (run : Run) (maze : Maze) :
    (run.forSession maze).load source false = .ok ((run.forSession maze).withProgram program) := by
  apply Run.load_of_program
  rw [Run.mode_forSession]
  exact h

theorem withProgram_of_orderly {run : Run} (h : run.Orderly) (program : Program) (maze : Maze) :
    { run.withProgram program with maze := some maze, mazeScore := maze.collectedValue } =
      Run.resuming program maze := by
  have hmode := h.mode
  have htarget := h.target
  have hcode := h.targetCode
  unfold Run.resuming Run.withProgram Run.rewound
  simp only [hmode, htarget, hcode]
  rfl

section Restored

variable {origin : Workbench σ} {bench after : Workbench τ} {maze : Maze} {run : Run}

theorem resumed_of_restoreSession (horigin : origin.run.Orderly)
    (hmaze : origin.run.maze = some maze)
    (h : (restoreSession (Maze.saveSession origin.source maze)).on bench = (.ok run, after)) :
    Resumed origin after := by
  rcases horigin.now with ⟨there, hthere, hwell, hscore, _⟩
  rw [hmaze] at hthere
  cases hthere
  rcases restoreSession_eq_ok_iff.mp h with ⟨_, code, found, loaded, hsession, hload, rfl, rfl⟩
  rcases Maze.eq_of_loadSession hwell hsession with ⟨rfl, rfl⟩
  constructor
  · show loaded.mode = .maze
    rw [(Run.sameGoal_load (Or.inl rfl) hload).mode, Run.mode_forSession]
  · rfl
  · exact Text.rejoined_of_isJoined
  · exact hmaze.symm
  · exact hscore.symm

/-- What the run is then does not depend on the workbench that the session is restored on. -/
theorem run_of_restoreSession (horigin : origin.run.Orderly) (hmaze : origin.run.maze = some maze)
    (hbench : bench.Tidy) {program : Program}
    (hprogram : Program.load .maze origin.source = .ok program)
    (h : (restoreSession (Maze.saveSession origin.source maze)).on bench = (.ok run, after)) :
    after.run = Run.resuming program maze := by
  rcases horigin.now with ⟨there, hthere, hwell, _⟩
  rw [hmaze] at hthere
  cases hthere
  rcases restoreSession_eq_ok_iff.mp h with ⟨_, code, found, loaded, hsession, hload, rfl, rfl⟩
  rcases Maze.eq_of_loadSession hwell hsession with ⟨rfl, rfl⟩
  have hready := tidy_forSession hbench hwell (Run.mode_forSession bench.run found)
  rw [Program.rejoined_of_load hprogram, load_forSession hprogram] at hload
  cases hload
  exact withProgram_of_orderly hready program found

end Restored

theorem exists_restored {bench : Workbench σ} (hactive : bench.challenge.active = false)
    {code : String} {maze : Maze} (hcode : Text.rejoined code = code) (hwell : maze.WellFormed)
    (hsize : maze.HasWritableSize) {program : Program}
    (hprogram : Program.load .maze code = .ok program) :
    exists run, run = { (bench.run.forSession maze).withProgram program with
        maze := some maze, mazeScore := maze.collectedValue } ∧
      (restoreSession (Maze.saveSession code maze)).on bench =
        (.ok run, { bench with source := code, run }) := by
  have hload := load_forSession hprogram bench.run maze
  have hsession := Maze.loadSession_of_rejoined hcode hwell hsize
  exact ⟨_, rfl, restoreSession_eq_ok_iff.mpr ⟨hactive, code, maze, _, hsession, hload, rfl, rfl⟩⟩

theorem perform_restoreSession [RandomSource σ] {bench after : Workbench σ} {text : String} {run : Run}
    (h : (restoreSession text).on bench = (.ok run, after)) :
    Request.perform (.restoreSession text) bench = after := by
  unfold Request.perform Request.operation
  simp only
  rw [on_discard, h]

/-- In MAZE there always is a session to save.  On whatever workbench it is restored, the text, the
maze and the score are those of the workbench that it was saved on.  If the text is a program, it is
kept as it is, the session can be restored wherever there is no challenge, and the whole run is then
the same on all workbenches that can be reached, whatever was done on them before. -/
theorem saveSession_resumes [RandomSource σ] [RandomSource τ] [RandomSource υ]
    {origin : Workbench σ} (horigin : origin.Reachable) (hmode : origin.run.mode = .maze) :
    exists text, saveSession.on origin = (.ok text, origin) ∧
      (forall (bench after : Workbench τ) (run : Run),
        (restoreSession text).on bench = (.ok run, after) -> Resumed origin after) ∧
      ((exists program, Program.load .maze origin.source = .ok program) ->
        ((forall maze, origin.run.maze = some maze -> maze.HasWritableSize) ->
          forall bench : Workbench τ, bench.challenge.active = false ->
            exists run after, (restoreSession text).on bench = (.ok run, after)) ∧
        forall (bench after : Workbench τ) (other last : Workbench υ) (run rerun : Run),
          bench.Reachable -> (restoreSession text).on bench = (.ok run, after) ->
          other.Reachable -> (restoreSession text).on other = (.ok rerun, last) ->
            after.run = last.run ∧ after.source = origin.source) := by
  have horderly := horigin.tidy hmode
  rcases horderly.now with ⟨maze, hmaze, hwell, _⟩
  refine ⟨_, on_saveSession hmode hmaze, ?_, ?_⟩
  · intro bench after run h
    exact resumed_of_restoreSession horderly hmaze h
  · intro hloads
    rcases hloads with ⟨program, hprogram⟩
    have hkept := Program.rejoined_of_load hprogram
    constructor
    · intro hsize bench hidle
      rcases exists_restored hidle hkept hwell (hsize maze hmaze) hprogram with ⟨run, _, hrestored⟩
      exact ⟨run, _, hrestored⟩
    · intro bench after other last run rerun hbench h hother hagain
      constructor
      · rw [run_of_restoreSession horderly hmaze hbench.tidy hprogram h,
          run_of_restoreSession horderly hmaze hother.tidy hprogram hagain]
      · rw [(resumed_of_restoreSession horderly hmaze h).source, hkept]

section Examples

theorem exists_twoCells (source : String) : exists origin : Workbench Twister,
    origin.Reachable ∧ origin.run.mode = .maze ∧ origin.source = source ∧
      origin.run.maze = some Maze.twoCells ∧ origin.run.mazeScore = 2 := by
  rcases exists_idleTable with ⟨bench, hbench, _, hrun, hidle⟩
  have hempty := Run.load_nothing .maze
  rcases exists_restored hidle (Program.rejoined_of_load hempty) Maze.wellFormed_twoCells
    Maze.hasWritableSize_twoCells hempty with ⟨run, hresumed, hrestored⟩
  rw [hrun] at hresumed
  refine ⟨_, .performed (.setSource source) (.performed
    (.restoreSession (Maze.saveSession "" Maze.twoCells)) hbench), ?_⟩
  rw [perform_restoreSession hrestored, hresumed]
  exact ⟨rfl, rfl, rfl, rfl⟩

/-- A workbench in TABLE takes up a session with another text than the one it came with. -/
theorem saveSession_resumes_two_cells :
    exists (origin bench after : Workbench Twister) (text : String) (run : Run),
      origin.Reachable ∧ origin.run.mode = .maze ∧ saveSession.on origin = (.ok text, origin) ∧
      bench.Reachable ∧ bench.run.mode = .table ∧
      (restoreSession text).on bench = (.ok run, after) ∧ after.run.mode = .maze ∧
      after.source = "ruota 3" ∧ after.run.maze = some Maze.twoCells ∧ after.run.mazeScore = 2 := by
  have hprogram : exists program, Program.load .maze "ruota 3" = .ok program := ⟨_, rfl⟩
  rcases hprogram with ⟨program, hprogram⟩
  rcases exists_idleTable with ⟨bench, hreachable, _, hrun, hidle⟩
  rcases exists_twoCells "ruota 3" with ⟨origin, horigin, hmode, hsource, hmaze, hscore⟩
  have hsize : forall maze, origin.run.maze = some maze -> maze.HasWritableSize := by
    intro maze hthere
    rw [hmaze] at hthere
    cases hthere
    exact Maze.hasWritableSize_twoCells
  rcases @saveSession_resumes Twister Twister Twister _ _ _ _ horigin hmode with
    ⟨text, hsave, hresumes, hloads⟩
  rw [hsource] at hloads
  rcases (hloads ⟨program, hprogram⟩).left hsize bench hidle with ⟨run, after, hrestored⟩
  have hresumed := hresumes bench after run hrestored
  refine ⟨origin, bench, after, text, run, horigin, hmode, hsave, hreachable, ?_, hrestored,
    hresumed.mode, ?_, hresumed.maze.trans hmaze, hresumed.score.trans hscore⟩
  · rw [hrun]
    rfl
  · rw [hresumed.source, hsource, Program.rejoined_of_load hprogram]

/-- A line that ends in the two halves of U+1D7CF, which is the digit one, each as a character of its
own. -/
def splitLine : String := String.ofList ("muovi ".toList ++ [Text.standIn 0xD835, Text.standIn 0xDFCF])

theorem rejoined_splitLine : Text.rejoined splitLine = "muovi 𝟏" := by
  have hpoints : Text.points splitLine.toList = [109, 117, 111, 118, 105, 32, 0xD835, 0xDFCF] := by
    decide
  unfold Text.rejoined
  rw [hpoints]
  decide

theorem refused_splitLine : exists problem,
    Program.load .maze splitLine = .error (.program problem) := by
  unfold splitLine
  exact ⟨_, rfl⟩

theorem load_wholeLine : Program.load .maze "muovi 𝟏" =
    .ok ⟨.maze, "muovi 𝟏", [⟨0, .advance 1⟩], some (16, 16)⟩ := by
  have hlines : Text.lines "muovi 𝟏".toList = ["muovi 𝟏".toList] := by decide
  have hparsed : Program.parseLine .maze 0 "muovi 𝟏".toList = .ok [.once ⟨0, .advance 1⟩] := rfl
  have hloaded : Program.loadLine .maze 0 (some (16, 16)) "muovi 𝟏".toList =
      .ok ([⟨0, .advance 1⟩], some (16, 16)) := by
    unfold Program.loadLine
    rw [hparsed]
    rfl
  apply Program.load_of_loadLines
  rw [hlines]
  exact Program.loadLines_of_loadLine hloaded (Program.loadLines_nil _ _ _)

/-- Two halves of a digit, which are no command, come back as the digit, and the line is a command. -/
theorem saveSession_joins_halves :
    exists (origin bench after : Workbench Twister) (text : String) (run : Run) (problem : Problem),
      origin.Reachable ∧ origin.run.mode = .maze ∧ origin.source = splitLine ∧
      Program.load .maze splitLine = .error (.program problem) ∧
      saveSession.on origin = (.ok text, origin) ∧
      bench.Reachable ∧ bench.challenge.active = false ∧
      (restoreSession text).on bench = (.ok run, after) ∧ after.source = "muovi 𝟏" ∧
      after.source ≠ origin.source ∧ after.run.commands = [⟨0, .advance 1⟩] := by
  rcases refused_splitLine with ⟨problem, hrefused⟩
  rcases exists_idleTable with ⟨bench, hbench, _, hrun, hidle⟩
  rcases exists_twoCells splitLine with ⟨origin, horigin, hmode, hsource, hmaze, _⟩
  rcases exists_restored hidle (Program.rejoined_of_load load_wholeLine) Maze.wellFormed_twoCells
    Maze.hasWritableSize_twoCells load_wholeLine with ⟨run, hresumed, hrestored⟩
  rw [← rejoined_splitLine, Maze.saveSession_rejoined, rejoined_splitLine] at hrestored
  have hsave := on_saveSession hmode hmaze
  rw [hsource] at hsave
  refine ⟨origin, bench, _, _, run, problem, horigin, hmode, hsource, hrefused, hsave, hbench, hidle,
    hrestored, rfl, ?_, ?_⟩
  · rw [hsource]
    show "muovi 𝟏" ≠ splitLine
    decide
  · rw [hresumed]
    rfl

end Examples

end Workbench
end Mosaic
