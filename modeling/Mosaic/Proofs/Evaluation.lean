import Mosaic.Evaluation
import Mosaic.Proofs.Document.Grids
import Mosaic.Proofs.Run.Returning
import Mosaic.Proofs.Scoring

/-!
# What a verdict says

A program is found correct exactly if its run has come to the goal of the record without a problem.
The goal is the one of the record: a run starts in the maze of a record as if nothing had been done
there, and neither the program nor a step changes the target.  The one program without a verdict is
one whose run stumbles.
-/

namespace Mosaic
namespace Run

/-!
## Goals that are reached
-/

def Attains (run : Run) : Prop :=
  match run.mode with
  | .table => (run.grid.getD []).HasRowsOf (run.target.getD [])
  | .grid => (run.grid.getD []).HasRowsOf (run.target.getD [])
  | .matrix =>
      forall target, run.target = some target -> 0 < target.litCells ->
        target.length = 8 ∧ target.IsRectangular 8 ∧
          exists grid, run.grid = some grid ∧ target.lights = grid.lights
  | .pixel => run.grid = run.target
  | .maze =>
      run.outcome = .success ∧
        exists maze, run.maze = some maze ∧ forall item, item ∈ maze.items -> item.collected = true

def Aims (run : Run) : Prop :=
  run.mode ≠ .maze -> exists first rest, run.target = some (first :: rest)

structure Trial (run : Run) : Prop where
  sturdy : run.Sturdy
  tidy : run.Tidy
  aims : run.Aims

theorem Aims.of_sameGoal {before after : Run} (h : before.Aims) (hsame : SameGoal before after) :
    after.Aims := by
  intro hother
  rw [hsame.target]
  rw [hsame.mode] at hother
  exact h hother

theorem Trial.load {run after : Run} {source : String} (h : run.Trial)
    (hload : run.load source false = .ok after) : after.Trial := by
  constructor
  · exact sturdy_load h.sturdy hload
  · exact tidy_load h.tidy hload
  · exact h.aims.of_sameGoal (sameGoal_load (Or.inl rfl) hload)

theorem Trial.runToHalt {run after : Run} {maxSteps : Int} (h : run.Trial)
    (hafter : run.runToHalt maxSteps = .ok after) : after.Trial := by
  constructor
  · exact enduring_sturdy.runToHalt h.sturdy hafter
  · exact steady_tidy.runToHalt h.tidy hafter
  · exact h.aims.of_sameGoal (sameGoal_runToHalt hafter)

theorem Sturdy.fixedGrid {run : Run} (h : run.Sturdy) (hother : run.mode ≠ .maze)
    {rows columns : Nat} (hsize : run.mode.fixedSize = some (rows, columns)) :
    exists grid, run.grid = some grid ∧ grid.length = rows ∧ grid.IsRectangular columns := by
  rcases h.loaded with ⟨program, hprogram, hcommands⟩
  have hmode := (Program.load_eq_ok hprogram).left
  have hfixed := (Program.load_wellFormed hprogram).fixed (by
    rw [hmode]
    cases hdeclares : run.mode.declaresSize with
    | false => rfl
    | true =>
        rw [Mode.fixedSize_of_declaresSize hdeclares] at hsize
        cases hsize)
  refine h.sized.grid hother ?_
  rw [declaredSize_of_load hprogram hcommands, hfixed, hmode, hsize]

end Run

namespace Score

/-!
## Full scores
-/

theorem atMost_points (left right : Int) :
    (points left).atMost (points right) = true ↔ left ≤ right := by
  unfold atMost
  rw [decide_eq_true_eq]
  show 4 * left ≤ 4 * right ↔ _
  omega

theorem atMost_quarters (left right : Nat) :
    (quarters left).atMost (quarters right) = true ↔ left ≤ right := by
  unfold atMost
  rw [decide_eq_true_eq]
  exact Int.ofNat_le

variable {run : Run}

theorem full_iff_rows (hbest : bestOfRun run = .points (run.target.getD []).nonEmptyRows)
    (hscore : ofRun run = .points (ofGrids matchingRows run.target run.grid)) :
    (bestOfRun run).atMost (ofRun run) = true ↔
      (run.grid.getD []).HasRowsOf (run.target.getD []) := by
  rw [hbest, hscore, atMost_points, ofGrids_matchingRows, Int.ofNat_le]
  exact nonEmptyRows_le_matchingRows_iff

theorem full_iff_lamps (h : run.Trial) (hmode : run.mode = .matrix) :
    (bestOfRun run).atMost (ofRun run) = true ↔
      forall target, run.target = some target -> 0 < target.litCells ->
        target.length = 8 ∧ target.IsRectangular 8 ∧
          exists grid, run.grid = some grid ∧ target.lights = grid.lights := by
  have hother : run.mode ≠ .maze := by
    rw [hmode]
    decide
  rcases h.aims hother with ⟨wanted, others, htarget⟩
  rcases h.sturdy.fixedGrid hother (congrArg Mode.fixedSize hmode) with
    ⟨grid, hgrid, hrows, hcolumns⟩
  have hscore : (bestOfRun run).atMost (ofRun run) = true ↔
      Grid.litCells (wanted :: others) ≤
        lampQuarters (Grid.codes (wanted :: others)) grid.codes := by
    unfold bestOfRun ofRun
    rw [hmode, htarget, hgrid]
    cases grid with
    | nil => cases hrows
    | cons shown rest => exact atMost_quarters _ _
  have houtline := Grid.outline_eq_replicate.mpr ⟨hrows, hcolumns⟩
  rw [hscore]
  constructor
  · intro hfull target hsome hlit
    rw [htarget] at hsome
    cases hsome
    have hlights := (litCells_le_lampQuarters_iff hlit).mp hfull
    rw [← Grid.outline_lights, ← hlights, Grid.outline_lights] at houtline
    have hshape := Grid.outline_eq_replicate.mp houtline
    exact ⟨hshape.left, hshape.right, grid, hgrid, hlights⟩
  · intro hall
    rcases Nat.eq_zero_or_pos (Grid.litCells (wanted :: others)) with hnone | hlit
    · rw [hnone]
      exact Nat.zero_le _
    · rcases hall _ htarget hlit with ⟨_, _, shown, hshown, hlights⟩
      rw [hgrid] at hshown
      cases hshown
      exact (litCells_le_lampQuarters_iff hlit).mpr hlights

theorem full_iff_screen (h : run.Trial) (hmode : run.mode = .pixel) :
    (bestOfRun run).atMost (ofRun run) = true ↔ run.grid = run.target := by
  have hother : run.mode ≠ .maze := by
    rw [hmode]
    decide
  rcases h.aims hother with ⟨wanted, others, htarget⟩
  rcases h.sturdy.fixedGrid hother (congrArg Mode.fixedSize hmode) with
    ⟨grid, hgrid, hrows, hcolumns⟩
  have hcells := length_flatten_of_outline (Grid.outline_eq_replicate.mpr ⟨hrows, hcolumns⟩)
  have hscore : (bestOfRun run).atMost (ofRun run) = true ↔
      fullScreen ≤ screenQuarters (matchingCells (Grid.codes (wanted :: others)) grid.codes) := by
    unfold bestOfRun ofRun
    rw [hmode, htarget, hgrid]
    cases grid with
    | nil => cases hrows
    | cons shown rest => exact atMost_quarters _ _
  have hall := @length_le_matchingCells_iff (wanted :: others) grid (by rw [hcells]; decide)
  rw [hcells] at hall
  rw [hscore, fullScreen_le_screenQuarters_iff, hgrid, htarget, Option.some_inj]
  exact hall.trans eq_comm

theorem full_iff_maze (h : run.Trial) (hmode : run.mode = .maze) :
    (bestOfRun run).atMost (ofRun run) = true ↔
      exists maze, run.maze = some maze ∧
        forall item, item ∈ maze.items -> item.collected = true := by
  rcases (h.tidy hmode).now with ⟨maze, hmaze, _, hcollected, _⟩
  have hscore : (bestOfRun run).atMost (ofRun run) = true ↔ maze.maxScore ≤ maze.collectedValue := by
    unfold bestOfRun ofRun
    rw [hmode, hmaze, hcollected]
    exact (atMost_points _ _).trans Int.ofNat_le
  rw [hscore, Maze.maxScore_le_collectedValue_iff, hmaze]
  constructor
  · intro hall
    exact ⟨maze, rfl, hall⟩
  · intro hsome
    rcases hsome with ⟨other, hother, hall⟩
    cases hother
    exact hall

/-- A run scores in full exactly if it has come to its goal, the exit of a maze apart. -/
theorem attains_iff_full (h : run.Trial) :
    run.Attains ↔ (bestOfRun run).atMost (ofRun run) = true ∧
      (run.mode = .maze -> run.outcome = .success) := by
  unfold Run.Attains
  cases hmode : run.mode with
  | table =>
      have hfull := @full_iff_rows run (by unfold bestOfRun; rw [hmode]; rfl)
        (by unfold ofRun; rw [hmode])
      simp [hfull]
  | grid =>
      have hfull := @full_iff_rows run (by unfold bestOfRun; rw [hmode]; rfl)
        (by unfold ofRun; rw [hmode])
      simp [hfull]
  | matrix =>
      rw [full_iff_lamps h hmode]
      simp
  | pixel =>
      rw [full_iff_screen h hmode]
      simp
  | maze =>
      rw [full_iff_maze h hmode]
      simp [and_comm]

end Score

namespace Evaluation

/-!
## Verdicts
-/

/-- A verdict finds a program correct if its run has come to the goal without a problem. -/
theorem isCorrect_judge_iff {final : Run} (h : final.Trial) (id : String) :
    (judge id final).isCorrect = true ↔ final.error = none ∧ final.Attains := by
  rw [Score.attains_iff_full h]
  show (final.error.isNone && (Score.bestOfRun final).atMost (Score.ofRun final) &&
    (final.mode != .maze || final.outcome == .success)) = true ↔ _
  rw [Bool.and_eq_true, Bool.and_eq_true, Option.isNone_iff_eq_none, Bool.or_eq_true, bne_iff_ne,
    beq_iff_eq, and_assoc, ← Decidable.imp_iff_not_or]

theorem setUp_cases {record : GoalRecord} {prepared : Run} (h : setUp record = .ok prepared) :
    (exists value origin, Document.field? record "maze" = some value ∧
      Maze.ofDocument value = .ok origin ∧ prepared = Run.start .maze (some origin)) ∨
    exists mode value target, mode ≠ .maze ∧ Document.field? record "target_grid" = some value ∧
      Grid.ofDocument value = .ok target ∧
      prepared = { Run.start mode none with target := some target } := by
  unfold setUp at h
  rcases Attempts.bind_eq_ok_iff.mp h with ⟨mode, _, hrest⟩
  split at hrest
  · rename_i hmaze
    rw [hmaze] at hrest
    split at hrest
    · rename_i value hvalue
      rcases Attempts.bind_eq_ok_iff.mp hrest with ⟨origin, horigin, hpure⟩
      exact Or.inl ⟨value, origin, hvalue, horigin, (Attempts.pure_eq_ok_iff.mp hpure).symm⟩
    · cases hrest
  · rename_i hother
    split at hrest
    · rename_i value hvalue
      rcases Attempts.bind_eq_ok_iff.mp hrest with ⟨target, htarget, hpure⟩
      exact Or.inr ⟨mode, value, target, hother, hvalue, htarget,
        (Attempts.pure_eq_ok_iff.mp hpure).symm⟩
    · cases hrest

theorem trial_of_setUp {record : GoalRecord} {prepared : Run} (h : setUp record = .ok prepared) :
    prepared.Trial := by
  rcases setUp_cases h with ⟨value, origin, _, horigin, rfl⟩ |
    ⟨mode, value, target, hother, _, htarget, rfl⟩
  · have hgiven : origin.Given := .read horigin
    constructor
    · refine Run.sturdy_start fun given hsome => ?_
      cases hsome
      exact hgiven.wellFormed_fresh.grounded
    · exact Run.tidy_start hgiven.wellFormed_fresh
    · exact fun hother => absurd rfl hother
  · have hstart : (Run.start mode none).Sturdy := Run.sturdy_start fun given hsome => by cases hsome
    constructor
    · exact ⟨hstart.loaded, hstart.sized, hstart.grounded⟩
    · exact Run.tidy_of_mode hother
    · intro _
      have hsome := (Grid.ofDocument_eq_ok_iff.mp htarget).right.left
      rcases List.exists_cons_of_ne_nil hsome with ⟨first, rest, rfl⟩
      exact ⟨first, rest, rfl⟩

/-- Records of the same goal, apart from what was done in its maze. -/
structure SameTask (record other : GoalRecord) : Prop where
  mode : Document.field? other "mode" = Document.field? record "mode"
  target : Document.field? other "target_grid" = Document.field? record "target_grid"
  maze : exists value changed origin again,
    Document.field? record "maze" = some value ∧ Maze.ofDocument value = .ok origin ∧
    Document.field? other "maze" = some changed ∧ Maze.ofDocument changed = .ok again ∧
    again.layout = origin.layout

theorem start_of_layout {maze other : Maze} (h : other.layout = maze.layout) :
    Run.start .maze (some other) = Run.start .maze (some maze) := by
  unfold Run.start Run.rewound
  simp only [Option.map_some, Maze.fresh_of_layout h]

theorem setUp_of_sameTask {record other : GoalRecord} (h : SameTask record other) :
    setUp other = setUp record := by
  rcases h.maze with ⟨value, changed, origin, again, hvalue, horigin, hchanged, hagain, hlayout⟩
  unfold setUp
  rw [h.mode, h.target, hvalue, hchanged]
  refine congrArg (Except.bind _) (funext fun mode => ?_)
  split
  · rename_i hmaze
    rw [hmaze]
    show (Maze.ofDocument changed >>= fun maze => pure (Run.start .maze (some maze))) =
      (Maze.ofDocument value >>= fun maze => pure (Run.start .maze (some maze)))
    rw [hagain, horigin]
    exact congrArg Except.ok (start_of_layout hlayout)
  · rfl

theorem uncollected_of_setUp {record : GoalRecord} {prepared : Run} (h : setUp record = .ok prepared)
    {maze : Maze} (hmaze : prepared.maze = some maze) {item : Item} (hitem : item ∈ maze.items) :
    item.collected = false := by
  rcases setUp_cases h with ⟨_, origin, _, _, rfl⟩ | ⟨_, _, _, _, _, _, rfl⟩
  · cases hmaze
    rcases List.mem_map.mp hitem with ⟨_, _, rfl⟩
    rfl
  · cases hmaze

/-!
## From the record to the verdict
-/

section Judged

variable {id program : String} {record : GoalRecord} {prepared loaded : Run} {maxSteps : Int}

theorem verdict_of_setUp (h : setUp record = .ok prepared) :
    verdict id record program (.ok maxSteps) =
      (runThrough prepared program (.ok maxSteps)).map (judge id) := by
  unfold verdict
  rw [h]
  show (runThrough prepared program (.ok maxSteps) >>= fun final => pure (judge id final)) = _
  cases runThrough prepared program (.ok maxSteps) with
  | error fault => rfl
  | ok final => rfl

theorem runThrough_of_load (h : prepared.load program false = .ok loaded) :
    runThrough prepared program (.ok maxSteps) =
      if loaded.error.isNone then loaded.runToHalt maxSteps else .ok loaded := by
  unfold runThrough
  rw [h]
  rfl

theorem trial_of_runThrough (h : prepared.Trial) (hload : prepared.load program false = .ok loaded)
    {final : Run} (hfinal : runThrough prepared program (.ok maxSteps) = .ok final) :
    final.Trial ∧ Run.SameGoal prepared final := by
  have hloaded := h.load hload
  have hsame := Run.sameGoal_load (Or.inl rfl) hload
  rw [runThrough_of_load hload] at hfinal
  split at hfinal
  · exact ⟨hloaded.runToHalt hfinal, hsame.trans (Run.sameGoal_runToHalt hfinal)⟩
  · cases hfinal
    exact ⟨hloaded, hsame⟩

/-- What the verdict on a program for a record says.  There is one unless the run stumbles, it is
about the goal of the record, and it does not depend on what was done in the maze before. -/
structure Speaks (id : String) (record : GoalRecord) (program : String) (maxSteps : Int)
    (prepared loaded : Run) : Prop where
  fails : forall fault, verdict id record program (.ok maxSteps) = .error fault ↔
    fault = .numeral .tooLarge ∧ prepared.mode = .grid ∧ loaded.error = none ∧
      loaded.resumed.StumblesWithin maxSteps.toNat
  judged : forall found, verdict id record program (.ok maxSteps) = .ok found ->
    exists final, runThrough prepared program (.ok maxSteps) = .ok final ∧ found = judge id final ∧
      Run.SameGoal prepared final ∧
      (found.isCorrect = true ↔ found.error = none ∧ final.Attains)
  anew : forall maze item, prepared.maze = some maze -> item ∈ maze.items -> item.collected = false
  regardless : forall other, SameTask record other ->
    verdict id other program (.ok maxSteps) = verdict id record program (.ok maxSteps)

/-- A program that can be loaded is found correct exactly if its run ends without a problem and has
come to the goal of the record: each row of the target that holds a colour is there, just the right
lamps are lit, the screen is the target, or the turtle has left with everything in the maze. -/
theorem verdict_correct_iff (hprepared : setUp record = .ok prepared)
    (hload : prepared.load program false = .ok loaded) (hsteps : 0 < maxSteps) :
    Speaks id record program maxSteps prepared loaded := by
  have htrial := trial_of_setUp hprepared
  have hsame := Run.sameGoal_load (Or.inl rfl) hload
  have hverdict := @verdict_of_setUp id program record prepared maxSteps hprepared
  constructor
  · intro fault
    have hstumbles := (htrial.load hload).sturdy.runToHalt_eq_error_iff hsteps fault
    rw [hsame.mode] at hstumbles
    rw [hverdict, Attempts.map_eq_error_iff, runThrough_of_load hload]
    cases herror : loaded.error with
    | none =>
        simp only [Option.isNone_none, if_true, true_and]
        exact hstumbles
    | some problem => simp
  · intro found hfound
    rw [hverdict] at hfound
    rcases Attempts.map_eq_ok_iff.mp hfound with ⟨final, hfinal, rfl⟩
    rcases trial_of_runThrough htrial hload hfinal with ⟨hdone, hgoal⟩
    exact ⟨final, hfinal, rfl, hgoal, isCorrect_judge_iff hdone id⟩
  · intro maze item hmaze hitem
    exact uncollected_of_setUp hprepared hmaze hitem
  · intro other hother
    unfold verdict
    rw [setUp_of_sameTask hother]

end Judged

def recordOf (mode : Mode) (target : Grid) : GoalRecord :=
  [("id", .text "a"), ("mode", .text mode.name), ("target_grid", target.toDocument)]

def firstRow : Grid := List.replicate 8 (some .white) :: List.replicate 7 (List.replicate 8 none)

/-- One command lights the first row of lamps. -/
theorem verdict_correct_iff_lamps :
    exists found, verdict "a" (recordOf .matrix firstRow) "+ 1" (.ok 1) = .ok found ∧
      found.isCorrect = true := by
  have hrun : exists prepared loaded final, setUp (recordOf .matrix firstRow) = .ok prepared ∧
      prepared.load "+ 1" false = .ok loaded ∧ prepared.mode = .matrix ∧
      runThrough prepared "+ 1" (.ok 1) = .ok final ∧ final.mode = .matrix ∧ final.error = none ∧
      final.target = some firstRow ∧ final.grid = some firstRow :=
    ⟨_, _, _, rfl, rfl, rfl, rfl, rfl, rfl, rfl, rfl⟩
  rcases hrun with ⟨prepared, loaded, final, hprepared, hload, hmode, hfinal, hended, herror,
    htarget, hgrid⟩
  have hspeaks := @verdict_correct_iff "a" "+ 1" _ prepared loaded 1 hprepared hload (by decide)
  cases hverdict : verdict "a" (recordOf .matrix firstRow) "+ 1" (.ok 1) with
  | error fault =>
      have hgridMode := ((hspeaks.fails fault).mp hverdict).right.left
      rw [hmode] at hgridMode
      cases hgridMode
  | ok found =>
      rcases hspeaks.judged found hverdict with ⟨reached, hreached, rfl, _, hcorrect⟩
      rw [hfinal] at hreached
      cases hreached
      refine ⟨_, rfl, hcorrect.mpr ⟨herror, ?_⟩⟩
      unfold Run.Attains
      rw [hended]
      intro target hwanted _
      rw [htarget] at hwanted
      cases hwanted
      refine ⟨rfl, ?_, firstRow, hgrid, rfl⟩
      unfold Grid.IsRectangular
      decide

/-- A program that is loaded, and then gets no verdict. -/
theorem not_verdict_correct_iff :
    exists prepared loaded,
      setUp (recordOf .grid [[some .red], [none]]) = .ok prepared ∧
        prepared.load (Run.farStrip Text.digitLimit) false = .ok loaded ∧
        forall found, verdict "a" (recordOf .grid [[some .red], [none]])
          (Run.farStrip Text.digitLimit) (.ok 10000) ≠ .ok found := by
  rcases (⟨4299, rfl⟩ : exists n, n + 1 = Text.digitLimit) with ⟨n, hlimit⟩
  rw [← hlimit]
  have hsetUp : exists prepared, setUp (recordOf .grid [[some .red], [none]]) = .ok prepared ∧
    prepared.mode = .grid := ⟨_, rfl, rfl⟩
  rcases hsetUp with ⟨prepared, hprepared, hmode⟩
  have hprogram := (congrArg (fun mode => Program.load mode (Run.farStrip (n + 1))) hmode).trans
    (Run.load_farStrip (Nat.le_of_eq hlimit))
  have hload := Run.load_of_program hprogram
  rcases Run.not_isWritable_farRow hlimit with ⟨hlong, hbelow⟩
  rcases Run.stumbling_farStrip hmode (Run.farStrip (n + 1)) true hlong hbelow with
    ⟨painted, hstep, hrunning, hstumbling⟩
  have hsturdy := ((trial_of_setUp hprepared).load hload).sturdy
  have hfault := (@Run.Sturdy.runToHalt_eq_error_iff _ hsturdy 10000 (by decide)
    (.numeral .tooLarge)).mpr ⟨rfl, hmode, 1, painted, by decide, ?_, hrunning, hstumbling⟩
  · refine ⟨prepared, _, hprepared, hload, ?_⟩
    intro found hfound
    rw [verdict_of_setUp hprepared, runThrough_of_load hload] at hfound
    rcases Attempts.map_eq_ok_iff.mp hfound with ⟨final, hfinal, _⟩
    change Run.runToHalt _ 10000 = .ok final at hfinal
    rw [hfault] at hfinal
    cases hfinal
  · show (Run.step _ >>= Run.stepWhileRunning 0) = _
    exact Attempts.bind_eq_ok_iff.mpr ⟨painted, hstep, rfl⟩

end Evaluation
end Mosaic
