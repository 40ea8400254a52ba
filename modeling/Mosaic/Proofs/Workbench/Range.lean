import Mosaic.Proofs.Document.Grids
import Mosaic.Proofs.Evaluation
import Mosaic.Proofs.Goal.Even
import Mosaic.Proofs.Measuring
import Mosaic.Proofs.Workbench.Sessions

/-!
# The range of scores

Every workbench that can be reached has a score and a best score, and the score lies between nothing
and the best.  Its grids have rows of one width, so they can be measured; its picture has the size of
the mode, so a screen has no more right cells than the best score counts; and in MAZE the score is the
value of what is collected.
-/

namespace Mosaic
namespace Score

/-!
## One measure after the other
-/

theorem lampQuarters_le (target current : Grid) :
    lampQuarters target.codes current.codes ≤ target.litCells := by
  by_cases houtline : target.outline = current.outline
  · have hlength := length_codes_of_outline houtline
    have hlit := countP_fst_zip hlength fun code => code != 0
    have hsplit := countP_hits_add_misses (fun pair : Nat × Nat => pair.1 != 0)
      (fun pair => pair.2 != 0) (target.codes.flatten.zip current.codes.flatten)
    have hcount : (target.codes.flatten.countP fun code => code != 0) = target.litCells :=
      countNonzero_codes target
    rw [hcount] at hlit
    rw [lampQuarters_of_outline houtline]
    omega
  · unfold lampQuarters
    rw [paired?_of_outline_ne houtline]
    exact Nat.zero_le _

theorem matchingCells_le (target current : Grid) :
    matchingCells target.codes current.codes ≤ current.flatten.length := by
  by_cases houtline : target.outline = current.outline
  · have hlength := length_codes_of_outline houtline
    have hcells : (target.codes.flatten.zip current.codes.flatten).length =
        current.flatten.length := by
      rw [List.length_zip, hlength, Nat.min_self, length_codes]
    unfold matchingCells
    rw [paired?_of_outline houtline, ← hcells]
    exact List.countP_le_length
  · unfold matchingCells
    rw [paired?_of_outline_ne houtline]
    exact Nat.zero_le _

theorem ofGrids_le {measure : Grid -> Grid -> Nat} {target current : Option Grid} {bound : Nat}
    (h : forall wanted shown, target = some wanted -> current = some shown ->
      measure wanted shown ≤ bound) : ofGrids measure target current ≤ bound := by
  unfold ofGrids
  split
  · exact h _ _ rfl rfl
  · exact Nat.zero_le _

theorem ofGrids_of_isEmpty {target : Option Grid} (h : (target.getD []).isEmpty = true)
    (measure : Grid -> Grid -> Nat) (current : Option Grid) : ofGrids measure target current = 0 := by
  unfold ofGrids
  split
  · cases h
  · rfl

theorem screenQuarters_le {right : Nat} (h : right ≤ 256) : screenQuarters right ≤ fullScreen := by
  unfold screenQuarters fullScreen
  omega

section Runs

variable {run : Run}

theorem bestOfRun_maze {maze : Maze} (hmode : run.mode = .maze) (hmaze : run.maze = some maze) :
    bestOfRun run = .points maze.maxScore := by
  unfold bestOfRun
  rw [hmode, hmaze]
  rfl

theorem ofRun_maze (hmode : run.mode = .maze) : ofRun run = .points run.mazeScore := by
  unfold ofRun
  rw [hmode]

theorem inQuarters_nonneg (h : run.mode = .maze -> 0 ≤ run.mazeScore) :
    0 ≤ (ofRun run).inQuarters := by
  unfold ofRun
  cases hmode : run.mode with
  | maze => exact Int.mul_nonneg (by decide) (h hmode)
  | table => exact Int.mul_nonneg (by decide) (Int.natCast_nonneg _)
  | grid => exact Int.mul_nonneg (by decide) (Int.natCast_nonneg _)
  | matrix => exact Int.natCast_nonneg _
  | pixel => exact Int.natCast_nonneg _

theorem ofGrids_matchingRows_le (target current : Option Grid) :
    ofGrids matchingRows target current ≤ (target.getD []).nonEmptyRows := by
  rw [ofGrids_matchingRows]
  exact matchingRows_le _ _

theorem ofGrids_lampQuarters_le (target current : Option Grid) :
    ofGrids (fun wanted shown => lampQuarters wanted.codes shown.codes) target current ≤
      (target.getD []).litCells := by
  refine ofGrids_le fun wanted shown hwanted _ => ?_
  rw [hwanted]
  exact lampQuarters_le wanted shown

theorem ofGrids_matchingCells_le (h : run.Sturdy) (hmode : run.mode = .pixel) :
    ofGrids (fun wanted shown => matchingCells wanted.codes shown.codes) run.target run.grid ≤
      256 := by
  rcases h.fixedGrid (by rw [hmode]; decide) (congrArg Mode.fixedSize hmode) with
    ⟨grid, hgrid, hrows, hcolumns⟩
  have hcells := length_flatten_of_outline (Grid.outline_eq_replicate.mpr ⟨hrows, hcolumns⟩)
  refine ofGrids_le fun wanted shown _ hshown => ?_
  rw [hgrid] at hshown
  cases hshown
  have hbound := matchingCells_le wanted grid
  rw [hcells] at hbound
  exact hbound

/-- No score is above the best one, as far as pictures have the size of their mode and a maze is
scored by what is collected there. -/
theorem ofRun_atMost_bestOfRun (hsturdy : run.Sturdy) (htidy : run.Tidy) :
    (ofRun run).inQuarters ≤ (bestOfRun run).inQuarters := by
  cases hmode : run.mode with
  | maze =>
      rcases (htidy hmode).now with ⟨maze, hmaze, _, hscore, _⟩
      rw [bestOfRun_maze hmode hmaze, ofRun_maze hmode, hscore]
      exact Int.mul_le_mul_of_nonneg_left (Int.ofNat_le.mpr (Maze.collectedValue_le maze.items))
        (by decide)
  | table =>
      have hrows := ofGrids_matchingRows_le run.target run.grid
      unfold ofRun bestOfRun
      rw [hmode]
      exact Int.mul_le_mul_of_nonneg_left (Int.ofNat_le.mpr hrows) (by decide)
  | grid =>
      have hrows := ofGrids_matchingRows_le run.target run.grid
      unfold ofRun bestOfRun
      rw [hmode]
      exact Int.mul_le_mul_of_nonneg_left (Int.ofNat_le.mpr hrows) (by decide)
  | matrix =>
      unfold ofRun bestOfRun
      rw [hmode]
      exact Int.ofNat_le.mpr (ofGrids_lampQuarters_le run.target run.grid)
  | pixel =>
      unfold ofRun bestOfRun
      rw [hmode]
      refine Int.ofNat_le.mpr ?_
      split
      · rename_i hempty
        rw [ofGrids_of_isEmpty hempty]
        exact Nat.le_refl 0
      · exact screenQuarters_le (ofGrids_matchingCells_le hsturdy hmode)

end Runs
end Score

namespace Workbench

variable {σ : Type}

/-!
## Runs of workbenches that can be reached
-/

theorem even_of_readTarget {mode : Mode} {target : Document} {grid : Option Grid}
    (h : readTarget mode target = .ok grid) : EvenIfAny grid := by
  rcases (readTarget_cases h).right with rfl | ⟨read, hread, rfl⟩
  · exact evenIfAny_none
  · exact evenIfAny_some (Grid.ofDocument_eq_ok_iff.mp hread).right.right

theorem even_of_picture? {drawn : Except Fault Goal} {target : Option Grid}
    (heven : forall goal, drawn = .ok goal -> EvenIfAny goal.grid)
    (h : Goal.picture? drawn = some target) : EvenIfAny target := by
  unfold Goal.picture? at h
  split at h
  · rename_i goal
    split at h
    · cases h
    · cases h
      exact heven goal rfl
  · cases h

variable [RandomSource σ] {bench : Workbench σ}

theorem even_of_put? {request : Request} {target : Option Grid}
    (h : put? bench request = some target) : EvenIfAny target := by
  unfold put? at h
  split at h
  · split at h
    · cases h
    · rename_i document _ _
      cases hread : readTarget bench.run.mode document with
      | error fault =>
          rw [hread] at h
          cases h
      | ok grid =>
          rw [hread] at h
          cases h
          exact even_of_readTarget hread
  · split at h
    · cases h
    · exact even_of_picture? (Goal.even_draw bench.run.mode bench.chance) h
  · split at h
    · exact even_of_picture? (Goal.even_drawChallenge bench.run.mode _ _ bench.chance) h
    · cases h
  · cases h

theorem even_drawRun (mode : Mode) (chance : σ) : (drawRun mode chance).1.Even := by
  unfold drawRun
  split
  · exact Run.even_start mode _
  · exact Run.even_start mode none

theorem even_forSession {run : Run} (h : run.Even) (maze : Maze) : (run.forSession maze).Even := by
  unfold Run.forSession
  split
  · exact h
  · exact Run.even_start .maze (some maze)

theorem Reachable.even (h : bench.Reachable) : bench.run.Even := by
  refine h.kept even_drawRun fun before request after hbefore hmove => ?_
  generalize hput : put? before request = target at hmove
  cases hmove with
  | same => exact hbefore
  | event event keeps result => exact Run.even_event hbefore result
  | put grid code mode size => exact ⟨hbefore.shown, even_of_put? hput⟩
  | moved maze mode playable => exact Run.even_reset hbefore (some maze)
  | exchanged mode chance => exact even_drawRun mode chance
  | entered session => exact even_forSession hbefore _
  | restored session result =>
      have hloaded := Run.even_load (even_forSession hbefore _) result
      exact ⟨hloaded.shown, hloaded.wanted⟩

theorem sturdy_drawRun (mode : Mode) (chance : σ) : (drawRun mode chance).1.Sturdy := by
  unfold drawRun
  split
  · refine Run.sturdy_start fun maze hmaze => ?_
    cases hmaze
    exact (Maze.always_generateUsual chance).wellFormed_fresh.grounded
  · exact Run.sturdy_start nofun

theorem sturdy_forSession {run : Run} (h : run.Sturdy) {maze : Maze} (hmaze : maze.WellFormed) :
    (run.forSession maze).Sturdy := by
  unfold Run.forSession
  split
  · exact h
  · refine Run.sturdy_start fun given hgiven => ?_
    cases hgiven
    exact hmaze.fresh.grounded

theorem Reachable.sturdy (h : bench.Reachable) : bench.run.Sturdy := by
  refine h.kept sturdy_drawRun fun before request after hbefore hmove => ?_
  generalize put? before request = target at hmove
  cases hmove with
  | same => exact hbefore
  | event event keeps result =>
      exact Run.sturdy_event hbefore (fun maze hmaze => absurd hmaze (keeps maze)) result
  | put grid code mode size => exact ⟨hbefore.loaded, hbefore.sized, hbefore.grounded⟩
  | moved maze mode playable =>
      refine Run.sturdy_reset hbefore fun given hgiven => ?_
      cases hgiven
      exact playable.wellFormed_fresh.grounded
  | exchanged mode chance => exact sturdy_drawRun mode chance
  | entered session =>
      exact sturdy_forSession hbefore (Maze.wellFormed_of_loadSession session)
  | restored session result =>
      have hmaze := Maze.wellFormed_of_loadSession session
      have hloaded := Run.sturdy_load (sturdy_forSession hbefore hmaze) result
      refine ⟨hloaded.loaded, hloaded.sized, fun _ given hgiven => ?_⟩
      cases hgiven
      exact hmaze.grounded

/-!
## Scores
-/

/-- The scores of a workbench that can be reached are there, they are in their range, and in MAZE the
score is the value of what is collected. -/
theorem score_in_range (h : bench.Reachable) :
    Loose.scoreOfRun bench.run = .ok bench.score ∧
      Loose.bestOfRun bench.run = .ok bench.bestScore ∧
      0 ≤ bench.score.inQuarters ∧ bench.score.inQuarters ≤ bench.bestScore.inQuarters ∧
      (bench.run.mode = .maze -> exists maze, bench.run.maze = some maze ∧
        bench.score = .points maze.collectedValue) := by
  have hmaze : bench.run.mode = .maze -> exists maze, bench.run.maze = some maze ∧
      bench.run.mazeScore = maze.collectedValue := by
    intro hmode
    rcases (h.tidy hmode).now with ⟨maze, hmaze, _, hscore, _⟩
    exact ⟨maze, hmaze, hscore⟩
  refine ⟨Loose.scoreOfRun_of_even h.even, Loose.bestOfRun_of_even h.even, ?_, ?_, ?_⟩
  · apply Score.inQuarters_nonneg
    intro hmode
    rcases hmaze hmode with ⟨maze, _, hscore⟩
    rw [hscore]
    exact Int.natCast_nonneg _
  · exact Score.ofRun_atMost_bestOfRun h.sturdy h.tidy
  · intro hmode
    rcases hmaze hmode with ⟨maze, hmaze, hscore⟩
    refine ⟨maze, hmaze, ?_⟩
    exact (Score.ofRun_maze hmode).trans (congrArg Score.points hscore)

/-- Three cells in a row, with the turtle in front of a leaf and a carrot behind it. -/
def leafAhead : Maze where
  rows := 1
  columns := 3
  walls := [[Walls.closed.opened .right, (Walls.closed.opened .left).opened .right,
    Walls.closed.opened .left]]
  items := [⟨⟨0, 1⟩, .leaf, false⟩, ⟨⟨0, 2⟩, .carrot, false⟩]
  exit := none
  visited := [⟨0, 0⟩]
  turtle := ⟨⟨0, 0⟩, .east⟩

theorem wellFormed_leafAhead : leafAhead.WellFormed := by
  refine ⟨rfl, by decide, by decide, nofun, by decide, by decide, ?_, by decide⟩
  unfold Position.Ascending
  decide

theorem hasWritableSize_leafAhead : leafAhead.HasWritableSize :=
  Maze.hasWritableSize_of_lt_ten (by decide) (by decide)

/-- A session is restored on a workbench that was in TABLE, and its program collects the leaf. -/
theorem score_in_range_collected :
    exists (bench : Workbench Twister) (maze : Maze), bench.Reachable ∧
      bench.source = "muovi 1" ∧ bench.run.counter = 1 ∧
      0 ≤ bench.score.inQuarters ∧ bench.score.inQuarters ≤ bench.bestScore.inQuarters ∧
      bench.run.maze = some maze ∧
      maze.items = [⟨⟨0, 1⟩, .leaf, true⟩, ⟨⟨0, 2⟩, .carrot, false⟩] ∧
      bench.score = .points maze.collectedValue ∧ bench.score = .points 1 ∧
      bench.bestScore = .points 3 := by
  have hprogram : exists program, Program.load .maze "muovi 1" = .ok program ∧
      exists halted, ({ ((Run.start .table none).forSession leafAhead).withProgram program with
          maze := some leafAhead, mazeScore := leafAhead.collectedValue } : Run).runToHalt 9 =
        .ok halted ∧ halted.counter = 1 ∧ halted.mode = .maze ∧
        exists maze, halted.maze = some maze ∧
          maze.items = [⟨⟨0, 1⟩, .leaf, true⟩, ⟨⟨0, 2⟩, .carrot, false⟩] :=
    ⟨_, rfl, _, rfl, rfl, rfl, _, rfl, rfl⟩
  rcases hprogram with ⟨program, hprogram, halted, hhalt, hcounter, hmode, maze, hmaze, hitems⟩
  rcases exists_idleTable with ⟨bench, hbench, _, hrun, hidle⟩
  rcases exists_restored hidle (Program.rejoined_of_load hprogram) wellFormed_leafAhead
    hasWritableSize_leafAhead hprogram with ⟨run, hresumed, hrestored⟩
  rw [hrun] at hresumed
  rw [← hresumed] at hhalt
  have hreached := Reachable.performed (.runToHalt 9) (.performed
    (.restoreSession (Maze.saveSession "muovi 1" leafAhead)) hbench)
  rw [perform_restoreSession hrestored, perform_runToHalt hhalt] at hreached
  rcases score_in_range hreached with ⟨_, _, hlow, hhigh, hcollected⟩
  rcases hcollected hmode with ⟨there, hthere, hscore⟩
  cases hmaze.symm.trans hthere
  have hvalue : maze.collectedValue = 1 := by
    unfold Maze.collectedValue
    rw [hitems]
    rfl
  refine ⟨_, maze, hreached, rfl, hcounter, hlow, hhigh, hmaze, hitems, hscore, ?_, ?_⟩
  · rw [hscore, hvalue]
    rfl
  · show Score.bestOfRun halted = _
    unfold Score.bestOfRun
    rw [hmode]
    simp only
    rw [hmaze]
    show Score.points ((maze.maxScore : Nat) : Int) = _
    unfold Maze.maxScore
    rw [hitems]
    rfl

end Workbench
end Mosaic
