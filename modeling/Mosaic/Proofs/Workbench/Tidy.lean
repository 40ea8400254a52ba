import Mosaic.Proofs.Run.Orderly
import Mosaic.Proofs.Workbench.Moves

/-!
# Mazes on workbenches that can be reached

However a workbench has come to its maze, whether it was drawn, came with a goal or was read from a
session, everything in it lies inside, its score is the value of what is collected there, and there
is no target besides it.
-/

namespace Mosaic
namespace Workbench

variable {σ : Type}

/-- A workbench whose run is orderly if it is one of MAZE. -/
def Tidy (bench : Workbench σ) : Prop := bench.run.Tidy

theorem tidy_forSession {bench : Workbench σ} (h : bench.Tidy) {maze : Maze}
    (hmaze : maze.WellFormed) : (bench.run.forSession maze).Tidy := by
  unfold Run.forSession
  split
  · exact h
  · exact Run.tidy_start hmaze.fresh

variable [RandomSource σ]

theorem tidy_drawRun (mode : Mode) (chance : σ) : (drawRun mode chance).1.Tidy := by
  unfold drawRun
  split
  · rename_i hmode
    subst hmode
    exact Run.tidy_start (Maze.always_generateUsual chance).wellFormed_fresh
  · rename_i hmode
    exact Run.tidy_of_mode hmode

/-- In MAZE, the run of a workbench that can be reached is orderly. -/
theorem Reachable.tidy {bench : Workbench σ} (h : bench.Reachable) : bench.Tidy := by
  refine h.kept tidy_drawRun fun before request after hbefore hmove => ?_
  generalize put? before request = target at hmove
  cases hmove with
  | same => exact hbefore
  | event event keeps result =>
      exact Run.tidy_event hbefore (fun maze hmaze => absurd hmaze (keeps maze)) result
  | put target code mode size => exact Run.tidy_of_mode mode
  | moved maze mode playable => exact Run.tidy_reset_some hbefore playable.wellFormed_fresh
  | exchanged mode chance => exact tidy_drawRun mode chance
  | entered session => exact tidy_forSession hbefore (Maze.wellFormed_of_loadSession session)
  | restored session result =>
      have hmaze := Maze.wellFormed_of_loadSession session
      exact Run.tidy_with_maze (Run.tidy_load (tidy_forSession hbefore hmaze) result) hmaze

end Workbench
end Mosaic
