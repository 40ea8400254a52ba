import Mosaic.Proofs.Maze.Exploring
import Mosaic.Proofs.Run.Rewinding
import Mosaic.Proofs.Run.Solving

/-!
# Runs in generated mazes

A maze that was generated keeps its layout whatever is done in it.  The cells visited hang together,
just their items are collected, and a run succeeds at the exit only.
-/

namespace Mosaic
namespace Run

theorem lasting_explored {origin : Maze} (horigin : origin.Playable) :
    Lasting (fun maze => maze.layout = origin.layout ∧ maze.Explored) Maze.Leaving where
  turned quarters h := ⟨h.left, Maze.explored_turned h.right quarters⟩
  moved h hmoved := by
    refine ⟨(Maze.layout_of_moved hmoved).trans h.left, ?_⟩
    refine Maze.explored_of_moved h.right (Maze.outlined_of_layout h.left horigin.outlined) ?_ hmoved
    rw [Maze.places_of_layout h.left]
    exact horigin.apart
  fresh h := by
    refine ⟨(Maze.layout_fresh _).trans h.left, ?_⟩
    rw [Maze.fresh_of_layout h.left]
    exact Maze.explored_fresh horigin
  left h hleft := Maze.leaving_of_left (Maze.outlined_of_layout h.left horigin.outlined) hleft

variable {σ : Type} [RandomSource σ]

/-- Whatever is done in a maze that was generated, its layout stays.  The turtle is on a visited
cell, the visited cells are joined to the start by passages between them, their items are the
collected ones, the score is the value of these, and a run that has succeeded has its turtle at the
exit in front of the gap. -/
theorem course_explores {rows columns : Int} {source : σ} {origin : Maze} {run : Run}
    (hgenerated : (Maze.generate rows columns source).1 = .ok origin)
    (h : Course KeepsMaze (start .maze (some origin)) run) :
    exists maze, run.maze = some maze ∧ maze.layout = origin.layout ∧
      maze.turtle.place.Inside maze.rows maze.columns ∧
      maze.turtle.heading.degrees ∈ [0, 90, 180, 270] ∧
      maze.turtle.place ∈ maze.visited ∧
      maze.startCell ∈ maze.visited ∧
      (forall place, place ∈ maze.visited ->
        Maze.Way maze.rows maze.columns maze.visitedWalls? maze.startCell place) ∧
      (forall item, item ∈ maze.items -> (item.collected = true ↔ item.place ∈ maze.visited)) ∧
      run.mazeScore = (maze.collectedValue : Nat) ∧
      (run.outcome = .success -> maze.Leaving) := by
  have hplayable := Maze.playable_of_generate hgenerated
  have hlasting := lasting_explored hplayable
  have hfirst : (start .maze (some origin)).Playing
      (fun maze => maze.layout = origin.layout ∧ maze.Explored) Maze.Leaving :=
    playing_start ⟨Maze.layout_fresh origin, Maze.explored_fresh hplayable⟩
  rcases (h.playing hlasting hfirst).now with ⟨maze, hmaze, ⟨hlayout, hexplored⟩, hscore, hleaving⟩
  refine ⟨maze, hmaze, hlayout, hexplored.inside, ?_, hexplored.here, hexplored.begun,
    hexplored.joined, hexplored.picked, hscore, hleaving⟩
  cases maze.turtle.heading with
  | _ => decide

/-- The program that solves a maze of two rows of four cells leads to its exit. -/
theorem course_explores_two_by_four :
    exists origin loaded halted maze, (Maze.generate 2 4 (Twister.ofSeed 7)).1 = .ok origin ∧
      (exists text, (start .maze (some origin)).load text false = .ok loaded) ∧
      (exists maxSteps, loaded.runToHalt maxSteps = .ok halted) ∧ halted.outcome = .success ∧
      halted.maze = some maze ∧ maze.layout = origin.layout ∧
      maze.turtle.place ∈ maze.visited ∧ maze.Leaving := by
  rcases @Maze.always_generate Twister _ 2 4 (by decide) (by decide) (by decide)
    (Twister.ofSeed 7) with ⟨origin, horigin, hplayable⟩
  rcases exists_solution hplayable with ⟨text, hsolved⟩
  rcases hsolved _ (Int.le_refl _) with ⟨loaded, halted, hload, _, hhalted, hsolved, _⟩
  have hcourse : Course KeepsMaze (start .maze (some origin)) halted :=
    (Course.start.event (.load text false) nofun hload).event (.runToHalt _) nofun hhalted
  rcases course_explores horigin hcourse with
    ⟨maze, hmaze, hlayout, _, _, hhere, _, _, _, _, hleaving⟩
  exact ⟨origin, loaded, halted, maze, horigin, ⟨text, hload⟩, ⟨_, hhalted⟩, hsolved.outcome, hmaze,
    hlayout, hhere, hleaving hsolved.outcome⟩

end Run
end Mosaic
