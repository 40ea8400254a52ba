import Mosaic.Proofs.Maze.Progress
import Mosaic.Proofs.Run.Course
import Mosaic.Proofs.Run.Objective

/-!
# Playing in a maze

The score of a run in a maze is at any moment the value of what is collected there, and a run that
has succeeded stands where the next move leads out.  What else holds of the maze at any moment is
whatever turning, moving and rewinding keep.
-/

namespace Mosaic
namespace Run

structure Plays (run : Run) (maze : Maze) : Prop where
  within : run.maze = some maze
  score : run.mazeScore = (maze.collectedValue : Nat)
  going : run.outcome ≠ .success

theorem plays_moved {run : Run} {maze next : Maze} {points : Nat} (h : run.Plays maze)
    (hfree : walk maze = .moved next points) :
    Plays { run with maze := some next, mazeScore := run.mazeScore + points } next := by
  rcases Maze.moved_cases hfree with ⟨place, _, hnext, hpoints⟩
  refine ⟨rfl, ?_, h.going⟩
  show run.mazeScore + points = _
  rw [h.score, hnext, hpoints, Maze.collectedValue_entered]
  rfl

/-- A run of MAZE that has scored what is collected in its maze.  The first property holds of the
maze at any moment, and the second one if the run has succeeded. -/
structure Playing (P Q : Maze -> Prop) (run : Run) : Prop where
  mode : run.mode = .maze
  now : exists maze, run.maze = some maze ∧ P maze ∧ run.mazeScore = (maze.collectedValue : Nat) ∧
    (run.outcome = .success -> Q maze)

/-- A property of mazes that a turtle on its way does not take away, and one that holds where the
turtle leaves. -/
structure Lasting (P Q : Maze -> Prop) : Prop where
  turned : forall {maze : Maze} (quarters : Nat), P maze -> P (maze.turned quarters)
  moved : forall {maze next : Maze} {points : Nat}, P maze -> walk maze = .moved next points ->
    P next
  fresh : forall {maze : Maze}, P maze -> P maze.fresh
  left : forall {maze : Maze}, P maze -> walk maze = .left -> Q maze

section Kept

variable {P Q : Maze -> Prop} {run : Run} {maze : Maze}

theorem Plays.playing (h : run.Plays maze) (hmode : run.mode = .maze) (hholds : P maze) :
    run.Playing P Q :=
  ⟨hmode, maze, h.within, hholds, h.score, fun hsuccess => absurd hsuccess h.going⟩

theorem playing_advanced (hlasting : Lasting P Q) (steps : Nat) :
    forall (run : Run) (line : Int) (maze : Maze), run.Plays maze -> run.mode = .maze -> P maze ->
      (run.advanced line maze steps).run.Playing P Q := by
  induction steps with
  | zero =>
      intro run line maze h hmode hholds
      exact h.playing hmode hholds
  | succ steps ih =>
      intro run line maze h hmode hholds
      rw [advanced]
      cases hwalk : walk maze with
      | unknown => exact h.playing hmode hholds
      | blocked => exact h.playing hmode hholds
      | left => exact ⟨hmode, maze, h.within, hholds, h.score, fun _ => hlasting.left hholds hwalk⟩
      | moved next points =>
          exact ih _ line next (plays_moved h hwalk) hmode (hlasting.moved hholds hwalk)

theorem playing_applyCommand (hlasting : Lasting P Q) (command : Command)
    (hgoing : run.isHalted = false) (h : run.Playing P Q) :
    (run.applyCommand command).run.Playing P Q := by
  rcases h.now with ⟨maze, hmaze, hholds, hscore, _⟩
  have hplays : run.Plays maze :=
    ⟨hmaze, hscore, by rw [(isHalted_eq_false.mp hgoing).right]; nofun⟩
  unfold applyCommand
  rcases paints_or_steers command.line command.action with hpaints | ⟨quarters, haction⟩ |
    ⟨steps, haction⟩
  · rcases hpaints.repainted run with ⟨_, _, _, _, hafter⟩
    rw [hafter]
    exact ⟨h.mode, h.now⟩
  · rw [haction, apply, hmaze]
    exact ⟨h.mode, maze.turned quarters, rfl, hlasting.turned quarters hholds, hscore,
      fun hsuccess => absurd hsuccess hplays.going⟩
  · rw [haction, apply, hmaze]
    exact playing_advanced hlasting steps run command.line maze hplays h.mode hholds

theorem steady_playing (hlasting : Lasting P Q) : Steady (Playing P Q) where
  command command hgoing h := playing_applyCommand hlasting command hgoing h
  counted _ h := ⟨h.mode, h.now⟩
  entered _ h := ⟨h.mode, h.now⟩
  flagged _ h := ⟨h.mode, h.now⟩
  failed _ h := by
    rcases h.now with ⟨maze, hmaze, hholds, hscore, _⟩
    exact ⟨h.mode, maze, hmaze, hholds, hscore, nofun⟩
  finished h := by
    refine ⟨h.mode, ?_⟩
    unfold finished
    rw [h.mode]
    exact h.now

theorem playing_rewound (hmode : run.mode = .maze) (hmaze : run.maze = some maze)
    (hholds : P maze.fresh) (size : Option (Nat × Nat)) : (run.rewound size).Playing P Q := by
  refine ⟨hmode, maze.fresh, congrArg (Option.map Maze.fresh) hmaze, hholds, ?_, nofun⟩
  rw [Maze.collectedValue_fresh]
  rfl

theorem playing_start (hholds : P maze.fresh) : (start .maze (some maze)).Playing P Q :=
  @playing_rewound P Q { empty .maze with maze := some maze } maze rfl rfl hholds _

theorem playing_load (hlasting : Lasting P Q) {after : Run} {source : String} {asTarget : Bool}
    (h : run.Playing P Q) (hload : run.load source asTarget = .ok after) : after.Playing P Q := by
  rcases h.now with ⟨maze, hmaze, hholds, _⟩
  rcases load_cases hload with ⟨problem, _, rfl⟩ | ⟨program, _, rfl | ⟨hother, _⟩⟩
  · exact ⟨h.mode, h.now⟩
  · exact @playing_rewound P Q { run with source := program.source, commands := program.commands }
      maze h.mode hmaze (hlasting.fresh hholds) program.size
  · exact absurd h.mode hother

theorem playing_reset_some (hmode : run.mode = .maze) (hholds : P maze.fresh) :
    (run.reset (some maze)).Playing P Q :=
  @playing_rewound P Q { run with maze := some maze } maze hmode rfl hholds run.declaredSize

theorem playing_reset_none (hlasting : Lasting P Q) (h : run.Playing P Q) :
    (run.reset none).Playing P Q := by
  rcases h.now with ⟨maze, hmaze, hholds, _⟩
  exact playing_rewound h.mode hmaze (hlasting.fresh hholds) _

/-- What lasts in the maze that a run starts in lasts as long as the maze is kept. -/
theorem Course.playing (hlasting : Lasting P Q) {first : Run} (h : Course KeepsMaze first run)
    (hfirst : first.Playing P Q) : run.Playing P Q := by
  refine h.steady (steady_playing hlasting) hfirst ?_ ?_
  · intro before after source asTarget _ hbefore hload
    exact playing_load hlasting hbefore hload
  · intro before maze hallowed hbefore
    cases maze with
    | some maze => exact absurd rfl (hallowed maze)
    | none => exact playing_reset_none hlasting hbefore

end Kept

end Run
end Mosaic
