import Mosaic.Proofs.Maze.Walking
import Mosaic.Proofs.Program.Written
import Mosaic.Proofs.Run.Playing
import Mosaic.Proofs.Run.Refinement
import Mosaic.Random.Twister
import Mosaic.Score

/-!
# Programs that solve mazes

A walk is written as a program with a line for each stride.  Carried out, the program takes the
turtle along the walk, and the score is at any moment the value of what is collected.  With the walk
that ends at the gap of a maze and one more move, every generated maze is solved.
-/

namespace Mosaic
namespace Stride

def action : Stride -> Primitive
  | turn => .turn 1
  | advance => .advance 1

def line : Stride -> List Char
  | turn => "ruota 1".toList
  | advance => "muovi 1".toList

def commandsFrom (start : Int) (strides : List Stride) : List Command :=
  Program.commandsOf start (strides.map fun stride => [stride.action])

def text (strides : List Stride) : String :=
  String.ofList (Text.joinLines (strides.map line))

def program (strides : List Stride) : Program :=
  ⟨.maze, text strides, commandsFrom 0 strides, Mode.maze.fixedSize⟩

theorem length_commandsFrom (start : Int) (strides : List Stride) :
    (commandsFrom start strides).length = strides.length :=
  Program.length_commandsOf start action strides

theorem commandsFrom_append (start : Int) (front back : List Stride) :
    commandsFrom start (front ++ back) =
      commandsFrom start front ++ commandsFrom (start + front.length) back := by
  unfold commandsFrom
  rw [List.map_append, Program.commandsOf_append, List.length_map]

/-!
## Texts
-/

theorem mazeLine_line (start : Int) (stride : Stride) :
    Program.mazeLine start stride.line = .ok stride.action := by
  cases stride with
  | turn => rfl
  | advance => rfl

theorem loadLine_line (start : Int) (size : Option (Nat × Nat)) (stride : Stride) :
    Program.loadLine .maze start size stride.line = .ok ([⟨start, stride.action⟩], size) := by
  have htrim : Text.trim stride.line = stride.line ∧ stride.line.isEmpty = false := by
    cases stride with
    | turn => decide
    | advance => decide
  unfold Program.loadLine Program.parseLine
  simp only [htrim.left, htrim.right, mazeLine_line]
  rfl

theorem no_feed_line (stride : Stride) : '\n' ∉ stride.line := by
  cases stride with
  | turn => decide
  | advance => decide

theorem lines_text {strides : List Stride} (h : strides ≠ []) :
    Text.lines (text strides).toList = strides.map line := by
  unfold text
  rw [String.toList_ofList]
  refine Text.lines_joinLines (by simpa using h) fun row hrow => ?_
  rcases List.mem_map.mp hrow with ⟨stride, _, rfl⟩
  exact no_feed_line stride

theorem load_text {strides : List Stride} (h : strides ≠ []) :
    Program.load .maze (text strides) = .ok (program strides) :=
  Program.load_joinLines h (fun stride _ => no_feed_line stride)
    (fun stride _ start => loadLine_line start _ stride)

theorem lineCount_program_le (strides : List Stride) :
    (program strides).lineCount ≤ strides.length := by
  have hcount := Program.length_lines_commandsOf 0 (strides.map fun stride => [stride.action])
  rwa [List.length_map] at hcount

theorem commands_program_ne_nil {strides : List Stride} (h : strides ≠ []) :
    (program strides).commands ≠ [] := by
  cases strides with
  | nil => exact absurd rfl h
  | cons stride rest => exact List.cons_ne_nil _ _

end Stride

namespace Run

/-!
## Walks carried out
-/

theorem maze_enterLineOf (run : Run) (command : Command) :
    (run.enterLineOf command).maze = run.maze := by
  unfold enterLineOf
  split
  · rfl
  · rfl

theorem mazeScore_enterLineOf (run : Run) (command : Command) :
    (run.enterLineOf command).mazeScore = run.mazeScore := by
  unfold enterLineOf
  split
  · rfl
  · rfl

theorem plays_enterLineOf {run : Run} {maze : Maze} (h : run.Plays maze) (command : Command) :
    (run.enterLineOf command).Plays maze := by
  constructor
  · rw [maze_enterLineOf, h.within]
  · rw [mazeScore_enterLineOf, h.score]
  · rw [(frame_enterLineOf run command).2.2.2.2.1]
    exact h.going

theorem plays_turn {run : Run} {maze : Maze} (h : run.Plays maze) (line : Int) :
    (run.apply line (.turn 1)).fault = none ∧
      (run.apply line (.turn 1)).run.Plays (maze.turned 1) := by
  unfold apply
  rw [h.within]
  exact ⟨rfl, rfl, h.score, h.going⟩

theorem plays_advance {run : Run} {maze next : Maze} {points : Nat} (h : run.Plays maze)
    (hfree : walk maze = .moved next points) (line : Int) :
    (run.apply line (.advance 1)).fault = none ∧
      (run.apply line (.advance 1)).run.Plays next := by
  unfold apply
  rw [h.within]
  simp only [advanced, hfree]
  exact ⟨rfl, plays_moved h hfree⟩

theorem carryOut_stride {index : Nat} {run : Run} {maze next : Maze} {start : Int}
    {stride : Stride} (rest : List Command) (h : run.Plays maze)
    (hstride : forall entered : Run, entered.Plays maze ->
      (entered.apply start stride.action).fault = none ∧
        (entered.apply start stride.action).run.Plays next) :
    exists after, after.Plays next ∧
      carryOut index run (⟨start, stride.action⟩ :: rest) = carryOut (index + 1) after rest := by
  have hentered := plays_enterLineOf h ⟨start, stride.action⟩
  rcases hstride _ hentered with ⟨hfault, hplays⟩
  refine ⟨_, hplays, ?_⟩
  rw [carryOut]
  unfold applyCommand
  simp only [hfault, if_neg hplays.going]

theorem carryOut_walks {maze last : Maze} {strides : List Stride}
    (hwalks : Maze.Walks maze strides last) {run : Run} (h : run.Plays maze) (index : Nat)
    (start : Int) :
    exists after, after.Plays last ∧
      carryOut index run (Stride.commandsFrom start strides) = .ok (after, .complete) := by
  induction hwalks generalizing run index start with
  | stay => exact ⟨run, h, rfl⟩
  | turn _ ih =>
      rename_i rest _
      rcases @carryOut_stride index run _ _ start .turn (Stride.commandsFrom (start + 1) rest) h
        (fun entered hentered => plays_turn hentered start) with ⟨next, hnext, hfirst⟩
      rcases ih hnext (index + 1) (start + 1) with ⟨after, hafter, hrest⟩
      exact ⟨after, hafter, hfirst.trans hrest⟩
  | advance hfree _ ih =>
      rename_i rest _
      rcases @carryOut_stride index run _ _ start .advance (Stride.commandsFrom (start + 1) rest) h
        (fun entered hentered => plays_advance hentered hfree start) with ⟨next, hnext, hfirst⟩
      rcases ih hnext (index + 1) (start + 1) with ⟨after, hafter, hrest⟩
      exact ⟨after, hafter, hfirst.trans hrest⟩

theorem carryOut_leave {maze : Maze} (hleft : walk maze = .left) {run : Run} (h : run.Plays maze)
    (index : Nat) (start : Int) :
    exists final : Run, final.maze = some maze ∧ final.mazeScore = (maze.collectedValue : Nat) ∧
      carryOut index run (Stride.commandsFrom start [.advance]) = .ok (final, .left index) := by
  let entered := run.enterLineOf ⟨start, .advance 1⟩
  have hentered : entered.Plays maze := plays_enterLineOf h ⟨start, .advance 1⟩
  have hcarried : entered.applyCommand ⟨start, .advance 1⟩ =
      done { entered with outcome := .success, isRunning := false } := by
    unfold applyCommand apply
    simp only [hentered.within, advanced, hleft]
  refine ⟨{ entered with outcome := .success, isRunning := false }, hentered.within,
    hentered.score, ?_⟩
  show carryOut index run [⟨start, .advance 1⟩] = _
  rw [carryOut, hcarried]
  rfl

theorem carryOut_solution {maze last : Maze} {strides : List Stride}
    (hwalks : Maze.Walks maze strides last) (hleft : walk last = .left) {run : Run}
    (h : run.Plays maze) :
    exists final : Run, final.maze = some last ∧ final.mazeScore = (last.collectedValue : Nat) ∧
      carryOut 0 run (Stride.program (strides ++ [.advance])).commands =
        .ok (final, .left strides.length) := by
  rcases carryOut_walks hwalks h 0 0 with ⟨after, hafter, hwalked⟩
  rcases carryOut_leave hleft hafter strides.length (0 + strides.length) with
    ⟨final, hmaze, hscore, hlast⟩
  refine ⟨final, hmaze, hscore, ?_⟩
  show carryOut 0 run (Stride.commandsFrom 0 (strides ++ [.advance])) = _
  rw [Stride.commandsFrom_append, carryOut_append, hwalked, Stride.length_commandsFrom]
  show carryOut (0 + strides.length) after _ = _
  rw [Nat.zero_add]
  exact hlast

/-!
## Solutions
-/

theorem plays_start (maze : Maze) (program : Program) :
    ((start .maze (some maze)).withProgram program).Plays maze.fresh := by
  constructor
  · show some maze.fresh.fresh = some maze.fresh
    simp [Maze.fresh, Maze.startCell]
  · rw [Maze.collectedValue_fresh]
    rfl
  · intro hsuccess
    cases hsuccess

structure Solved (halted : Run) : Prop where
  error : halted.error = none
  outcome : halted.outcome = .success
  collected : exists maze, halted.maze = some maze ∧
    forall item, item ∈ maze.items -> item.collected = true

/-- A maze that can be played has a program that solves it for all its points. -/
theorem exists_solution {maze : Maze} (h : maze.Playable) :
    exists text, forall maxSteps : Int, ((Text.lines text.toList).length : Int) ≤ maxSteps ->
      exists loaded halted, (start .maze (some maze)).load text false = .ok loaded ∧
        loaded.error = none ∧ loaded.runToHalt maxSteps = .ok halted ∧ halted.Solved ∧
        Score.ofRun halted = .points 8 ∧ Score.bestOfRun halted = .points 8 := by
  rcases Maze.exists_walks_to_exit h with ⟨strides, last, hwalks, hcollected, hleft⟩
  have hne : strides ++ [.advance] ≠ [] := by simp
  refine ⟨Stride.text (strides ++ [.advance]), fun maxSteps hsteps => ?_⟩
  have hprogram : Program.load (start .maze (some maze)).mode _ = _ := Stride.load_text hne
  have hload : (start .maze (some maze)).load (Stride.text (strides ++ [.advance])) false =
      .ok ((start .maze (some maze)).withProgram (Stride.program (strides ++ [.advance]))) :=
    load_of_program hprogram
  have hplays := plays_start maze (Stride.program (strides ++ [.advance]))
  rcases carryOut_solution hwalks hleft hplays with ⟨final, hmaze, hscore, hcarried⟩
  have hlayout : last.layout = maze.layout := hwalks.layout.trans (Maze.layout_fresh maze)
  rw [Stride.lines_text hne, List.length_map] at hsteps
  have hagrees := @runToHalt_agrees _ _ _ _ _ maxSteps hprogram hload
    (Stride.commands_program_ne_nil hne) (by
      have hlines := Stride.lineCount_program_le (strides ++ [.advance])
      omega)
  rw [hcarried] at hagrees
  rcases hagrees with ⟨halted, hhalted, hshows, _, herror, houtcome⟩
  have hfinal : halted.maze = some last := hshows.maze.trans hmaze
  have hvalue : last.collectedValue = 8 := by
    rw [Maze.collectedValue_of_all hcollected, Maze.maxScore_of_layout hlayout, h.maxScore]
  have hmode : halted.mode = .maze := (sameGoal_runToHalt hhalted).mode
  refine ⟨_, halted, hload, rfl, hhalted, ⟨herror, houtcome, last, hfinal, hcollected⟩, ?_, ?_⟩
  · unfold Score.ofRun
    rw [hmode]
    show Score.points halted.mazeScore = _
    rw [hshows.mazeScore, hscore, hvalue]
    rfl
  · unfold Score.bestOfRun
    rw [hmode]
    show Score.points (halted.maze.elim 0 fun maze => maze.maxScore) = _
    rw [hfinal]
    show Score.points last.maxScore = _
    rw [Maze.maxScore_of_layout hlayout, h.maxScore]
    rfl

end Run

namespace Maze

variable {σ : Type} [RandomSource σ]

/-- Every generated maze has a program that collects everything in it and leaves. -/
theorem generate_solvable {rows columns : Int} (hrows : 2 ≤ rows) (hcolumns : 2 ≤ columns)
    (hroom : 8 ≤ rows * columns) (source : σ) :
    exists maze text, (generate rows columns source).1 = .ok maze ∧
      forall maxSteps : Int, ((Text.lines text.toList).length : Int) ≤ maxSteps ->
        exists loaded halted, (Run.start .maze (some maze)).load text false = .ok loaded ∧
          loaded.error = none ∧ loaded.runToHalt maxSteps = .ok halted ∧ halted.Solved ∧
          Score.ofRun halted = .points 8 ∧ Score.bestOfRun halted = .points 8 := by
  rcases @always_generate σ _ _ _ hrows hcolumns hroom source with ⟨maze, hmaze, hplayable⟩
  rcases Run.exists_solution hplayable with ⟨text, htext⟩
  exact ⟨maze, text, hmaze, htext⟩

/-- In two rows of four cells, where the exit may be the cell of the start. -/
theorem generate_solvable_two_by_four :
    exists maze text, (generate 2 4 (Twister.ofSeed 7)).1 = .ok maze ∧
      forall maxSteps : Int, ((Text.lines text.toList).length : Int) ≤ maxSteps ->
        exists loaded halted, (Run.start .maze (some maze)).load text false = .ok loaded ∧
          loaded.error = none ∧ loaded.runToHalt maxSteps = .ok halted ∧ halted.Solved ∧
          Score.ofRun halted = .points 8 ∧ Score.bestOfRun halted = .points 8 :=
  generate_solvable (by decide) (by decide) (by decide) (Twister.ofSeed 7)

end Maze
end Mosaic
