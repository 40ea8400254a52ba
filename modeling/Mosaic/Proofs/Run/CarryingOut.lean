import Mosaic.Proofs.Attempts
import Mosaic.Proofs.Run.Scene
import Mosaic.Run.Stepping

/-!
# Commands one at a time

A program can be carried out without batches and steps: one command after the other, entering a new
line whenever the line changes, until a command fails or the turtle leaves the maze.  Everything
that stepping does is measured against this.
-/

namespace Mosaic

/-- How carrying out commands ends: all are carried out, one fails, or the turtle leaves. -/
inductive Ending
  | complete
  | failed (index : Nat) (problem : Problem)
  | left (index : Nat)
  deriving DecidableEq, Repr

namespace Run

/-- Commands carried out one at a time, the first of them at an index. -/
def carryOut (index : Nat) (run : Run) : List Command -> Except Fault (Run × Ending)
  | [] => .ok (run, .complete)
  | command :: rest =>
      let carried := (run.enterLineOf command).applyCommand command
      match carried.fault with
      | some (.program problem) => .ok (carried.run, .failed index problem)
      | some fault => .error fault
      | none =>
          if carried.run.outcome = .success then .ok (carried.run, .left index)
          else carryOut (index + 1) carried.run rest

def carryOn (index : Nat) (commands : List Command) (reached : Run × Ending) :
    Except Fault (Run × Ending) :=
  match reached.2 with
  | .complete => carryOut index reached.1 commands
  | _ => .ok reached

theorem carryOut_append (index : Nat) (run : Run) (front back : List Command) :
    carryOut index run (front ++ back) =
      carryOut index run front >>= carryOn (index + front.length) back := by
  induction front generalizing index run with
  | nil => rfl
  | cons command rest ih =>
      rw [List.cons_append, carryOut, carryOut]
      cases ((run.enterLineOf command).applyCommand command).fault with
      | some fault =>
          cases fault with
          | program problem => rfl
          | _ => rfl
      | none =>
          simp only
          split
          · rfl
          · rw [ih, List.length_cons, Nat.add_assoc, Nat.add_comm 1]

/-- The three ways in which the first of some commands leads to an ending. -/
theorem carryOut_cons_cases {index : Nat} {run final : Run} {command : Command}
    {rest : List Command} {ending : Ending}
    (h : carryOut index run (command :: rest) = .ok (final, ending)) :
    (exists problem,
      ((run.enterLineOf command).applyCommand command).fault = some (.program problem) ∧
        final = ((run.enterLineOf command).applyCommand command).run ∧
        ending = .failed index problem) ∨
      (((run.enterLineOf command).applyCommand command).run.outcome = .success ∧
        final = ((run.enterLineOf command).applyCommand command).run ∧ ending = .left index) ∨
      ((run.enterLineOf command).applyCommand command).run.outcome ≠ .success ∧
        carryOut (index + 1) ((run.enterLineOf command).applyCommand command).run rest =
          .ok (final, ending) := by
  rw [carryOut] at h
  split at h
  · rename_i problem hfault
    cases h
    exact Or.inl ⟨problem, hfault, rfl, rfl⟩
  · cases h
  · split at h
    · rename_i hsuccess
      cases h
      exact Or.inr (Or.inl ⟨hsuccess, rfl, rfl⟩)
    · rename_i hgoing
      exact Or.inr (Or.inr ⟨hgoing, h⟩)

theorem carryOut_cons_of_none {index : Nat} {run : Run} {command : Command} (rest : List Command)
    (hfault : ((run.enterLineOf command).applyCommand command).fault = none)
    (hgoing : ((run.enterLineOf command).applyCommand command).run.outcome = .idle) :
    carryOut index run (command :: rest) =
      carryOut (index + 1) ((run.enterLineOf command).applyCommand command).run rest := by
  rw [carryOut, hfault]
  simp [hgoing]

/-!
## Lines
-/

theorem enterLineOf_of_line_ne {run : Run} {command : Command} (h : run.line ≠ some command.line) :
    run.enterLineOf command = run.enterLine command.line := if_neg h

theorem enterLineOf_of_line_eq {run : Run} {command : Command} (h : run.line = some command.line) :
    run.enterLineOf command = run := if_pos h

@[simp] theorem line_enterLineOf (run : Run) (command : Command) :
    (run.enterLineOf command).line = some command.line := by
  unfold enterLineOf
  split
  · assumption
  · rfl

theorem frame_enterLineOf (run : Run) (command : Command) :
    (run.enterLineOf command).mode = run.mode ∧ (run.enterLineOf command).commands = run.commands ∧
      (run.enterLineOf command).target = run.target ∧
      (run.enterLineOf command).error = run.error ∧
      (run.enterLineOf command).outcome = run.outcome ∧
      (run.enterLineOf command).isRunning = run.isRunning := by
  unfold enterLineOf
  split
  · exact ⟨rfl, rfl, rfl, rfl, rfl, rfl⟩
  · exact ⟨rfl, rfl, rfl, rfl, rfl, rfl⟩

theorem carryOut_enterLineOf (index : Nat) (run : Run) (first : Command) (rest : List Command) :
    carryOut index (run.enterLineOf first) (first :: rest) = carryOut index run (first :: rest) := by
  rw [carryOut, carryOut, enterLineOf_of_line_eq (line_enterLineOf run first)]

/-!
## What stays
-/

/-- What carrying out commands keeps, whatever its ending. -/
structure Stays (before after : Run) : Prop where
  mode : after.mode = before.mode
  commands : after.commands = before.commands
  target : after.target = before.target
  error : after.error = before.error

theorem stays_applyCommand (run : Run) (command : Command) :
    Stays run ((run.enterLineOf command).applyCommand command).run := by
  rcases frame_enterLineOf run command with ⟨hmode, hcommands, htarget, herror, _, _⟩
  have hframe := frame_applyCommand (run.enterLineOf command) command
  exact ⟨hframe.mode.trans hmode, hframe.commands.trans hcommands, hframe.target.trans htarget,
    hframe.error.trans herror⟩

theorem Stays.trans {first second third : Run} (h : Stays first second) (g : Stays second third) :
    Stays first third :=
  ⟨g.mode.trans h.mode, g.commands.trans h.commands, g.target.trans h.target,
    g.error.trans h.error⟩

theorem stays_carryOut {index : Nat} {run final : Run} {commands : List Command} {ending : Ending}
    (h : carryOut index run commands = .ok (final, ending)) : Stays run final := by
  induction commands generalizing index run with
  | nil =>
      cases h
      exact ⟨rfl, rfl, rfl, rfl⟩
  | cons command rest ih =>
      have hstep := stays_applyCommand run command
      rcases carryOut_cons_cases h with ⟨_, _, rfl, _⟩ | ⟨_, rfl, _⟩ | ⟨_, hrest⟩
      · exact hstep
      · exact hstep
      · exact hstep.trans (ih hrest)

theorem outcome_of_complete {index : Nat} {run final : Run} {commands : List Command}
    (h : carryOut index run commands = .ok (final, .complete)) : final.outcome = run.outcome := by
  induction commands generalizing index run with
  | nil =>
      cases h
      rfl
  | cons command rest ih =>
      rcases carryOut_cons_cases h with ⟨_, _, _, hending⟩ | ⟨_, _, hending⟩ | ⟨hgoing, hrest⟩
      · cases hending
      · cases hending
      · rcases goes_applyCommand (run.enterLineOf command) command with hsame | hleft
        · rw [ih hrest, hsame.left, (frame_enterLineOf run command).2.2.2.2.1]
        · exact absurd hleft.left hgoing

theorem isHalted_of_complete {index : Nat} {run final : Run} {commands : List Command}
    (h : carryOut index run commands = .ok (final, .complete)) :
    final.isHalted = run.isHalted := by
  unfold isHalted
  rw [outcome_of_complete h, (stays_carryOut h).error]

theorem line_of_complete {index : Nat} {run final : Run} {commands : List Command}
    (h : carryOut index run commands = .ok (final, .complete)) :
    commands = [] ∧ final.line = run.line ∨
      exists command, command ∈ commands ∧ final.line = some command.line := by
  induction commands generalizing index run with
  | nil =>
      cases h
      exact Or.inl ⟨rfl, rfl⟩
  | cons command rest ih =>
      right
      rcases carryOut_cons_cases h with ⟨_, _, _, hending⟩ | ⟨_, _, hending⟩ | ⟨_, hrest⟩
      · cases hending
      · cases hending
      · rcases ih hrest with ⟨_, hline⟩ | ⟨later, hlater, hline⟩
        · refine ⟨command, by simp, ?_⟩
          rw [hline, (frame_applyCommand _ command).line, line_enterLineOf]
        · exact ⟨later, by simp [hlater], hline⟩

end Run
end Mosaic
