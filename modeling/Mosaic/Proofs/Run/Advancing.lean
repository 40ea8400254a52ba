import Mosaic.Proofs.Run.Returning
import Mosaic.Proofs.Run.Success

/-!
# How far a step leads

A step leaves the counter where it is or sets it forward, and never past the end of the program.
Either it halts the run at one of its commands, or it carries out the last of them and finishes the
run, or there is something left and the run goes on as it was.
-/

namespace Mosaic
namespace Run

/-- A run that is halted by one of the commands from an index on and before another: it stands at a
command with a problem, or behind the one that leads out of the maze. -/
inductive HaltsWithin (first past : Nat) (after : Run) : Prop
  | failed (told : after.error.isSome = true) (outcome : after.outcome = .failure)
      (flag : after.isRunning = false) (onward : first ≤ after.counter) (inside : after.counter < past)
  | left (silent : after.error = none) (outcome : after.outcome = .success)
      (flag : after.isRunning = false) (onward : first < after.counter) (inside : after.counter ≤ past)

inductive Advances (run after : Run) : Prop
  | halted (halted : run.isHalted = true) (same : after = run.stopped)
  | cutShort (going : run.isHalted = false)
      (halts : HaltsWithin run.counter run.commands.length after)
  | finished (going : run.isHalted = false) (silent : after.error = none)
      (outcome : after.outcome ≠ .failure) (flag : after.isRunning = false)
      (counter : after.counter = max run.counter run.commands.length)
  | goesOn (going : run.isHalted = false) (still : after.isHalted = false)
      (flag : after.isRunning = run.isRunning) (onward : run.counter < after.counter)
      (inside : after.counter < run.commands.length)

theorem HaltsWithin.widen {first past before behind : Nat} {after : Run}
    (h : HaltsWithin first past after) (hbefore : before ≤ first) (hbehind : past ≤ behind) :
    HaltsWithin before behind after := by
  cases h with
  | failed told outcome flag onward inside =>
      exact .failed told outcome flag (Nat.le_trans hbefore onward)
        (Nat.lt_of_lt_of_le inside hbehind)
  | left silent outcome flag onward inside =>
      exact .left silent outcome flag (Nat.lt_of_le_of_lt hbefore onward)
        (Nat.le_trans inside hbehind)

theorem HaltsWithin.isHalted {first past : Nat} {after : Run} (h : HaltsWithin first past after) :
    after.isHalted = true := by
  cases h with
  | failed told => exact Bool.or_eq_true_iff.mpr (Or.inl told)
  | left _ outcome => exact isHalted_of_success outcome

theorem HaltsWithin.isRunning {first past : Nat} {after : Run} (h : HaltsWithin first past after) :
    after.isRunning = false := by
  cases h with
  | failed _ _ flag => exact flag
  | left _ _ flag => exact flag

theorem isFinished_iff (run : Run) : run.isFinished = true ↔ run.commands.length ≤ run.counter := by
  unfold isFinished
  rw [List.isEmpty_iff, List.drop_eq_nil_iff]

theorem finished_cases {run : Run} (hgoing : run.isHalted = false) :
    run.finished.error = none ∧ run.finished.outcome ≠ .failure ∧
      run.finished.isRunning = false ∧ run.finished.counter = run.counter := by
  rcases isHalted_eq_false.mp hgoing with ⟨hnone, hidle⟩
  refine ⟨hnone, ?_, rfl, rfl⟩
  rw [outcome_finished hidle]
  split
  · nofun
  · nofun

section Steps

variable {run after : Run}

theorem passDeclarations_counter {commands : List Command} (hgoing : run.isHalted = false)
    (hafter : run.passDeclarations commands = .ok after) :
    after.isRunning = run.isRunning ∧ after.counter =
      run.counter + (commands.takeWhile fun command => command.action.isDeclaration).length := by
  induction commands generalizing run with
  | nil =>
      cases hafter
      exact ⟨rfl, rfl⟩
  | cons command rest ih =>
      rw [passDeclarations] at hafter
      rw [List.takeWhile_cons]
      split at hafter
      · rename_i hdeclaration
        have hcounter := (frame_applyCommand run command).counter
        have hstill := isHalted_declaration hgoing hdeclaration
        have hflag : (run.applyCommand command).run.isRunning = run.isRunning := by
          apply isRunning_applyCommand
          intro hsuccess
          rw [isHalted_of_success hsuccess] at hstill
          cases hstill
        simp only [hcounter] at hafter
        rw [if_pos hdeclaration, List.length_cons]
        split at hafter
        · cases hafter
        · rcases @ih { (run.applyCommand command).run with counter := run.counter + 1 } hstill hafter
            with ⟨hsame, hbehind⟩
          constructor
          · exact hsame.trans hflag
          · rw [hbehind]
            show run.counter + 1 + _ = _
            omega
      · rename_i hother
        cases hafter
        rw [if_neg hother]
        exact ⟨rfl, rfl⟩

theorem runBatch_cases {batch : List Command} (hgoing : run.isHalted = false)
    (hafter : run.runBatch batch = .ok after) :
    HaltsWithin run.counter (run.counter + batch.length) after ∨
      after.isHalted = false ∧ after.isRunning = run.isRunning ∧
        after.counter = run.counter + batch.length := by
  induction batch generalizing run with
  | nil =>
      cases hafter
      exact Or.inr ⟨hgoing, rfl, rfl⟩
  | cons command rest ih =>
      have hframe := frame_applyCommand run command
      rw [runBatch] at hafter
      simp only [hframe.counter] at hafter
      rw [List.length_cons]
      split at hafter
      · cases hafter
        left
        refine .failed rfl rfl rfl (Nat.le_refl _) ?_
        show run.counter < _
        omega
      · cases hafter
      · split at hafter
        · rename_i hsuccess
          cases hafter
          left
          have hsilent := hframe.error.trans (isHalted_eq_false.mp hgoing).left
          refine .left hsilent hsuccess rfl (Nat.lt_succ_self _) ?_
          show run.counter + 1 ≤ _
          omega
        · rename_i hstays
          have hlength : run.counter + 1 + rest.length = run.counter + (rest.length + 1) := by omega
          have hnext := @ih { (run.applyCommand command).run with counter := run.counter + 1 }
            (isHalted_applyCommand hgoing hstays) hafter
          simp only [isRunning_applyCommand hstays, hlength] at hnext
          rcases hnext with hhalts | hpassed
          · exact Or.inl (hhalts.widen (Nat.le_succ _) (Nat.le_refl _))
          · exact Or.inr hpassed

theorem length_ahead (run : Run) :
    ((run.commands.drop run.counter).takeWhile fun command => command.action.isDeclaration).length +
        ((run.commands.drop run.counter).dropWhile
          fun command => command.action.isDeclaration).length =
      run.commands.length - run.counter := by
  rw [← List.length_append, List.takeWhile_append_dropWhile, List.length_drop]

theorem advances_of_line (hgoing : run.isHalted = false) (hstill : after.isHalted = false)
    (hcommands : after.commands = run.commands) (hflag : after.isRunning = run.isRunning)
    (honward : run.counter < after.counter) (hinside : after.counter ≤ run.commands.length) :
    Advances run (if after.isFinished then after.finished else after) := by
  have hfinished := isFinished_iff after
  rw [hcommands] at hfinished
  split
  · rename_i hend
    rcases finished_cases hstill with ⟨hsilent, houtcome, hdown, hsame⟩
    refine .finished hgoing hsilent houtcome hdown ?_
    have hall := hfinished.mp hend
    rw [hsame]
    omega
  · rename_i hmore
    have hleft := mt hfinished.mpr hmore
    exact .goesOn hgoing hstill hflag honward (by omega)

theorem advances_of_batch {ready last : Run} {batch : List Command} (hgoing : run.isHalted = false)
    (hstill : ready.isHalted = false) (hflag : ready.isRunning = run.isRunning)
    (honward : run.counter ≤ ready.counter) (hne : batch ≠ [])
    (hinside : ready.counter + batch.length ≤ run.commands.length)
    (hcommands : last.commands = run.commands) (hlast : ready.runBatch batch = .ok last) :
    Advances run (if !last.isHalted && last.isFinished then last.finished else last) := by
  have hlength := List.length_pos_iff.mpr hne
  rcases runBatch_cases hstill hlast with hhalts | ⟨hlastGoing, hsame, hbehind⟩
  · rw [hhalts.isHalted]
    exact .cutShort hgoing (hhalts.widen honward hinside)
  · rw [hlastGoing, Bool.not_false, Bool.true_and]
    exact advances_of_line hgoing hlastGoing hcommands (hsame.trans hflag) (by omega) (by omega)

/-- Wherever a step leads, it is one of the four. -/
theorem advances_of_step (h : run.step = .ok after) : Advances run after := by
  cases hgoing : run.isHalted with
  | true =>
      rw [step_of_halted hgoing] at h
      cases h
      exact .halted hgoing rfl
  | false =>
      cases hready : run.passDeclarations (run.commands.drop run.counter) with
      | error fault =>
          rw [step, hgoing] at h
          simp only [Bool.false_eq_true, if_false, hready] at h
          cases h
      | ok ready =>
          have hown : forall command, command ∈ run.commands.drop run.counter ->
              command ∈ run.commands := fun command hcommand => List.mem_of_mem_drop hcommand
          rcases (steady_commands run).enduring.passDeclarations hown rfl hgoing hready with
            ⟨_, hstill, _⟩
          rcases passDeclarations_counter hgoing hready with ⟨hflag, hcounter⟩
          have hlength := length_ahead run
          cases hahead : (run.commands.drop run.counter).dropWhile
              (fun command => command.action.isDeclaration) with
          | nil =>
              rw [step_of_declarations hgoing hready hahead] at h
              cases h
              rw [hahead, List.length_nil] at hlength
              rcases finished_cases hstill with ⟨hsilent, houtcome, hdown, hsame⟩
              refine .finished hgoing hsilent houtcome hdown ?_
              rw [hsame, hcounter]
              omega
          | cons first rest =>
              have hcommands := (steady_commands run).step rfl h
              rw [step_of_line hgoing hready hahead] at h
              rcases Attempts.bind_eq_ok_iff.mp h with ⟨last, hlast, hafter⟩
              cases hafter
              have hlastCommands : last.commands = run.commands := by
                rw [← hcommands]
                split
                · rfl
                · rfl
              have hfits : (rest.takeWhile fun command => command.line == first.line).length ≤
                  rest.length := (List.takeWhile_sublist _).length_le
              rw [hahead, List.length_cons] at hlength
              refine @advances_of_batch run (ready.enterLine first.line) last _ hgoing hstill hflag
                ?_ (List.cons_ne_nil _ _) ?_ hlastCommands hlast
              · show run.counter ≤ ready.counter
                omega
              · rw [List.length_cons]
                show ready.counter + _ ≤ _
                omega

end Steps
end Run
end Mosaic
