import Mosaic.Proofs.Attempts
import Mosaic.Proofs.Run.Scene
import Mosaic.Run.Stepping

/-!
# What no step takes away

A step is made of commands that are carried out and of notes that the run takes: how far it has come,
which line it is on, whether it is running and how it has ended.  A property that all of these leave
alone holds behind every step, and so behind every row of steps.
-/

namespace Mosaic
namespace Run

/-- A property of runs that nothing within a step takes away, as far as the step carries out commands
of the run. -/
structure Enduring (P : Run -> Prop) : Prop where
  command : forall {run : Run} {command : Command}, command ∈ run.commands ->
    run.isHalted = false -> P run -> P (run.applyCommand command).run
  counted : forall {run : Run} (counter : Nat), P run -> P { run with counter := counter }
  entered : forall {run : Run} (line : Int), P run -> P (run.enterLine line)
  flagged : forall {run : Run} (flag : Bool), P run -> P { run with isRunning := flag }
  failed : forall {run : Run} (problem : Problem), P run ->
    P { run with error := some problem, outcome := .failure, isRunning := false }
  finished : forall {run : Run}, run.isHalted = false -> P run -> P run.finished

/-- A property of runs that nothing within a step takes away, whatever commands are carried out. -/
structure Steady (P : Run -> Prop) : Prop where
  command : forall {run : Run} (command : Command), run.isHalted = false -> P run ->
    P (run.applyCommand command).run
  counted : forall {run : Run} (counter : Nat), P run -> P { run with counter := counter }
  entered : forall {run : Run} (line : Int), P run -> P (run.enterLine line)
  flagged : forall {run : Run} (flag : Bool), P run -> P { run with isRunning := flag }
  failed : forall {run : Run} (problem : Problem), P run ->
    P { run with error := some problem, outcome := .failure, isRunning := false }
  finished : forall {run : Run}, P run -> P run.finished

theorem Steady.enduring {P : Run -> Prop} (h : Steady P) : Enduring P where
  command _ hgoing hrun := h.command _ hgoing hrun
  counted := h.counted
  entered := h.entered
  flagged := h.flagged
  failed := h.failed
  finished _ hrun := h.finished hrun

theorem isHalted_applyCommand {run : Run} {command : Command} (hgoing : run.isHalted = false)
    (hstays : (run.applyCommand command).run.outcome ≠ .success) :
    (run.applyCommand command).run.isHalted = false := by
  rcases isHalted_eq_false.mp hgoing with ⟨hnone, hidle⟩
  rw [isHalted_eq_false, (frame_applyCommand run command).error]
  rcases goes_applyCommand run command with hsame | hleft
  · exact ⟨hnone, hsame.left.trans hidle⟩
  · exact absurd hleft.left hstays

theorem isHalted_declaration {run : Run} {command : Command} (hgoing : run.isHalted = false)
    (hdeclaration : command.action.isDeclaration = true) :
    (run.applyCommand command).run.isHalted = false := by
  rcases command with ⟨line, action⟩
  cases action with
  | declare rows columns =>
      rcases (paints_declared rows columns).repainted run with ⟨_, _, _, _, hafter⟩
      show (run.declared rows columns).run.isHalted = false
      rw [hafter]
      exact hgoing
  | _ => cases hdeclaration

section Steps

variable {P : Run -> Prop} {run after : Run}

theorem stepWhileRunning_keeps
    (hstep : forall before behind : Run, P before -> before.step = .ok behind -> P behind)
    {steps : Nat} (hrun : P run) (hafter : Run.stepWhileRunning steps run = .ok after) : P after := by
  induction steps generalizing run with
  | zero =>
      cases hafter
      exact hrun
  | succ steps ih =>
      rw [stepWhileRunning] at hafter
      split at hafter
      · rcases Attempts.bind_eq_ok_iff.mp hafter with ⟨next, hnext, hafter⟩
        exact ih (hstep run next hrun hnext) hafter
      · cases hafter
        exact hrun

theorem runToHalt_keeps
    (hstep : forall before behind : Run, P before -> before.step = .ok behind -> P behind)
    (hstopped : forall before : Run, P before -> P before.stopped) {maxSteps : Int}
    (hresumed : P run.resumed) (hafter : run.runToHalt maxSteps = .ok after) : P after := by
  unfold runToHalt at hafter
  split at hafter
  · cases hafter
  · rcases Attempts.bind_eq_ok_iff.mp hafter with ⟨last, hlast, hafter⟩
    rw [← Attempts.pure_eq_ok_iff.mp hafter]
    exact hstopped last (stepWhileRunning_keeps hstep hresumed hlast)

theorem Steady.inMode (h : Steady P) (mode : Mode) : Steady fun run => run.mode = mode -> P run where
  command command hgoing hrun hmode :=
    h.command command hgoing (hrun ((frame_applyCommand _ command).mode.symm.trans hmode))
  counted counter hrun hmode := h.counted counter (hrun hmode)
  entered line hrun hmode := h.entered line (hrun hmode)
  flagged flag hrun hmode := h.flagged flag (hrun hmode)
  failed problem hrun hmode := h.failed problem (hrun hmode)
  finished hrun hmode := h.finished (hrun hmode)

namespace Enduring

theorem passDeclarations (h : Enduring P) {commands : List Command}
    (hown : forall command, command ∈ commands -> command ∈ run.commands) (hrun : P run)
    (hgoing : run.isHalted = false) (hafter : run.passDeclarations commands = .ok after) :
    P after ∧ after.isHalted = false ∧ after.commands = run.commands := by
  induction commands generalizing run with
  | nil =>
      cases hafter
      exact ⟨hrun, hgoing, rfl⟩
  | cons command rest ih =>
      have hsame := (frame_applyCommand run command).commands
      rw [Run.passDeclarations] at hafter
      split at hafter
      · rename_i hdeclaration
        simp only at hafter
        split at hafter
        · cases hafter
        · have hcounted := h.counted ((run.applyCommand command).run.counter + 1)
            (h.command (hown command (by simp)) hgoing hrun)
          have hstill := isHalted_declaration hgoing hdeclaration
          rcases ih (fun other hother => hsame.symm ▸ hown other (by simp [hother])) hcounted hstill
            hafter with ⟨hpassed, hlast, hcommands⟩
          exact ⟨hpassed, hlast, hcommands.trans hsame⟩
      · cases hafter
        exact ⟨hrun, hgoing, rfl⟩

theorem runBatch (h : Enduring P) {batch : List Command}
    (hown : forall command, command ∈ batch -> command ∈ run.commands) (hrun : P run)
    (hgoing : run.isHalted = false) (hafter : run.runBatch batch = .ok after) : P after := by
  induction batch generalizing run with
  | nil =>
      cases hafter
      exact hrun
  | cons command rest ih =>
      have hsame := (frame_applyCommand run command).commands
      have hcarried := h.command (hown command (by simp)) hgoing hrun
      have hcounted := h.counted ((run.applyCommand command).run.counter + 1) hcarried
      rw [Run.runBatch] at hafter
      simp only at hafter
      split at hafter
      · cases hafter
        exact h.failed _ hcarried
      · cases hafter
      · split at hafter
        · cases hafter
          exact h.flagged false hcounted
        · rename_i hstays
          exact ih (fun other hother => hsame.symm ▸ hown other (by simp [hother])) hcounted
            (isHalted_applyCommand hgoing hstays) hafter

theorem step (h : Enduring P) (hrun : P run) (hafter : run.step = .ok after) : P after := by
  unfold Run.step at hafter
  split at hafter
  · cases hafter
    exact h.flagged false hrun
  · rename_i hgoing
    rw [Bool.not_eq_true] at hgoing
    simp only at hafter
    have hahead : forall command, command ∈ run.commands.drop run.counter ->
        command ∈ run.commands := fun command hcommand => List.mem_of_mem_drop hcommand
    rcases Attempts.bind_eq_ok_iff.mp hafter with ⟨ready, hready, hafter⟩
    rcases h.passDeclarations hahead hrun hgoing hready with ⟨hpassed, hstill, hcommands⟩
    split at hafter
    · rw [← Attempts.pure_eq_ok_iff.mp hafter]
      exact h.finished hstill hpassed
    · rename_i first rest hrest
      rcases Attempts.bind_eq_ok_iff.mp hafter with ⟨last, hlast, hafter⟩
      have hbatch : P last := by
        refine h.runBatch ?_ (h.entered _ hpassed) hstill hlast
        intro command hcommand
        have htaken := List.mem_of_mem_take hcommand
        rw [← hrest] at htaken
        show command ∈ ready.commands
        rw [hcommands]
        exact hahead command ((List.dropWhile_sublist _).mem htaken)
      rw [← Attempts.pure_eq_ok_iff.mp hafter]
      split
      · rename_i hended
        rw [Bool.and_eq_true, Bool.not_eq_true'] at hended
        exact h.finished hended.left hbatch
      · exact hbatch

theorem stepWhileRunning (h : Enduring P) {steps : Nat} (hrun : P run)
    (hafter : Run.stepWhileRunning steps run = .ok after) : P after :=
  stepWhileRunning_keeps (fun _ _ hbefore hnext => h.step hbefore hnext) hrun hafter

theorem runToHalt (h : Enduring P) {maxSteps : Int} (hrun : P run)
    (hafter : run.runToHalt maxSteps = .ok after) : P after :=
  runToHalt_keeps (fun _ _ hbefore hnext => h.step hbefore hnext)
    (fun _ hbefore => h.flagged false hbefore) (h.flagged _ hrun) hafter

end Enduring

namespace Steady

theorem step (h : Steady P) (hrun : P run) (hafter : run.step = .ok after) : P after :=
  h.enduring.step hrun hafter

theorem runToHalt (h : Steady P) {maxSteps : Int} (hrun : P run)
    (hafter : run.runToHalt maxSteps = .ok after) : P after :=
  h.enduring.runToHalt hrun hafter

end Steady

end Steps
end Run
end Mosaic
