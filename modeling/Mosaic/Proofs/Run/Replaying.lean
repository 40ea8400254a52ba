import Mosaic.Run.Replay
import Mosaic.Proofs.Run.Faults

/-!
# Replays

A replay leaves out the commands that fail, so the problems of a program do not stop it.  What stops
it is a strip of GRID whose row or column cannot be put into words, also when the place was reached
past other commands that failed.
-/

namespace Mosaic
namespace Run

theorem mode_replayCommand {run after : Run} {command : Command}
    (h : run.replayCommand command = .ok after) : after.mode = run.mode := by
  have hstays := stays_applyCommand run command
  unfold replayCommand at h
  simp only at h
  split at h
  · cases h
    exact hstays.mode
  · cases h
    exact hstays.mode
  · cases h

theorem fits_replayCommand {run after : Run} {command : Command} (hfits : run.Fits)
    (hallowed : run.mode.Allows command.action) (h : run.replayCommand command = .ok after) :
    after.Fits := by
  have hentered := fits_enterLineOf hfits command
  have hmode := mode_replayCommand h
  have hbehaves := behaves_apply hentered
    (by rw [(frame_enterLineOf run command).left]; exact hallowed) command.line
  have hcarried : ((run.enterLineOf command).applyCommand command).run.Fits := hbehaves.fits
  have hstays := stays_applyCommand run command
  unfold replayCommand at h
  simp only at h
  split at h
  · cases h
    exact hcarried
  · cases h
    -- the maze is the one of the failed command, all else is the picture from before
    unfold Fits at hentered hcarried ⊢
    rw [(frame_enterLineOf run command).left] at hentered
    rw [hstays.mode] at hcarried
    simp only [hstays.mode]
    cases hcase : run.mode with
    | maze =>
        rw [hcase] at hcarried
        exact hcarried
    | table =>
        rw [hcase] at hentered
        exact hentered
    | grid =>
        rw [hcase] at hentered
        exact hentered
    | matrix =>
        rw [hcase] at hentered
        exact hentered
    | pixel => trivial
  · cases h

theorem replayCommand_of_cannotName {run : Run} {command : Command}
    (h : run.CannotName command.action) :
    run.replayCommand command = .error (.numeral .tooLarge) := by
  have hfault := fault_of_cannotName ((cannotName_enterLineOf run command _).mpr h) command.line
  unfold replayCommand applyCommand
  simp only [hfault]

theorem cannotName_of_replayCommand {run : Run} {command : Command} {fault : Fault}
    (hfits : run.Fits) (hallowed : run.mode.Allows command.action)
    (h : run.replayCommand command = .error fault) : run.CannotName command.action := by
  have hbehaves := behaves_apply (fits_enterLineOf hfits command)
    (by rw [(frame_enterLineOf run command).left]; exact hallowed) command.line
  unfold replayCommand applyCommand at h
  simp only at h
  split at h
  · cases h
  · cases h
  · rename_i hother hfault
    rcases hbehaves.fault _ hfault with ⟨problem, rfl⟩ | ⟨_, hname⟩
    · exact absurd rfl (hother problem)
    · exact (cannotName_enterLineOf run command _).mp hname

theorem foldlM_replayCommand_fits {commands : List Command} {run after : Run} (hfits : run.Fits)
    (hallowed : forall command, command ∈ commands -> run.mode.Allows command.action)
    (h : commands.foldlM replayCommand run = .ok after) :
    after.Fits ∧ after.mode = run.mode := by
  induction commands generalizing run with
  | nil =>
      cases h
      exact ⟨hfits, rfl⟩
  | cons command rest ih =>
      rw [List.foldlM_cons] at h
      rcases Attempts.bind_eq_ok_iff.mp h with ⟨next, hnext, hrest⟩
      have hmode := mode_replayCommand hnext
      have hafter := ih (fits_replayCommand hfits (hallowed command (by simp)) hnext)
        (by
          intro other hother
          rw [hmode]
          exact hallowed other (by simp [hother])) hrest
      exact ⟨hafter.left, by rw [hafter.right, hmode]⟩

end Run

namespace Program

/-- Some command fails at a row or column that cannot be written, in the replay up to it. -/
def ReplayStumbles (program : Program) : Prop :=
  exists before command after reached, program.commands = before ++ command :: after ∧
    before.foldlM Run.replayCommand program.blankRun = .ok reached ∧
      reached.CannotName command.action

theorem replayStumbles_of_foldlM {program : Program} (h : program.WellFormed) {fault : Fault}
    (hfault : program.commands.foldlM Run.replayCommand program.blankRun = .error fault) :
    program.ReplayStumbles := by
  rcases Attempts.foldlM_eq_error_iff.mp hfault with
    ⟨before, command, after, reached, happend, hbefore, hcommand⟩
  have hne : program.commands ≠ [] := by
    rw [happend]
    simp
  have hblank : program.blankRun.Fits :=
    Run.fits_of_wellFormed h hne rfl rfl (by
      intro _ maze hmaze
      cases hmaze)
  have hallowed : forall other, other ∈ before ++ command :: after ->
      program.mode.Allows other.action := by
    rw [← happend]
    exact h.allowed
  rcases Run.foldlM_replayCommand_fits hblank
    (fun other hother => hallowed other (by simp [hother])) hbefore with ⟨hreached, hmode⟩
  refine ⟨before, command, after, reached, happend, hbefore, ?_⟩
  refine Run.cannotName_of_replayCommand hreached ?_ hcommand
  rw [hmode]
  exact hallowed command (by simp)

theorem foldlM_of_replayStumbles {program : Program} (h : program.ReplayStumbles) :
    program.commands.foldlM Run.replayCommand program.blankRun = .error (.numeral .tooLarge) := by
  rcases h with ⟨before, command, after, reached, happend, hbefore, hname⟩
  exact Attempts.foldlM_eq_error_iff.mpr
    ⟨before, command, after, reached, happend, hbefore, Run.replayCommand_of_cannotName hname⟩

/-- A loaded program of a mode with a grid is replayed to the end unless it stumbles. -/
theorem replay_isOk_iff {program : Program} (h : program.WellFormed)
    (hmode : program.mode ≠ .maze) :
    (exists target, program.replay = .ok target) ↔ Not program.ReplayStumbles := by
  unfold replay
  rw [if_neg hmode]
  constructor
  · intro hgiven
    rcases hgiven with ⟨target, htarget⟩
    intro hstumbles
    rw [foldlM_of_replayStumbles hstumbles] at htarget
    cases htarget
  · intro hclear
    cases hfold : program.commands.foldlM Run.replayCommand program.blankRun with
    | ok final => exact ⟨final.grid, rfl⟩
    | error fault => exact absurd (replayStumbles_of_foldlM h hfold) hclear

end Program
end Mosaic
