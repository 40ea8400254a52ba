import Mosaic.Proofs.Attempts
import Mosaic.Proofs.Workbench.Request
import Mosaic.Random.Twister

/-!
# Workbenches that can be reached

A workbench is set up with settings that have been checked, and then goes from request to request.
No request changes the settings, so they are in order on every workbench that can be reached.
-/

namespace Mosaic
namespace Operation

variable {σ α β : Type}

/-- An operation that leaves the settings as they are, whether it is granted or refused. -/
def KeepsSettings (operation : Operation σ α) : Prop :=
  forall bench, (operation.on bench).2.settings = bench.settings

theorem keepsSettings_pure (value : α) : KeepsSettings (pure value : Operation σ α) := fun _ => rfl

theorem keepsSettings_throw (fault : Fault) : KeepsSettings (throw fault : Operation σ α) :=
  fun _ => rfl

theorem keepsSettings_get : KeepsSettings (get : Operation σ (Workbench σ)) := fun _ => rfl

theorem keepsSettings_modify {change : Workbench σ -> Workbench σ}
    (h : forall bench, (change bench).settings = bench.settings) :
    KeepsSettings (modify change : Operation σ Unit) := h

theorem keepsSettings_bind {operation : Operation σ α} {next : α -> Operation σ β}
    (h : operation.KeepsSettings) (hnext : forall value, (next value).KeepsSettings) :
    KeepsSettings (operation >>= next) := by
  intro bench
  refine Workbench.kept_bind (fun after => after.settings = bench.settings) (h bench) ?_
  intro value between hbetween
  exact (hnext value between).trans hbetween

theorem keepsSettings_discard {operation : Operation σ α} (h : operation.KeepsSettings) :
    KeepsSettings (discard operation) := by
  intro bench
  rw [Workbench.on_discard]
  exact h bench

end Operation

namespace Workbench

open Operation

variable {σ α : Type}

theorem keepsSettings_attempt (result : Except Fault α) :
    KeepsSettings (attempt result : Operation σ α) := by
  intro bench
  rw [on_attempt]

theorem keepsSettings_setRun (run : Run) : KeepsSettings (setRun run : Operation σ Unit) :=
  fun _ => rfl

theorem keepsSettings_setSource (source : String) :
    KeepsSettings (setSource source : Operation σ Unit) := fun _ => rfl

theorem keepsSettings_drawing (draw : Draw σ α) : KeepsSettings (drawing draw) := fun _ => rfl

theorem keepsSettings_timing (operation : Timing α) :
    KeepsSettings (timing operation : Operation σ α) := by
  intro bench
  rw [on_timing]

theorem keepsSettings_forbidDuringChallenge (action : String) :
    KeepsSettings (forbidDuringChallenge action : Operation σ Unit) := by
  intro bench
  rw [on_forbidDuringChallenge]

theorem keepsSettings_changeRun (change : Run -> Except Fault Run) :
    KeepsSettings (changeRun change : Operation σ Run) :=
  keepsSettings_bind keepsSettings_get fun _ =>
    keepsSettings_bind (keepsSettings_attempt _) fun _ =>
      keepsSettings_bind (keepsSettings_setRun _) fun _ => keepsSettings_pure _

theorem keepsSettings_load (source : Option String) (asTarget : Bool) :
    KeepsSettings (load source asTarget : Operation σ Run) := by
  intro bench
  rw [on_load]
  exact keepsSettings_changeRun _ { bench with source := source.getD bench.source }

theorem keepsSettings_putTarget (target : Option Grid) (code : Option String) :
    KeepsSettings (putTarget target code : Operation σ Run) :=
  keepsSettings_bind keepsSettings_get fun _ =>
    keepsSettings_bind (keepsSettings_attempt _) fun _ => keepsSettings_changeRun _

theorem keepsSettings_setTarget (target : Document) (code : Option String) :
    KeepsSettings (setTarget target code : Operation σ Run) := by
  intro bench
  by_cases hmode : bench.run.mode = .maze
  · rw [on_setTarget_of_maze hmode]
  · rw [on_setTarget hmode]
    cases readTarget bench.run.mode target with
    | ok grid => rfl
    | error fault => rfl

theorem keepsSettings_applyGoal (goal : Goal) :
    KeepsSettings (applyGoal goal : Operation σ Unit) := by
  unfold applyGoal
  split
  · exact keepsSettings_discard (keepsSettings_changeRun _)
  · exact keepsSettings_discard (keepsSettings_putTarget _ _)

theorem keepsSettings_saveSession : KeepsSettings (saveSession : Operation σ String) := by
  unfold saveSession
  refine keepsSettings_bind keepsSettings_get fun bench => ?_
  split
  · exact keepsSettings_pure _
  · exact keepsSettings_throw _

theorem keepsSettings_restoreSession (text : String) :
    KeepsSettings (restoreSession text : Operation σ Run) := by
  unfold restoreSession
  refine keepsSettings_bind (keepsSettings_forbidDuringChallenge _) fun _ => ?_
  refine keepsSettings_bind (keepsSettings_attempt _) fun session => ?_
  refine keepsSettings_bind keepsSettings_get fun bench => ?_
  have hrest : KeepsSettings (do
      setSource session.1
      discard (changeRun fun run => run.load session.1 false)
      changeRun fun run =>
        .ok { run with maze := some session.2, mazeScore := session.2.collectedValue } :
      Operation σ Run) :=
    keepsSettings_bind (keepsSettings_setSource _) fun _ =>
      keepsSettings_bind (keepsSettings_discard (keepsSettings_changeRun _)) fun _ =>
        keepsSettings_changeRun _
  simp only
  split
  · exact keepsSettings_bind (keepsSettings_setRun _) fun _ => hrest
  · exact hrest

variable [RandomSource σ]

theorem keepsSettings_reset (newMaze : Bool) :
    KeepsSettings (reset newMaze : Operation σ Run) := by
  unfold reset
  refine keepsSettings_bind keepsSettings_get fun bench => ?_
  split
  · exact keepsSettings_bind (keepsSettings_drawing _) fun _ => keepsSettings_changeRun _
  · exact keepsSettings_changeRun _

theorem keepsSettings_setMode (mode : Document) :
    KeepsSettings (setMode mode : Operation σ Run) :=
  keepsSettings_bind (keepsSettings_forbidDuringChallenge _) fun _ =>
    keepsSettings_bind (keepsSettings_setSource _) fun _ =>
      keepsSettings_bind (keepsSettings_attempt _) fun _ =>
        keepsSettings_bind (keepsSettings_drawing _) fun _ =>
          keepsSettings_bind (keepsSettings_setRun _) fun _ =>
            keepsSettings_bind keepsSettings_get fun _ => keepsSettings_pure _

theorem keepsSettings_newGoal : KeepsSettings (newGoal : Operation σ Run) :=
  keepsSettings_bind (keepsSettings_forbidDuringChallenge _) fun _ =>
    keepsSettings_bind keepsSettings_get fun _ =>
      keepsSettings_bind (keepsSettings_drawing _) fun _ =>
        keepsSettings_bind (keepsSettings_attempt _) fun _ =>
          keepsSettings_bind (keepsSettings_applyGoal _) fun _ =>
            keepsSettings_bind keepsSettings_get fun _ => keepsSettings_pure _

theorem keepsSettings_startChallenge : KeepsSettings (startChallenge : Operation σ Goal) :=
  keepsSettings_bind keepsSettings_get fun _ =>
    keepsSettings_bind (keepsSettings_attempt _) fun _ =>
      keepsSettings_bind (keepsSettings_drawing _) fun _ =>
        keepsSettings_bind (keepsSettings_attempt _) fun _ =>
          keepsSettings_bind (keepsSettings_applyGoal _) fun _ =>
            keepsSettings_bind (keepsSettings_timing _) fun _ => keepsSettings_pure _

theorem settings_perform (request : Request) (bench : Workbench σ) :
    (request.perform bench).settings = bench.settings := by
  have hkeeps : KeepsSettings (request.operation : Operation σ Unit) := by
    unfold Request.operation
    cases request with
    | load source asTarget => exact keepsSettings_discard (keepsSettings_load source asTarget)
    | step => exact keepsSettings_discard (keepsSettings_changeRun _)
    | resume => exact keepsSettings_discard (keepsSettings_changeRun _)
    | stop => exact keepsSettings_discard (keepsSettings_changeRun _)
    | reset newMaze => exact keepsSettings_discard (keepsSettings_reset newMaze)
    | runToHalt maxSteps => exact keepsSettings_discard (keepsSettings_changeRun _)
    | setMode mode => exact keepsSettings_discard (keepsSettings_setMode mode)
    | setSource source => exact keepsSettings_setSource source
    | setTarget target code => exact keepsSettings_discard (keepsSettings_setTarget target code)
    | newGoal => exact keepsSettings_discard keepsSettings_newGoal
    | startChallenge => exact keepsSettings_discard keepsSettings_startChallenge
    | stopChallenge => exact keepsSettings_modify fun _ => rfl
    | tick =>
        refine keepsSettings_discard (keepsSettings_bind keepsSettings_get fun _ => ?_)
        exact keepsSettings_bind (keepsSettings_modify fun _ => rfl) fun _ => keepsSettings_pure _
    | saveSession => exact keepsSettings_discard keepsSettings_saveSession
    | restoreSession text => exact keepsSettings_discard (keepsSettings_restoreSession text)
    | score => exact keepsSettings_pure ()
    | report => exact keepsSettings_pure ()
  exact hkeeps bench

/-!
## From request to request
-/

/-- A workbench that was set up with settings in order, and has been used since. -/
inductive Reachable : Workbench σ -> Prop
  | created {settings : Settings} {chance : σ} {mode : Mode} {bench : Workbench σ}
      (checked : settings.checked = .ok settings)
      (opened : create settings chance mode = .ok bench) : Reachable bench
  | performed {bench : Workbench σ} (request : Request) (before : Reachable bench) :
      Reachable (request.perform bench)

theorem settings_create {settings : Settings} {chance : σ} {mode : Mode} {bench : Workbench σ}
    (h : create settings chance mode = .ok bench) : bench.settings = settings := by
  unfold create at h
  rcases Attempts.bind_eq_ok_iff.mp h with ⟨challenge, _, hbench⟩
  cases Attempts.pure_eq_ok_iff.mp hbench
  rfl

theorem Reachable.checked {bench : Workbench σ} (h : bench.Reachable) :
    bench.settings.checked = .ok bench.settings := by
  induction h with
  | created checked opened => rwa [settings_create opened]
  | performed request before ih => rwa [settings_perform]

theorem time_of_checked {settings : Settings} (h : settings.checked = .ok settings) :
    0 < settings.secondsPerRow ∧ 0 < settings.mazeBudget := by
  unfold Settings.checked at h
  split at h
  · cases h
  · split at h
    · cases h
    · rename_i htime
      simp only [Bool.or_eq_true, decide_eq_true_eq, not_or, Int.not_le] at htime
      exact htime

def usualSettings : Settings where
  stepInterval := Settings.usualStepInterval
  secondsPerRow := Settings.usualSecondsPerRow
  lockout := Settings.usualLockout
  mazeBudget := Settings.usualMazeBudget

theorem exists_idleTable : exists bench : Workbench Twister, bench.Reachable ∧ bench.source = "" ∧
    bench.run = .start .table none ∧ bench.challenge.active = false := by
  have hcreate : exists bench, create usualSettings (Twister.ofSeed 7) .table = .ok bench ∧
      bench.source = "" ∧ bench.run = .start .table none ∧ bench.challenge.active = false :=
    ⟨_, rfl, rfl, rfl, rfl⟩
  rcases hcreate with ⟨bench, hbench, hsource, hrun, hidle⟩
  exact ⟨bench, .created rfl hbench, hsource, hrun, hidle⟩

end Workbench
end Mosaic
