import Mosaic.Proofs.Run.Advancing

/-!
# Pauses

A run that is stopped on its way and carried on later comes to the same as one that is not.  Within a
run to the halt the running flag is up as long as anything is left to run, so stopping and resuming
give it back as it was.  Steps do not look at the flag, and so it is the only thing that may depend
on when a run was stopped and resumed between its steps.
-/

namespace Mosaic
namespace Run

/-!
## Runs to the halt
-/

/-- A run whose flag is up exactly if there is something left to run. -/
def IsFlagged (run : Run) : Prop := run.isRunning = (!run.isHalted && !run.isFinished)

theorem isFlagged_resumed (run : Run) : run.resumed.IsFlagged := rfl

theorem IsFlagged.resumed_stopped {run : Run} (h : run.IsFlagged) : run.stopped.resumed = run := by
  show { run with isRunning := !run.isHalted && !run.isFinished } = run
  rw [← h]

theorem isFlagged_of_halted {run : Run} (hhalted : run.isHalted = true)
    (hflag : run.isRunning = false) : run.IsFlagged := by
  unfold IsFlagged
  rw [hhalted, hflag]
  rfl

theorem isFlagged_of_finished {run : Run} (hfinished : run.isFinished = true)
    (hflag : run.isRunning = false) : run.IsFlagged := by
  unfold IsFlagged
  rw [hfinished, hflag, Bool.not_true, Bool.and_false]

theorem IsFlagged.step {run after : Run} (h : run.IsFlagged) (hafter : run.step = .ok after) :
    after.IsFlagged := by
  have hcommands : after.commands = run.commands := (steady_commands run).step rfl hafter
  cases advances_of_step hafter with
  | halted halted same =>
      rw [same]
      exact isFlagged_of_halted halted rfl
  | cutShort going halts => exact isFlagged_of_halted halts.isHalted halts.isRunning
  | finished going silent outcome flag counter =>
      refine isFlagged_of_finished ((isFinished_iff after).mpr ?_) flag
      rw [counter, hcommands]
      exact Nat.le_max_right _ _
  | goesOn going still flag onward inside =>
      have hmore : forall other : Run, other.commands = run.commands ->
          other.counter < run.commands.length -> other.isFinished = false := by
        intro other hsame hless
        rw [Bool.eq_false_iff, Ne, isFinished_iff, hsame]
        exact Nat.not_le.mpr hless
      unfold IsFlagged at h ⊢
      rw [flag, h, going, still, hmore run rfl (Nat.lt_trans onward inside),
        hmore after hcommands inside]

theorem stepWhileRunning_add (first second : Nat) (run : Run) :
    stepWhileRunning (first + second) run =
      stepWhileRunning first run >>= stepWhileRunning second := by
  induction first generalizing run with
  | zero =>
      rw [Nat.zero_add]
      rfl
  | succ first ih =>
      rw [Nat.succ_add, stepWhileRunning, stepWhileRunning]
      cases hrunning : run.isRunning with
      | false => exact (stepWhileRunning_of_stopped hrunning second).symm
      | true =>
          simp only [if_true]
          cases run.step with
          | error fault => rfl
          | ok next => exact ih next

/-- A run with a pause after some of its steps is a run with all of them. -/
theorem runToHalt_add (run : Run) {first second : Int} (hfirst : 1 ≤ first) (hsecond : 1 ≤ second) :
    (run.runToHalt first >>= fun paused => paused.runToHalt second) =
      run.runToHalt (first + second) := by
  have hsteps : (first + second).toNat = first.toNat + second.toNat := by omega
  unfold runToHalt
  rw [if_neg (by omega), if_neg (by omega), hsteps, stepWhileRunning_add]
  cases hreached : stepWhileRunning first.toNat run.resumed with
  | error fault => rfl
  | ok reached =>
      have hflagged : reached.IsFlagged := stepWhileRunning_keeps
        (fun _ _ hbefore hnext => hbefore.step hnext) (isFlagged_resumed run) hreached
      show (if second ≤ 0 then _ else _) = _
      rw [if_neg (by omega), hflagged.resumed_stopped]
      rfl

/-!
## Steps without the flag

Two runs that differ in their flags at most are the same run once both are stopped.
-/

theorem eq_of_stopped {α : Type} {run other : Run} (view : Run -> α)
    (hview : forall run : Run, view run.stopped = view run) (h : run.stopped = other.stopped) :
    view run = view other := by
  rw [← hview run, ← hview other, h]

theorem stopped_eq_iff {run other : Run} :
    run.stopped = other.stopped ↔
      run.scene = other.scene ∧ run.counter = other.counter ∧ run.line = other.line := by
  constructor
  · intro h
    exact ⟨eq_of_stopped scene (fun _ => rfl) h, eq_of_stopped Run.counter (fun _ => rfl) h,
      eq_of_stopped Run.line (fun _ => rfl) h⟩
  · intro h
    rcases h with ⟨hscene, hcounter, hline⟩
    show { run.scene with counter := run.counter, line := run.line } =
      { other.scene with counter := other.counter, line := other.line }
    rw [hscene, hcounter, hline]

section Unflagged

variable {run other : Run}

theorem applyCommand_unflagged (h : run.stopped = other.stopped) (command : Command) :
    (run.applyCommand command).run.stopped = (other.applyCommand command).run.stopped ∧
      (run.applyCommand command).fault = (other.applyCommand command).fault := by
  rcases stopped_eq_iff.mp h with ⟨hscene, hcounter, hline⟩
  have hboth := scene_applyCommand hscene command
  have hframe := frame_applyCommand run command
  have hframeOther := frame_applyCommand other command
  unfold Carried.scene at hboth
  injection hboth with hrun hfault
  refine ⟨stopped_eq_iff.mpr ⟨hrun, ?_, ?_⟩, hfault⟩
  · rw [hframe.counter, hframeOther.counter, hcounter]
  · rw [hframe.line, hframeOther.line, hline]

theorem counted_unflagged (h : run.stopped = other.stopped) :
    { run with counter := run.counter + 1 : Run }.stopped =
      { other with counter := other.counter + 1 : Run }.stopped :=
  congrArg (fun still : Run => { still with counter := still.counter + 1 }) h

theorem passDeclarations_unflagged (h : run.stopped = other.stopped) (commands : List Command) :
    (run.passDeclarations commands).map stopped = (other.passDeclarations commands).map stopped := by
  induction commands generalizing run other with
  | nil => exact congrArg Except.ok h
  | cons command rest ih =>
      rcases applyCommand_unflagged h command with ⟨hrun, hfault⟩
      rw [passDeclarations, passDeclarations]
      split
      · simp only [hfault]
        split
        · rfl
        · exact ih (counted_unflagged hrun)
      · exact congrArg Except.ok h

theorem runBatch_unflagged (h : run.stopped = other.stopped) (batch : List Command) :
    (run.runBatch batch).map stopped = (other.runBatch batch).map stopped := by
  induction batch generalizing run other with
  | nil => exact congrArg Except.ok h
  | cons command rest ih =>
      rcases applyCommand_unflagged h command with ⟨hrun, hfault⟩
      have houtcome : (run.applyCommand command).run.outcome =
          (other.applyCommand command).run.outcome := eq_of_stopped Run.outcome (fun _ => rfl) hrun
      rw [runBatch, runBatch]
      simp only [hfault]
      split
      · rename_i problem _
        exact congrArg (fun still : Run => Except.ok
          { still with error := some problem, outcome := .failure }) hrun
      · rfl
      · by_cases hsuccess : (run.applyCommand command).run.outcome = .success
        · rw [if_pos hsuccess, if_pos (houtcome.symm.trans hsuccess)]
          exact congrArg Except.ok (counted_unflagged hrun)
        · rw [if_neg hsuccess, if_neg (mt houtcome.trans hsuccess)]
          exact ih (counted_unflagged hrun)

theorem finished_unflagged (h : run.stopped = other.stopped) :
    run.finished.stopped = other.finished.stopped :=
  congrArg finished h

theorem step_unflagged (h : run.stopped = other.stopped) :
    run.step.map stopped = other.step.map stopped := by
  have hhalted : run.isHalted = other.isHalted := eq_of_stopped isHalted (fun _ => rfl) h
  have hahead : run.commands.drop run.counter = other.commands.drop other.counter :=
    eq_of_stopped (fun run => run.commands.drop run.counter) (fun _ => rfl) h
  rw [step, step, hhalted, hahead]
  split
  · exact congrArg Except.ok h
  · apply Attempts.map_bind_congr (passDeclarations_unflagged h _)
    intro ready same hready
    split
    · exact congrArg Except.ok (finished_unflagged hready)
    · rename_i first rest _
      have hentered : (ready.enterLine first.line).stopped = (same.enterLine first.line).stopped :=
        congrArg (fun still : Run => still.enterLine first.line) hready
      apply Attempts.map_bind_congr (runBatch_unflagged hentered _)
      intro last final hlast
      have hend : (!last.isHalted && last.isFinished) = (!final.isHalted && final.isFinished) :=
        eq_of_stopped (fun run => !run.isHalted && run.isFinished) (fun _ => rfl) hlast
      rw [hend]
      split
      · exact congrArg Except.ok (finished_unflagged hlast)
      · exact congrArg Except.ok hlast

end Unflagged

/-!
## Steps and pauses in a row
-/

/-- What carries a run on by a step at most, or raises or lowers its flag. -/
def Event.Paces : Event -> Prop
  | .step => True
  | .resume => True
  | .stop => True
  | _ => False

def Event.isStep : Event -> Bool
  | .step => true
  | _ => false

def undergo (run : Run) (events : List Event) : Except Fault Run :=
  events.foldlM (fun run event => event.on run) run

theorem undergo_cons (run : Run) (event : Event) (rest : List Event) :
    run.undergo (event :: rest) = event.on run >>= fun next => next.undergo rest :=
  List.foldlM_cons

theorem undergo_unflagged {run other : Run} (h : run.stopped = other.stopped) {events : List Event}
    (hpaces : forall event, event ∈ events -> event.Paces) :
    (run.undergo events).map stopped =
      (other.undergo (List.replicate (events.countP Event.isStep) .step)).map stopped := by
  induction events generalizing run other with
  | nil => exact congrArg Except.ok h
  | cons event rest ih =>
      have hrest : forall later, later ∈ rest -> later.Paces :=
        fun later hlater => hpaces later (List.mem_cons_of_mem event hlater)
      have hevent := hpaces event List.mem_cons_self
      rw [undergo_cons]
      cases event with
      | step =>
          rw [List.countP_cons_of_pos rfl, List.replicate_succ, undergo_cons]
          exact Attempts.map_bind_congr (step_unflagged h) fun next same hnext => ih hnext hrest
      | resume =>
          rw [List.countP_cons_of_neg Bool.false_ne_true]
          exact @ih run.resumed other h hrest
      | stop =>
          rw [List.countP_cons_of_neg Bool.false_ne_true]
          exact @ih run.stopped other h hrest
      | load source asTarget => cases hevent
      | runToHalt maxSteps => cases hevent
      | reset maze => cases hevent

theorem on_of_halted {run : Run} (h : run.isHalted = true) {event : Event} (hpaces : event.Paces) :
    exists after, event.on run = .ok after ∧ after.stopped = run.stopped := by
  cases event with
  | step => exact ⟨run.stopped, step_of_halted h, rfl⟩
  | resume => exact ⟨run.resumed, rfl, rfl⟩
  | stop => exact ⟨run.stopped, rfl, rfl⟩
  | load source asTarget => cases hpaces
  | runToHalt maxSteps => cases hpaces
  | reset maze => cases hpaces

/-- Pauses do not matter: a run to the halt may be cut at any step and carried on later, and steps
between which a run is stopped and resumed come to the same as the steps alone, up to the flag.  What
is halted changes nothing but its flag any more. -/
theorem pauses_do_not_matter (run : Run) :
    (forall first second : Int, 1 ≤ first -> 1 ≤ second ->
      (run.runToHalt first >>= fun paused => paused.runToHalt second) =
        run.runToHalt (first + second)) ∧
    (forall events : List Event, (forall event, event ∈ events -> event.Paces) ->
      (run.undergo events).map stopped =
        (run.undergo (List.replicate (events.countP Event.isStep) .step)).map stopped) ∧
    (run.isHalted = true -> forall event : Event, event.Paces ->
      exists after, event.on run = .ok after ∧ after.stopped = run.stopped) := by
  constructor
  · intro first second hfirst hsecond
    exact runToHalt_add run hfirst hsecond
  · constructor
    · intro events hpaces
      exact undergo_unflagged rfl hpaces
    · intro hhalted event hpaces
      exact on_of_halted hhalted hpaces

/-- A strip, a pause, and a strip that is too long: the run fails as it does without the pause, and so
it does between resuming and stopping. -/
theorem pauses_do_not_matter_long_strip :
    exists loaded paused halted stepped : Run,
      (start .table none).load "1#2\n1 R 0 0\n3 G 0 0" false = .ok loaded ∧
        loaded.runToHalt 1 = .ok paused ∧ paused.isHalted = false ∧
        paused.runToHalt 1 = .ok halted ∧ halted.outcome = .failure ∧
        loaded.runToHalt 2 = .ok halted ∧
        loaded.undergo [.resume, .step, .stop, .step] = .ok stepped ∧
        (loaded.undergo [.step, .step]).map stopped = .ok stepped.stopped ∧
        exists after, halted.step = .ok after ∧ after.stopped = halted.stopped := by
  have hrun : exists loaded paused halted stepped : Run,
      (start .table none).load "1#2\n1 R 0 0\n3 G 0 0" false = .ok loaded ∧
        loaded.runToHalt 1 = .ok paused ∧ paused.isHalted = false ∧
        paused.runToHalt 1 = .ok halted ∧ halted.isHalted = true ∧ halted.outcome = .failure ∧
        loaded.undergo [.resume, .step, .stop, .step] = .ok stepped :=
    ⟨_, _, _, _, @load_of_program (start .table none) _ _ load_longStrip, rfl, rfl, rfl, rfl, rfl, rfl⟩
  rcases hrun with ⟨loaded, paused, halted, stepped, hload, hpaused, hgoing, hhalted, hover, houtcome,
    hstepped⟩
  rcases pauses_do_not_matter loaded with ⟨hcut, hbetween, _⟩
  have hwhole := hcut 1 1 (by decide) (by decide)
  rw [hpaused] at hwhole
  have hsteps := hbetween [.resume, .step, .stop, .step] (by simp [Event.Paces])
  rw [hstepped] at hsteps
  exact ⟨loaded, paused, halted, stepped, hload, hpaused, hgoing, hhalted, houtcome,
    hwhole.symm.trans hhalted, hstepped, hsteps.symm,
    (pauses_do_not_matter halted).right.right hover .step trivial⟩

end Run
end Mosaic
