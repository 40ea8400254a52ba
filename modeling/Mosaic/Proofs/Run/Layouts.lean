import Mosaic.Proofs.Program.Layouts
import Mosaic.Proofs.Run.Objective
import Mosaic.Proofs.Run.Pausing

/-!
# Runs in other layouts

Outside PIXEL a run does not look at the lines of its commands, apart from whether two of them are
the same.  So what is done to a run comes to the same in every layout that keeps lines apart: batches
are cut at the same commands, and only the line of a problem is another one.
-/

namespace Mosaic

namespace Run

/-- Where the entries of a text stand, no two of them in one line, and what a run notes of the
text. -/
structure Layout where
  place : Int -> Int
  apart : Function.Injective place
  source : String
  targetCode : Option String

def inLayout (layout : Layout) (run : Run) : Run :=
  { run with
    source := layout.source
    targetCode := layout.targetCode
    commands := run.commands.map (Command.relined layout.place)
    line := run.line.map layout.place
    error := run.error.map (Problem.relined layout.place) }

end Run

def Carried.inLayout (layout : Run.Layout) (carried : Carried) : Carried :=
  ⟨carried.run.inLayout layout, carried.fault.map (Fault.relined layout.place)⟩

namespace Run

/-!
## Primitives
-/

section

variable (layout : Layout) (run : Run)

theorem failedAt_inLayout (line number : Int) (cause : Int -> Cause) :
    (run.inLayout layout).failedAt (layout.place line) number cause =
      (run.failedAt line number cause).inLayout layout := by
  unfold failedAt
  cases Text.writeWhole number with
  | error fault => rfl
  | ok text => rfl

theorem fault_declared (rows columns : Nat) :
    (run.declared rows columns).fault = none ∨
      (run.declared rows columns).fault = some (.grid .sizeNotPositive) := by
  unfold declared Grid.create
  by_cases hempty : (rows : Int) ≤ 0 || (columns : Int) ≤ 0
  · rw [if_pos hempty]
    exact Or.inr rfl
  · rw [if_neg hempty]
    exact Or.inl rfl

theorem declared_inLayout (rows columns : Nat) :
    (run.inLayout layout).declared rows columns = (run.declared rows columns).inLayout layout := by
  unfold declared Grid.create
  by_cases hempty : (rows : Int) ≤ 0 || (columns : Int) ≤ 0
  · rw [if_pos hempty]
    rfl
  · rw [if_neg hempty]
    rfl

theorem paintStrip_inLayout (line : Int) (count : Nat) (color : Color) (row column : Int) :
    (run.inLayout layout).paintStrip (layout.place line) count color row column =
      (run.paintStrip line count color row column).inLayout layout := by
  have hgrid : (run.inLayout layout).grid = run.grid := rfl
  unfold paintStrip
  rw [hgrid]
  cases run.grid with
  | none => rfl
  | some grid =>
      cases grid with
      | nil => rfl
      | cons first rest =>
          simp only
          split
          · exact failedAt_inLayout layout run line row .rowOutside
          · split
            · exact failedAt_inLayout layout run line column .columnOutside
            · split
              · rfl
              · rfl

theorem andThen_inLayout {carried : Carried} {next further : Run -> Carried}
    (h : forall run : Run, further (run.inLayout layout) = (next run).inLayout layout) :
    (carried.inLayout layout).andThen further = (carried.andThen next).inLayout layout := by
  rcases carried with ⟨reached, fault⟩
  cases fault with
  | none => exact h reached
  | some fault => rfl

theorem paintShifted_inLayout (line : Int) (count : Nat) (color : Color) (dx dy : Int) :
    (run.inLayout layout).paintShifted (layout.place line) count color dx dy =
      (run.paintShifted line count color dx dy).inLayout layout := by
  unfold paintShifted
  rw [paintStrip_inLayout layout run line]
  exact andThen_inLayout layout fun _ => rfl

theorem advanced_inLayout (steps : Nat) (line : Int) (maze : Maze) :
    (run.inLayout layout).advanced (layout.place line) maze steps =
      (run.advanced line maze steps).inLayout layout := by
  induction steps generalizing run maze with
  | zero => rfl
  | succ steps ih =>
      rw [advanced, advanced]
      cases walk maze with
      | unknown => rfl
      | blocked => rfl
      | left => rfl
      | moved next points =>
          exact ih { run with maze := some next, mazeScore := run.mazeScore + points } next

theorem switched_inLayout (line : Int) (on : Bool) (axis : Axis) (index : Nat) :
    (run.inLayout layout).switched (layout.place line) on axis index =
      (run.switched line on axis index).inLayout layout := by
  have hgrid : (run.inLayout layout).grid = run.grid := rfl
  unfold switched
  rw [hgrid]
  cases run.grid with
  | none => rfl
  | some grid =>
      cases axis with
      | row =>
          simp only
          split
          · rfl
          · rfl
      | column =>
          simp only
          rcases Grid.paintColumn index (if on then some .white else none) grid with ⟨lit, complete⟩
          cases complete with
          | true => rfl
          | false => rfl

theorem painted_inLayout (line : Int) (value : Cell) :
    (run.inLayout layout).painted (layout.place line) value =
      (run.painted line value).inLayout layout := by
  have hgrid : (run.inLayout layout).grid = run.grid := rfl
  unfold painted
  rw [hgrid]
  cases run.grid with
  | none => rfl
  | some grid => rfl

theorem apply_inLayout (line : Int) (action : Primitive) :
    (run.inLayout layout).apply (layout.place line) action =
      (run.apply line action).inLayout layout := by
  have hmaze : (run.inLayout layout).maze = run.maze := rfl
  cases action with
  | declare rows columns => exact declared_inLayout layout run rows columns
  | strip count color row column => exact paintStrip_inLayout layout run line count color row column
  | shifted count color dx dy => exact paintShifted_inLayout layout run line count color dx dy
  | turn quarters =>
      unfold apply
      simp only
      rw [hmaze]
      cases run.maze with
      | none => rfl
      | some maze => rfl
  | advance steps =>
      unfold apply
      simp only
      rw [hmaze]
      cases run.maze with
      | none => rfl
      | some maze => exact advanced_inLayout layout run steps line maze
  | switch on axis index => exact switched_inLayout layout run line on axis index
  | paint color => exact painted_inLayout layout run line (some color)
  | erase => exact painted_inLayout layout run line none

theorem applyCommand_inLayout (command : Command) :
    (run.inLayout layout).applyCommand (command.relined layout.place) =
      (run.applyCommand command).inLayout layout :=
  apply_inLayout layout run command.line command.action

end

/-!
## Steps
-/

section

variable {layout : Layout} {run : Run}

theorem isHalted_inLayout (layout : Layout) (run : Run) :
    (run.inLayout layout).isHalted = run.isHalted := by
  have herror : (run.inLayout layout).error = run.error.map (Problem.relined layout.place) := rfl
  unfold isHalted
  rw [herror, Option.isSome_map]
  rfl

theorem isFinished_inLayout (layout : Layout) (run : Run) :
    (run.inLayout layout).isFinished = run.isFinished := by
  show ((run.commands.map (Command.relined layout.place)).drop run.counter).isEmpty = _
  rw [← List.map_drop, List.isEmpty_map]
  rfl

theorem enterLine_inLayout (hmode : run.mode ≠ .pixel) (line : Int) :
    (run.inLayout layout).enterLine (layout.place line) = (run.enterLine line).inLayout layout := by
  unfold enterLine
  rw [if_neg hmode, if_neg (show (run.inLayout layout).mode ≠ .pixel from hmode)]
  rfl

theorem passDeclarations_inLayout (layout : Layout) (run : Run) (commands : List Command) :
    (run.inLayout layout).passDeclarations (commands.map (Command.relined layout.place)) =
      (run.passDeclarations commands).map (inLayout layout) := by
  induction commands generalizing run with
  | nil => rfl
  | cons command rest ih =>
      rw [List.map_cons, passDeclarations, passDeclarations]
      by_cases hdeclaration : command.action.isDeclaration = true
      · rw [if_pos hdeclaration, if_pos (show (command.relined layout.place).action.isDeclaration = true
          from hdeclaration), applyCommand_inLayout]
        have hfault : (run.applyCommand command).fault = none ∨
            (run.applyCommand command).fault = some (.grid .sizeNotPositive) := by
          rcases command with ⟨line, action⟩
          cases action with
          | declare rows columns => exact fault_declared run rows columns
          | _ => cases hdeclaration
        rcases hcarried : run.applyCommand command with ⟨reached, fault⟩
        rw [hcarried] at hfault
        rcases hfault with rfl | rfl
        · exact ih { reached with counter := reached.counter + 1 }
        · rfl
      · rw [if_neg hdeclaration, if_neg (show Not ((command.relined layout.place).action.isDeclaration
          = true) from hdeclaration)]
        rfl

theorem runBatch_inLayout (layout : Layout) (run : Run) (batch : List Command) :
    (run.inLayout layout).runBatch (batch.map (Command.relined layout.place)) =
      (run.runBatch batch).map (inLayout layout) := by
  induction batch generalizing run with
  | nil => rfl
  | cons command rest ih =>
      rw [List.map_cons, runBatch, runBatch, applyCommand_inLayout]
      rcases run.applyCommand command with ⟨reached, fault⟩
      cases fault with
      | some fault =>
          cases fault with
          | _ => rfl
      | none =>
          show (if reached.outcome = .success then _ else _) =
            Except.map _ (if reached.outcome = .success then _ else _)
          split
          · rfl
          · exact ih { reached with counter := reached.counter + 1 }

theorem batchLength_relined {place : Int -> Int} (hplace : Function.Injective place)
    (commands : List Command) :
    Program.batchLength (commands.map (Command.relined place)) = Program.batchLength commands := by
  cases commands with
  | nil => rfl
  | cons first rest =>
      have hsame : (fun command : Command => command.line == (first.relined place).line) ∘
          Command.relined place = fun command => command.line == first.line := by
        funext command
        show (place command.line == place first.line) = (command.line == first.line)
        rw [Bool.eq_iff_iff, beq_iff_eq, beq_iff_eq]
        exact hplace.eq_iff
      rw [List.map_cons, Program.batchLength, Program.batchLength, List.takeWhile_map,
        List.length_map, hsame]

theorem step_inLayout (hmode : run.mode ≠ .pixel) :
    (run.inLayout layout).step = run.step.map (inLayout layout) := by
  have hahead : (run.inLayout layout).commands.drop (run.inLayout layout).counter =
      (run.commands.drop run.counter).map (Command.relined layout.place) := List.map_drop.symm
  rw [step, step, isHalted_inLayout, hahead]
  cases hgoing : run.isHalted with
  | true => rfl
  | false =>
      simp only [Bool.false_eq_true, if_false]
      rw [passDeclarations_inLayout, List.dropWhile_map]
      cases hpassed : run.passDeclarations (run.commands.drop run.counter) with
      | error fault => rfl
      | ok ready =>
          have hready : ready.mode ≠ .pixel := by
            have hgoal := ((steady_sameGoal run).enduring.passDeclarations
              (fun _ hcommand => List.mem_of_mem_drop hcommand) (SameGoal.refl run) hgoing
              hpassed).left
            rwa [hgoal.mode]
          have hplain : (fun command : Command => command.action.isDeclaration) ∘
              Command.relined layout.place = fun command => command.action.isDeclaration := rfl
          rw [hplain]
          simp only [bind, Except.bind, Except.map]
          cases (run.commands.drop run.counter).dropWhile fun command =>
              command.action.isDeclaration with
          | nil => rfl
          | cons first rest =>
              simp only [List.map_cons]
              rw [← List.map_cons, batchLength_relined layout.apart, ← List.map_take,
                show (first.relined layout.place).line = layout.place first.line from rfl,
                enterLine_inLayout hready, runBatch_inLayout]
              cases (ready.enterLine first.line).runBatch
                  ((first :: rest).take (Program.batchLength (first :: rest))) with
              | error fault => rfl
              | ok after =>
                  simp only [Except.map]
                  rw [isHalted_inLayout, isFinished_inLayout]
                  split
                  · rfl
                  · rfl

/-!
## Events
-/

def Event.isLoad : Event -> Bool
  | .load _ _ => true
  | _ => false

theorem resumed_inLayout (layout : Layout) (run : Run) :
    (run.inLayout layout).resumed = run.resumed.inLayout layout := by
  unfold resumed
  rw [isHalted_inLayout, isFinished_inLayout]
  rfl

theorem stepWhileRunning_inLayout (hmode : run.mode ≠ .pixel) (steps : Nat) :
    stepWhileRunning steps (run.inLayout layout) =
      (stepWhileRunning steps run).map (inLayout layout) := by
  induction steps generalizing run with
  | zero => rfl
  | succ steps ih =>
      rw [stepWhileRunning, stepWhileRunning, step_inLayout hmode,
        show (run.inLayout layout).isRunning = run.isRunning from rfl]
      cases run.isRunning with
      | false => rfl
      | true =>
          simp only [if_true]
          cases hstep : run.step with
          | error fault => rfl
          | ok next => exact ih (by rwa [(sameGoal_step hstep).mode])

theorem runToHalt_inLayout (hmode : run.mode ≠ .pixel) (maxSteps : Int) :
    (run.inLayout layout).runToHalt maxSteps = (run.runToHalt maxSteps).map (inLayout layout) := by
  unfold runToHalt
  split
  · rfl
  · rw [resumed_inLayout, @stepWhileRunning_inLayout layout run.resumed hmode]
    cases stepWhileRunning maxSteps.toNat run.resumed with
    | error fault => rfl
    | ok after => rfl

theorem reset_inLayout (layout : Layout) (run : Run) (maze : Option Maze) :
    (run.inLayout layout).reset maze = (run.reset maze).inLayout layout := by
  have hsize : (run.inLayout layout).declaredSize = run.declaredSize := by
    show ((run.commands.map (Command.relined layout.place)).findSome? _).or _ = _
    rw [List.findSome?_map]
    rfl
  unfold reset
  rw [hsize]
  rfl

theorem event_inLayout (hmode : run.mode ≠ .pixel) {event : Event} (hevent : event.isLoad = false) :
    event.on (run.inLayout layout) = (event.on run).map (inLayout layout) := by
  cases event with
  | load source asTarget => cases hevent
  | step => exact step_inLayout hmode
  | resume => exact congrArg Except.ok (resumed_inLayout layout run)
  | stop => rfl
  | runToHalt maxSteps => exact runToHalt_inLayout hmode maxSteps
  | reset maze => exact congrArg Except.ok (reset_inLayout layout run maze)

theorem mode_of_event {event : Event} (hevent : event.isLoad = false) {after : Run}
    (h : event.on run = .ok after) : after.mode = run.mode := by
  cases event with
  | load source asTarget => cases hevent
  | step => exact (sameGoal_step h).mode
  | runToHalt maxSteps => exact (sameGoal_runToHalt h).mode
  | _ =>
      cases h
      rfl

/-- What is done to a run comes to the same in every layout. -/
theorem undergo_inLayout (hmode : run.mode ≠ .pixel) {events : List Event}
    (hevents : forall event, event ∈ events -> event.isLoad = false) :
    (run.inLayout layout).undergo events = (run.undergo events).map (inLayout layout) := by
  induction events generalizing run with
  | nil => rfl
  | cons event rest ih =>
      rw [List.forall_mem_cons] at hevents
      rw [undergo_cons, undergo_cons, event_inLayout hmode hevents.left]
      cases hnext : event.on run with
      | error fault => rfl
      | ok next =>
          exact ih (by rwa [mode_of_event hevents.left hnext]) hevents.right

end

/-!
## Replays
-/

section

variable {layout : Layout} {run : Run}

theorem enterLineOf_inLayout (hmode : run.mode ≠ .pixel) (command : Command) :
    (run.inLayout layout).enterLineOf (command.relined layout.place) =
      (run.enterLineOf command).inLayout layout := by
  have hline : (run.inLayout layout).line = some (command.relined layout.place).line ↔
      run.line = some command.line :=
    @Function.Injective.eq_iff _ _ _ (Option.map_injective layout.apart) run.line (some command.line)
  unfold enterLineOf
  by_cases hentered : run.line = some command.line
  · rw [if_pos hentered, if_pos (hline.mpr hentered)]
  · rw [if_neg hentered, if_neg (mt hline.mp hentered)]
    exact enterLine_inLayout hmode command.line

theorem replayCommand_inLayout (hmode : run.mode ≠ .pixel) (command : Command) :
    (run.inLayout layout).replayCommand (command.relined layout.place) =
      (run.replayCommand command).map (inLayout layout) := by
  unfold replayCommand
  simp only
  rw [enterLineOf_inLayout hmode, applyCommand_inLayout]
  rcases (run.enterLineOf command).applyCommand command with ⟨reached, fault⟩
  cases fault with
  | none => rfl
  | some fault =>
      cases fault with
      | _ => rfl

theorem mode_of_replayCommand {command : Command} {next : Run}
    (h : run.replayCommand command = .ok next) : next.mode = run.mode := by
  have hmode : ((run.enterLineOf command).applyCommand command).run.mode = run.mode :=
    (frame_applyCommand (run.enterLineOf command) command).mode.trans
      (frame_enterLineOf run command).left
  unfold replayCommand at h
  simp only at h
  split at h
  · cases h
    exact hmode
  · cases h
    exact hmode
  · cases h

theorem replays_inLayout (hmode : run.mode ≠ .pixel) (commands : List Command) :
    (commands.map (Command.relined layout.place)).foldlM replayCommand (run.inLayout layout) =
      (commands.foldlM replayCommand run).map (inLayout layout) := by
  induction commands generalizing run with
  | nil => rfl
  | cons command rest ih =>
      rw [List.map_cons, List.foldlM_cons, List.foldlM_cons, replayCommand_inLayout hmode]
      cases hnext : run.replayCommand command with
      | error fault => rfl
      | ok next => exact ih (by rwa [mode_of_replayCommand hnext])

theorem replay_relined {program : Program} (hmode : program.mode ≠ .pixel) (layout : Layout) :
    (program.relined layout.place layout.source).replay = program.replay := by
  have hreplays := @replays_inLayout { layout with source := "", targetCode := none }
    program.blankRun hmode program.commands
  unfold Program.replay
  rw [show (program.relined layout.place layout.source).mode = program.mode from rfl]
  split
  · rfl
  · show ((program.commands.map (Command.relined layout.place)).foldlM replayCommand
      (program.blankRun.inLayout { layout with source := "", targetCode := none }) >>= _) = _
    rw [hreplays]
    cases program.commands.foldlM replayCommand program.blankRun with
    | error fault => rfl
    | ok final => rfl

end

end Run
end Mosaic
