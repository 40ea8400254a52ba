import Mosaic.Proofs.Run.CarryingOut

/-!
# Steps against single commands

A step passes the declarations at the counter and then carries out the commands of one line.  It is
compared here with carrying out the same commands one at a time: both give the same fault, or both
give runs that show the same.
-/

namespace Mosaic
namespace Run

/-- What stepping gives is related to what carrying out gives, and faults are the same. -/
def Agrees (stepped : Except Fault Run) (carried : Except Fault (Run × Ending))
    (related : Run -> Ending -> Run -> Prop) : Prop :=
  match carried with
  | .ok (final, ending) => exists after, stepped = .ok after ∧ related final ending after
  | .error fault => stepped = .error fault

def halted (run : Run) (problem : Problem) : Run :=
  { run with error := some problem, outcome := .failure }

/-- A stepped run that came to the end of some commands, in terms of the run that carried them out
one at a time.  What it is like if all of them are carried out depends on what comes behind them. -/
inductive Reached (complete : Run -> Run -> Prop) (final : Run) : Ending -> Run -> Prop
  | complete {after : Run} (h : complete final after) : Reached complete final .complete after
  | failed {index : Nat} {problem : Problem} {after : Run}
      (scene : after.scene = (final.halted problem).scene) (counter : after.counter = index)
      (running : after.isRunning = false) : Reached complete final (.failed index problem) after
  | left {index : Nat} {after : Run} (scene : after.scene = final.scene)
      (outcome : after.outcome = .success) (counter : after.counter = index + 1)
      (running : after.isRunning = false) : Reached complete final (.left index) after

/-- A stepped run that has carried out commands and is still going. -/
structure GoesOn (start : Run) (count : Nat) (final after : Run) : Prop where
  scene : after.scene = final.scene
  counter : after.counter = start.counter + count
  running : after.isRunning = start.isRunning

theorem Reached.imp {complete other : Run -> Run -> Prop} {final after : Run} {ending : Ending}
    (h : Reached complete final ending after) (himp : complete final after -> other final after) :
    Reached other final ending after := by
  cases h with
  | complete hcomplete => exact Reached.complete (himp hcomplete)
  | failed scene counter running => exact Reached.failed scene counter running
  | left scene outcome counter running => exact Reached.left scene outcome counter running

theorem Agrees.imp {stepped : Except Fault Run} {carried : Except Fault (Run × Ending)}
    {related other : Run -> Ending -> Run -> Prop} (h : Agrees stepped carried related)
    (himp : forall final ending after, related final ending after -> other final ending after) :
    Agrees stepped carried other := by
  unfold Agrees at h ⊢
  split
  · rcases h with ⟨after, hstepped, hrelated⟩
    exact ⟨after, hstepped, himp _ _ _ hrelated⟩
  · exact h

theorem Agrees.bind {stepped : Except Fault Run} {carried : Except Fault (Run × Ending)}
    {related other : Run -> Ending -> Run -> Prop} {next : Run -> Except Fault Run}
    {further : Run × Ending -> Except Fault (Run × Ending)} (h : Agrees stepped carried related)
    (hnext : forall final ending after, carried = .ok (final, ending) ->
      related final ending after -> Agrees (next after) (further (final, ending)) other) :
    Agrees (stepped >>= next) (carried >>= further) other := by
  cases carried with
  | error fault =>
      change stepped = .error fault at h
      rw [h]
      rfl
  | ok reached =>
      rcases reached with ⟨final, ending⟩
      rcases h with ⟨after, hafter, hrelated⟩
      rw [hafter]
      exact hnext final ending after rfl hrelated

theorem Agrees.map {stepped : Except Fault Run} {carried : Except Fault (Run × Ending)}
    {related other : Run -> Ending -> Run -> Prop} {change : Run -> Run}
    (h : Agrees stepped carried related)
    (hchange : forall final ending after, carried = .ok (final, ending) ->
      related final ending after -> other final ending (change after)) :
    Agrees (stepped >>= fun after => .ok (change after)) carried other := by
  have hsame : carried >>= Except.ok = carried := by
    cases carried with
    | error fault => rfl
    | ok reached => rfl
  rw [← hsame]
  refine h.bind fun final ending after hcarried hrelated => ?_
  exact ⟨change after, rfl, hchange final ending after hcarried hrelated⟩

theorem mode_eq_of_scene {run other : Run} (h : run.scene = other.scene) :
    run.mode = other.mode :=
  eq_of_scene Run.mode (fun _ => rfl) h

theorem outcome_eq_of_scene {run other : Run} (h : run.scene = other.scene) :
    run.outcome = other.outcome :=
  eq_of_scene Run.outcome (fun _ => rfl) h

theorem isHalted_eq_of_scene {run other : Run} (h : run.scene = other.scene) :
    run.isHalted = other.isHalted :=
  eq_of_scene Run.isHalted (fun _ => rfl) h

theorem commands_eq_of_scene {run other : Run} (h : run.scene = other.scene) :
    run.commands = other.commands :=
  eq_of_scene Run.commands (fun _ => rfl) h

theorem enterLine_eq_of_scene {run other : Run} (h : run.scene = other.scene) (line : Int) :
    (run.enterLine line).scene = (other.enterLine line).scene := by
  rw [← scene_enterLine run, ← scene_enterLine other, h]

/-!
## The commands of one line
-/

theorem runBatch_agrees {run other : Run} {line : Int} {batch : List Command}
    (hscene : run.scene = other.scene) (hline : other.line = some line)
    (hbatch : forall command, command ∈ batch -> command.line = line) :
    Agrees (run.runBatch batch) (carryOut run.counter other batch)
      (Reached (GoesOn run batch.length)) := by
  induction batch generalizing run other with
  | nil => exact ⟨run, rfl, Reached.complete ⟨hscene, rfl, rfl⟩⟩
  | cons command rest ih =>
      have hentered : other.enterLineOf command = other :=
        enterLineOf_of_line_eq (by rw [hline, hbatch command (by simp)])
      have hboth := scene_applyCommand hscene command
      unfold Carried.scene at hboth
      injection hboth with hrun hfault
      have hframe := frame_applyCommand run command
      have hframeOther := frame_applyCommand other command
      rw [runBatch, carryOut, hentered, ← hfault]
      cases hcase : (run.applyCommand command).fault with
      | some fault =>
          cases fault with
          | program problem =>
              refine ⟨_, rfl, Reached.failed ?_ hframe.counter rfl⟩
              exact congrArg (fun scene : Run => scene.halted problem) hrun
          | _ => exact rfl
      | none =>
          simp only [← outcome_eq_of_scene hrun]
          split
          · rename_i hsuccess
            refine ⟨_, rfl, Reached.left hrun hsuccess ?_ rfl⟩
            exact congrArg (· + 1) hframe.counter
          · rename_i hgoing
            have hrest := @ih { (run.applyCommand command).run with
                counter := (run.applyCommand command).run.counter + 1 }
              (other.applyCommand command).run hrun (hframeOther.line.trans hline)
              (fun later hlater => hbatch later (by simp [hlater]))
            have hrunning := isRunning_applyCommand hgoing
            have hcounter : (run.applyCommand command).run.counter + 1 = run.counter + 1 :=
              congrArg (· + 1) hframe.counter
            rw [← hcounter]
            refine hrest.imp fun final ending after hafter => hafter.imp fun hgoes => ?_
            refine ⟨hgoes.scene, ?_, hgoes.running.trans hrunning⟩
            rw [hgoes.counter, List.length_cons]
            show (run.applyCommand command).run.counter + 1 + rest.length = _
            omega

/-!
## Declarations
-/

theorem applyCommand_declaration {command : Command} (h : command.action.isDeclaration = true)
    (run : Run) :
    (forall problem, (run.applyCommand command).fault ≠ some (.program problem)) ∧
      (run.applyCommand command).run.outcome = run.outcome ∧
      (run.applyCommand command).run.isRunning = run.isRunning := by
  unfold applyCommand
  cases haction : command.action with
  | declare rows columns =>
      show (forall problem, (run.declared rows columns).fault ≠ some (.program problem)) ∧
        (run.declared rows columns).run.outcome = run.outcome ∧
        (run.declared rows columns).run.isRunning = run.isRunning
      unfold declared
      cases hgrid : Grid.create rows columns with
      | ok grid =>
          refine ⟨?_, rfl, rfl⟩
          intro problem hproblem
          cases hproblem
      | error fault =>
          refine ⟨?_, rfl, rfl⟩
          intro problem hproblem
          unfold Grid.create at hgrid
          split at hgrid
          · cases hgrid
            cases hproblem
          · cases hgrid
  | _ =>
      rw [haction] at h
      cases h

theorem scene_enterLineOf_of_mode_ne {run : Run} (hmode : run.mode ≠ .pixel) (command : Command) :
    (run.enterLineOf command).scene = run.scene := by
  unfold enterLineOf
  split
  · rfl
  · unfold enterLine
    rw [if_neg hmode]
    rfl

/-- Declarations are passed without entering their lines, which shows nowhere but on the screen. -/
theorem passDeclarations_agrees {run other : Run} {declarations rest : List Command}
    (hscene : run.scene = other.scene) (hidle : run.outcome = .idle)
    (hdeclarations : forall command, command ∈ declarations ->
      command.action.isDeclaration = true ∧ run.mode ≠ .pixel)
    (hrest : forall command, rest.head? = some command -> command.action.isDeclaration = false) :
    Agrees (run.passDeclarations (declarations ++ rest))
      (carryOut run.counter other declarations)
      (fun final ending after =>
        ending = .complete ∧ GoesOn run declarations.length final after) := by
  induction declarations generalizing run other with
  | nil =>
      refine ⟨run, ?_, rfl, hscene, rfl, rfl⟩
      cases rest with
      | nil => rfl
      | cons first others =>
          have hfirst := hrest first rfl
          rw [List.nil_append, passDeclarations, hfirst]
          rfl
  | cons command declarations ih =>
      rcases hdeclarations command (by simp) with ⟨hdeclaration, hmode⟩
      have hentered : run.scene = (other.enterLineOf command).scene := by
        rw [scene_enterLineOf_of_mode_ne (by rwa [← mode_eq_of_scene hscene]), hscene]
      have hboth := scene_applyCommand hentered command
      unfold Carried.scene at hboth
      injection hboth with hrun hfault
      rcases applyCommand_declaration hdeclaration run with ⟨hproblem, houtcome, hrunning⟩
      have hframe := frame_applyCommand run command
      rw [List.cons_append, passDeclarations, hdeclaration, carryOut, ← hfault]
      simp only [if_true]
      cases hcase : (run.applyCommand command).fault with
      | some fault =>
          cases fault with
          | program problem => exact absurd hcase (hproblem problem)
          | _ => exact rfl
      | none =>
          have hstill : (run.applyCommand command).run.outcome = .idle := houtcome.trans hidle
          have hgoing : ((other.enterLineOf command).applyCommand command).run.outcome ≠
              .success := by
            rw [← outcome_eq_of_scene hrun, hstill]
            simp
          simp only [if_neg hgoing]
          have hcounter : (run.applyCommand command).run.counter + 1 = run.counter + 1 :=
            congrArg (· + 1) hframe.counter
          rw [← hcounter]
          have hlater := @ih { (run.applyCommand command).run with
              counter := (run.applyCommand command).run.counter + 1 }
            ((other.enterLineOf command).applyCommand command).run hrun hstill
            (fun later hmem => by
              have hlater := hdeclarations later (by simp [hmem])
              exact ⟨hlater.left, fun hpixel => hlater.right (hframe.mode.symm.trans hpixel)⟩)
          refine hlater.imp fun final ending after hafter => ⟨hafter.left, hafter.right.scene, ?_, ?_⟩
          · rw [hafter.right.counter, List.length_cons]
            show (run.applyCommand command).run.counter + 1 + declarations.length = _
            omega
          · exact hafter.right.running.trans hrunning

/-!
## A whole step
-/

theorem take_batchLength (first : Command) (rest : List Command) :
    (first :: rest).take (Program.batchLength (first :: rest)) =
      first :: rest.takeWhile fun command => command.line == first.line := by
  rw [Program.batchLength, Nat.add_comm, List.take_succ_cons,
    ← List.prefix_iff_eq_take.mp (List.takeWhile_prefix _)]

theorem line_eq_of_mem_batch {first command : Command} {rest : List Command}
    (h : command ∈ first :: rest.takeWhile fun command => command.line == first.line) :
    command.line = first.line := by
  rcases List.mem_cons.mp h with rfl | hmem
  · rfl
  · have hline := List.all_eq_true.mp List.all_takeWhile command hmem
    simpa using hline

theorem line_lt_of_mem_dropWhile {line : Int} {rest : List Command}
    (hordered : rest.Pairwise fun first second => first.line ≤ second.line)
    (hle : forall command, command ∈ rest -> line ≤ command.line) :
    forall command, command ∈ rest.dropWhile (fun command => command.line == line) ->
      line < command.line := by
  induction rest with
  | nil =>
      intro command hcommand
      cases hcommand
  | cons first rest ih =>
      rcases List.pairwise_cons.mp hordered with ⟨hfirst, hrest⟩
      have hlower := hle first (by simp)
      intro command hcommand
      by_cases hsame : first.line = line
      · rw [List.dropWhile_cons_of_pos (by simp [hsame])] at hcommand
        exact ih hrest (fun other hother => hle other (by simp [hother])) command hcommand
      · rw [List.dropWhile_cons_of_neg (by simp [hsame])] at hcommand
        rcases List.mem_cons.mp hcommand with rfl | hlater
        · omega
        · have hbehind := hfirst command hlater
          omega

/-- A run that is going, beside the run that carries out its commands one at a time: both show the
same, and the line of no command ahead is entered yet. -/
structure Ready (run other : Run) (ahead : List Command) : Prop where
  scene : run.scene = other.scene
  place : run.commands.drop run.counter = ahead
  halted : run.isHalted = false
  ordered : ahead.Pairwise fun first second => first.line ≤ second.line
  separate : run.mode ≠ .pixel -> ahead.Pairwise fun first second => first.line < second.line
  declared : forall command, command ∈ ahead ->
    command.action.isDeclaration = true -> run.mode ≠ .pixel
  entered : forall command, command ∈ ahead -> other.line ≠ some command.line

structure ComesToEnd (start : Run) (count : Nat) (final after : Run) : Prop where
  scene : after.scene = final.finished.scene
  counter : after.counter = start.counter + count
  running : after.isRunning = false

/-- The commands that the next step carries out, and those behind them. -/
structure Splits (ahead front back : List Command) : Prop where
  append : ahead = front ++ back
  nonempty : front ≠ []
  apart : forall early, early ∈ front -> forall late, late ∈ back -> early.line < late.line

theorem finished_of_goesOn {start final after : Run} {count : Nat}
    (h : GoesOn start count final after) : ComesToEnd start count final after.finished := by
  refine ⟨?_, h.counter, rfl⟩
  show after.scene.finished.scene = final.scene.finished.scene
  rw [h.scene]

theorem step_eq {run : Run} {declarations rest : List Command} (hhalted : run.isHalted = false)
    (hplace : run.commands.drop run.counter = declarations ++ rest)
    (hdeclarations : forall command, command ∈ declarations ->
      command.action.isDeclaration = true)
    (hrest : forall command, rest.head? = some command -> command.action.isDeclaration = false) :
    run.step = run.passDeclarations (declarations ++ rest) >>= fun ready =>
      match rest with
      | [] => .ok ready.finished
      | first :: others =>
          (ready.enterLine first.line).runBatch
            (first :: others.takeWhile fun command => command.line == first.line) >>= fun after =>
              .ok (if !after.isHalted && after.isFinished then after.finished else after) := by
  have hdrop : (declarations ++ rest).dropWhile (fun command => command.action.isDeclaration) =
      rest := by
    rw [List.dropWhile_append_of_pos hdeclarations]
    cases rest with
    | nil => rfl
    | cons first others =>
        exact List.dropWhile_cons_of_neg (by simp [hrest first rfl])
  rw [step, hhalted]
  simp only [Bool.false_eq_true, if_false, hplace, hdrop]
  cases rest with
  | nil => rfl
  | cons first others =>
      simp only [take_batchLength]
      rfl

theorem step_agrees_of_declarations {run other : Run} {ahead : List Command}
    (h : Ready run other ahead)
    (hdeclarations : forall command, command ∈ ahead -> command.action.isDeclaration = true) :
    Agrees run.step (carryOut run.counter other ahead) (Reached (ComesToEnd run ahead.length)) := by
  have hidle := (isHalted_eq_false.mp h.halted).right
  have hpassed := @passDeclarations_agrees run other ahead [] h.scene hidle
    (fun command hmem => ⟨hdeclarations command hmem,
      h.declared command hmem (hdeclarations command hmem)⟩)
    (fun command hcommand => by cases hcommand)
  rw [step_eq h.halted (by rw [h.place, List.append_nil]) hdeclarations
    (fun command hcommand => by cases hcommand)]
  refine hpassed.map fun final ending ready _ hready => ?_
  rcases hready with ⟨rfl, hgoes⟩
  exact Reached.complete (finished_of_goesOn hgoes)

def Behind (start : Run) (count : Nat) (back : List Command) (final after : Run) : Prop :=
  if back = [] then ComesToEnd start count final after else GoesOn start count final after

theorem isFinished_of_drop {run : Run} {back : List Command}
    (h : run.commands.drop run.counter = back) : run.isFinished = back.isEmpty := by
  unfold isFinished
  rw [h]

theorem reached_of_batch {start final after : Run} {count : Nat} {ending : Ending}
    {back : List Command} (h : Reached (GoesOn start count) final ending after)
    (hgoing : ending = .complete -> final.isHalted = false)
    (hback : ending = .complete -> final.commands.drop (start.counter + count) = back) :
    Reached (Behind start count back) final ending
      (if !after.isHalted && after.isFinished then after.finished else after) := by
  cases h with
  | complete hgoes =>
      have hhalted : after.isHalted = false := by
        rw [isHalted_eq_of_scene hgoes.scene, hgoing rfl]
      have hfinished : after.isFinished = back.isEmpty := by
        apply isFinished_of_drop
        rw [commands_eq_of_scene hgoes.scene, hgoes.counter, hback rfl]
      rw [hhalted, hfinished]
      apply Reached.complete
      unfold Behind
      cases back with
      | nil => exact finished_of_goesOn hgoes
      | cons next others => exact hgoes
  | failed scene counter running =>
      have hhalted : after.isHalted = true := by
        rw [isHalted_eq_of_scene scene]
        rfl
      rw [hhalted]
      exact Reached.failed scene counter running
  | left scene outcome counter running =>
      have hhalted : after.isHalted = true := by
        unfold isHalted
        rw [outcome]
        simp
      rw [hhalted]
      exact Reached.left scene outcome counter running

theorem drop_line {run : Run} {declarations others : List Command} {first : Command}
    (hplace : run.commands.drop run.counter = declarations ++ first :: others) :
    run.commands.drop (run.counter +
        (declarations ++ first :: others.takeWhile fun command =>
          command.line == first.line).length) =
      others.dropWhile fun command => command.line == first.line := by
  rw [← List.drop_drop, hplace]
  calc
    (declarations ++ first :: others).drop _
    _ = (declarations ++ first :: others.takeWhile (fun command => command.line == first.line) ++
          others.dropWhile fun command => command.line == first.line).drop _ := by
        rw [List.append_assoc, List.cons_append, List.takeWhile_append_dropWhile]
    _ = others.dropWhile fun command => command.line == first.line := List.drop_left

theorem line_ne_of_ready {run other reached : Run} {declarations rest : List Command}
    {first : Command} (h : Ready run other (declarations ++ first :: rest))
    (hdeclarations : forall command, command ∈ declarations ->
      command.action.isDeclaration = true)
    (hcarried : carryOut run.counter other declarations = .ok (reached, .complete)) :
    reached.line ≠ some first.line := by
  rcases line_of_complete hcarried with ⟨_, hline⟩ | ⟨command, hmem, hline⟩
  · rw [hline]
    exact h.entered first (by simp)
  · have hmode := h.declared command (by simp [hmem]) (hdeclarations command hmem)
    have hlt := (List.pairwise_append.mp (h.separate hmode)).right.right command hmem first
      (by simp)
    rw [hline]
    intro hsame
    injection hsame with hsame
    omega

theorem step_agrees_of_line {run other : Run} {declarations others : List Command}
    {first : Command} (h : Ready run other (declarations ++ first :: others))
    (hdeclarations : forall command, command ∈ declarations ->
      command.action.isDeclaration = true)
    (hfirst : first.action.isDeclaration = false) :
    Agrees run.step
      (carryOut run.counter other
        (declarations ++ first :: others.takeWhile fun command => command.line == first.line))
      (Reached (Behind run
        (declarations ++ first :: others.takeWhile fun command =>
          command.line == first.line).length
        (others.dropWhile fun command => command.line == first.line))) := by
  rcases isHalted_eq_false.mp h.halted with ⟨hnoError, hidle⟩
  have hhead : forall command, (first :: others).head? = some command ->
      command.action.isDeclaration = false := by
    intro command hcommand
    cases hcommand
    exact hfirst
  have hpassed := passDeclarations_agrees h.scene hidle
    (fun command hmem => ⟨hdeclarations command hmem,
      h.declared command (by simp [hmem]) (hdeclarations command hmem)⟩) hhead
  rw [step_eq h.halted h.place hdeclarations hhead, carryOut_append]
  refine hpassed.bind fun reached ending ready hcarried hready => ?_
  rcases hready with ⟨rfl, hgoes⟩
  show Agrees ((ready.enterLine first.line).runBatch _ >>= _)
    (carryOut (run.counter + declarations.length) reached
      (first :: others.takeWhile fun command => command.line == first.line)) _
  have hscene : (ready.enterLine first.line).scene = (reached.enterLineOf first).scene := by
    rw [enterLineOf_of_line_ne (line_ne_of_ready h hdeclarations hcarried)]
    exact enterLine_eq_of_scene hgoes.scene first.line
  have hbatch := runBatch_agrees hscene (line_enterLineOf reached first)
    fun command hmem => @line_eq_of_mem_batch first command others hmem
  have hcounter : (ready.enterLine first.line).counter = run.counter + declarations.length :=
    hgoes.counter
  rw [hcounter, carryOut_enterLineOf] at hbatch
  refine hbatch.map fun final ending after hlast hreached =>
    reached_of_batch (hreached.imp fun hon => ?_) ?_ ?_
  · refine ⟨hon.scene, ?_, hon.running.trans hgoes.running⟩
    rw [hon.counter, hcounter, List.length_append, Nat.add_assoc]
  · intro hsame
    subst hsame
    rw [isHalted_of_complete hlast, isHalted_of_complete hcarried,
      ← isHalted_eq_of_scene h.scene, h.halted]
  · intro hsame
    subst hsame
    rw [(stays_carryOut hlast).commands, (stays_carryOut hcarried).commands,
      ← commands_eq_of_scene h.scene]
    exact drop_line h.place

/-- A step carries out the commands up to the end of a line, and its line is not met again. -/
theorem step_agrees {run other : Run} {ahead : List Command} (h : Ready run other ahead)
    (hne : ahead ≠ []) :
    exists front back, Splits ahead front back ∧
      Agrees run.step (carryOut run.counter other front)
        (Reached (Behind run front.length back)) := by
  have hsplit :=
    List.takeWhile_append_dropWhile (p := fun command : Command => command.action.isDeclaration)
      (l := ahead)
  have hdeclarations : forall command,
      command ∈ ahead.takeWhile (fun command => command.action.isDeclaration) ->
        command.action.isDeclaration = true :=
    List.all_eq_true.mp List.all_takeWhile
  generalize ahead.takeWhile (fun command => command.action.isDeclaration) = declarations
    at hsplit hdeclarations
  cases hrest : ahead.dropWhile (fun command => command.action.isDeclaration) with
  | nil =>
      rw [hrest, List.append_nil] at hsplit
      subst hsplit
      refine ⟨declarations, [], ⟨by rw [List.append_nil], hne, by simp⟩, ?_⟩
      refine (step_agrees_of_declarations h hdeclarations).imp fun final ending after hafter => ?_
      refine hafter.imp fun hend => ?_
      unfold Behind
      rwa [if_pos rfl]
  | cons first others =>
      have hfirst : first.action.isDeclaration = false := by
        have hhead := List.head?_dropWhile_not
          (fun command : Command => command.action.isDeclaration) ahead
        rw [hrest] at hhead
        simpa using hhead
      rw [hrest] at hsplit
      subst hsplit
      refine ⟨_, _, ⟨?_, by simp, ?_⟩, step_agrees_of_line h hdeclarations hfirst⟩
      · rw [List.append_assoc, List.cons_append, List.takeWhile_append_dropWhile]
      · have hline := List.pairwise_append.mp h.ordered
        rcases List.pairwise_cons.mp hline.right.left with ⟨hlower, hothers⟩
        intro early hearly late hlate
        have hbehind := line_lt_of_mem_dropWhile hothers hlower late hlate
        rcases List.mem_append.mp hearly with hdeclaration | hbatch
        · have hle := hline.right.right early hdeclaration first (by simp)
          omega
        · rw [line_eq_of_mem_batch hbatch]
          exact hbehind

end Run
end Mosaic
