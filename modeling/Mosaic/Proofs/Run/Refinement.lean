import Mosaic.Proofs.Program.Tables
import Mosaic.Proofs.Run.Batches
import Mosaic.Proofs.Run.Faults

/-!
# Runs against single commands

A run that is carried on until it halts ends like its commands carried out one at a time: with the
same picture, at the same command, and with the same problem or none.  It takes at most one step for
each line that holds commands.
-/

namespace Mosaic
namespace Run

/-!
## Steps one after the other
-/

theorem stepWhileRunning_of_stopped {run : Run} (h : run.isRunning = false) (steps : Nat) :
    stepWhileRunning steps run = .ok run := by
  cases steps with
  | zero => rfl
  | succ steps =>
      rw [stepWhileRunning, h]
      rfl

def linesOf (commands : List Command) : List Int := (commands.map Command.line).eraseDups

theorem linesOf_pos {commands : List Command} (h : commands ≠ []) :
    0 < (linesOf commands).length := by
  cases commands with
  | nil => exact absurd rfl h
  | cons first rest =>
      unfold linesOf
      rw [List.map_cons, List.eraseDups_cons]
      simp

theorem length_eraseDups_le : forall lines : List Int, lines.eraseDups.length ≤ lines.length
  | [] => Nat.le_refl 0
  | line :: rest => by
      have hrest := length_eraseDups_le (rest.filter fun other => !other == line)
      have hfilter := List.length_filter_le (fun other => !other == line) rest
      rw [List.eraseDups_cons, List.length_cons, List.length_cons]
      omega
termination_by lines => lines.length
decreasing_by exact Nat.lt_succ_of_le (List.length_filter_le _ _)

theorem length_linesOf_le (commands : List Command) :
    (linesOf commands).length ≤ commands.length := by
  have hlines := length_eraseDups_le (commands.map Command.line)
  rwa [List.length_map] at hlines

theorem linesOf_lt {ahead front back : List Command} (h : Splits ahead front back) :
    (linesOf back).length < (linesOf ahead).length := by
  have hfront := linesOf_pos h.nonempty
  have hfresh : forall line, line ∈ back.map Command.line -> line ∉ front.map Command.line := by
    intro line hline hmem
    rcases List.mem_map.mp hline with ⟨late, hlate, rfl⟩
    rcases List.mem_map.mp hmem with ⟨early, hearly, heq⟩
    have hapart := h.apart early hearly late hlate
    omega
  unfold linesOf at hfront ⊢
  rw [h.append, List.map_append, List.eraseDups_append, Program.removeAll_of_fresh hfresh,
    List.length_append]
  omega

theorem ready_of_goesOn {run other final after : Run} {ahead front back : List Command}
    (h : Ready run other ahead) (hsplits : Splits ahead front back)
    (hgoes : GoesOn run front.length final after)
    (hcarried : carryOut run.counter other front = .ok (final, .complete)) :
    Ready after final back := by
  have hstays := stays_carryOut hcarried
  have hmode : after.mode = run.mode := by
    rw [mode_eq_of_scene hgoes.scene, hstays.mode, mode_eq_of_scene h.scene]
  have happend := hsplits.append
  subst happend
  refine ⟨hgoes.scene, ?_, ?_, (List.pairwise_append.mp h.ordered).right.left, ?_, ?_, ?_⟩
  · rw [commands_eq_of_scene hgoes.scene, hstays.commands, ← commands_eq_of_scene h.scene,
      hgoes.counter, ← List.drop_drop, h.place, List.drop_left]
  · rw [isHalted_eq_of_scene hgoes.scene, isHalted_of_complete hcarried,
      ← isHalted_eq_of_scene h.scene, h.halted]
  · intro hpixel
    rw [hmode] at hpixel
    exact (List.pairwise_append.mp (h.separate hpixel)).right.left
  · intro command hmem hdeclaration
    rw [hmode]
    exact h.declared command (by simp [hmem]) hdeclaration
  · intro command hmem
    rcases line_of_complete hcarried with ⟨hnil, _⟩ | ⟨early, hearly, hline⟩
    · exact absurd hnil hsplits.nonempty
    · have hapart := hsplits.apart early hearly command hmem
      rw [hline]
      intro hsame
      injection hsame with hsame
      omega

/-- With a step for each line ahead, a run comes to the end of its program or halts before it. -/
theorem stepWhileRunning_agrees (steps : Nat) {run other : Run} {ahead : List Command}
    (h : Ready run other ahead) (hrunning : run.isRunning = true) (hne : ahead ≠ [])
    (hsteps : (linesOf ahead).length ≤ steps) :
    Agrees (stepWhileRunning steps run) (carryOut run.counter other ahead)
      (Reached (ComesToEnd run ahead.length)) := by
  induction steps generalizing run other ahead with
  | zero =>
      have hpos := linesOf_pos hne
      omega
  | succ steps ih =>
      rcases step_agrees h hne with ⟨front, back, hsplits, hstep⟩
      have hfewer := linesOf_lt hsplits
      have happend := hsplits.append
      subst happend
      rw [stepWhileRunning, if_pos hrunning, carryOut_append]
      refine hstep.bind fun final ending after hcarried hreached => ?_
      cases hreached with
      | failed scene counter running =>
          exact ⟨after, stepWhileRunning_of_stopped running steps,
            Reached.failed scene counter running⟩
      | left scene outcome counter running =>
          exact ⟨after, stepWhileRunning_of_stopped running steps,
            Reached.left scene outcome counter running⟩
      | complete hbehind =>
          unfold Behind at hbehind
          show Agrees _ (carryOut (run.counter + front.length) final back) _
          split at hbehind
          · rename_i hback
            subst hback
            refine ⟨after, stepWhileRunning_of_stopped hbehind.running steps, ?_⟩
            rw [List.append_nil]
            exact Reached.complete hbehind
          · rename_i hback
            have hlater := ih (ready_of_goesOn h hsplits hbehind hcarried)
              (hbehind.running.trans hrunning) hback (by omega)
            rw [hbehind.counter] at hlater
            refine hlater.imp fun last ending after hafter => hafter.imp fun hend => ?_
            refine ⟨hend.scene, ?_, hend.running⟩
            rw [hend.counter, hbehind.counter, List.length_append, Nat.add_assoc]

/-!
## Loaded programs
-/

theorem load_eq_ok {run loaded : Run} {source : String} {asTarget : Bool} {program : Program}
    (hprogram : Program.load run.mode source = .ok program)
    (hload : run.load source asTarget = .ok loaded) :
    exists target targetCode,
      loaded = { run.withProgram program with target := target, targetCode := targetCode } := by
  unfold load at hload
  rw [hprogram] at hload
  simp only at hload
  split at hload
  · rcases Attempts.bind_eq_ok_iff.mp hload with ⟨target, _, hpure⟩
    rw [← Attempts.pure_eq_ok_iff.mp hpure]
    exact ⟨target, some source, rfl⟩
  · cases hload
    exact ⟨run.target, run.targetCode, rfl⟩

structure AtStart (program : Program) (commands : List Command) (run : Run) : Prop where
  mode : run.mode = program.mode
  commands : run.commands = commands
  counter : run.counter = 0
  grid : run.grid = Program.initialGrid program.mode program.size
  anchor : run.anchor = (0, 0)
  cursor : run.cursor = (0, 0)
  line : run.line = none
  error : run.error = none
  outcome : run.outcome = .idle

theorem atStart_withProgram {run : Run} {program : Program} (hmode : run.mode = program.mode)
    (commands : List Command) :
    AtStart program commands (run.withProgram { program with commands := commands }) := by
  refine ⟨hmode, rfl, rfl, ?_, rfl, rfl, rfl, rfl, rfl⟩
  rw [← hmode]
  rfl

theorem atStart_of_load {run loaded : Run} {source : String} {asTarget : Bool} {program : Program}
    (hprogram : Program.load run.mode source = .ok program)
    (hload : run.load source asTarget = .ok loaded) : AtStart program program.commands loaded := by
  have hmode := (Program.load_eq_ok hprogram).left
  have hstart := atStart_withProgram hmode.symm program.commands
  rcases load_eq_ok hprogram hload with ⟨target, targetCode, rfl⟩
  exact ⟨hstart.mode, rfl, rfl, hstart.grid, rfl, rfl, rfl, rfl, rfl⟩

theorem ready_of_atStart {run : Run} {program : Program} {commands : List Command}
    (h : AtStart program commands run) (hwell : program.WellFormed)
    (hsub : commands.Sublist program.commands) : Ready run run commands := by
  refine ⟨rfl, ?_, isHalted_eq_false.mpr ⟨h.error, h.outcome⟩, hwell.ordered.sublist hsub, ?_, ?_,
    ?_⟩
  · rw [h.counter, h.commands, List.drop_zero]
  · intro hpixel
    exact (hwell.separate (by rwa [← h.mode])).sublist hsub
  · intro command hmem hdeclaration hpixel
    have hallowed := hwell.allowed command (hsub.subset hmem)
    cases haction : command.action with
    | declare rows columns =>
        rw [haction] at hallowed
        have hdeclares : program.mode.declaresSize = true := hallowed.left
        rw [← h.mode, hpixel] at hdeclares
        cases hdeclares
    | _ =>
        rw [haction] at hdeclaration
        cases hdeclaration
  · intro command hmem hline
    rw [h.line] at hline
    cases hline

theorem ready_of_load {run loaded : Run} {source : String} {asTarget : Bool} {program : Program}
    (hprogram : Program.load run.mode source = .ok program)
    (hload : run.load source asTarget = .ok loaded) :
    Ready loaded loaded program.commands :=
  ready_of_atStart (atStart_of_load hprogram hload) (Program.load_wellFormed hprogram)
    (List.Sublist.refl program.commands)

/-!
## The result of a run
-/

/-- Two runs with the same picture and the same counts. -/
structure ShowsLike (halted final : Run) : Prop where
  grid : halted.grid = final.grid
  maze : halted.maze = final.maze
  anchor : halted.anchor = final.anchor
  cursor : halted.cursor = final.cursor
  movements : halted.movements = final.movements
  mazeScore : halted.mazeScore = final.mazeScore

/-- A halted run that tells how its program, of so many commands, came to its ending. -/
def EndsAs (length : Nat) (final halted : Run) : Ending -> Prop
  | .complete =>
      halted.counter = length ∧ halted.error = none ∧
        halted.outcome = if final.mode ≠ .maze ∧ final.target.isSome ∧ final.grid = final.target
          then .success else .idle
  | .failed index problem =>
      halted.counter = index ∧ halted.error = some problem ∧ halted.outcome = .failure
  | .left index =>
      halted.counter = index + 1 ∧ halted.error = none ∧ halted.outcome = .success

theorem showsLike_of_scene {halted final : Run} (h : halted.scene = final.scene) :
    ShowsLike halted final := by
  constructor
  · exact eq_of_scene Run.grid (fun _ => rfl) h
  · exact eq_of_scene Run.maze (fun _ => rfl) h
  · exact eq_of_scene Run.anchor (fun _ => rfl) h
  · exact eq_of_scene Run.cursor (fun _ => rfl) h
  · exact eq_of_scene Run.movements (fun _ => rfl) h
  · exact eq_of_scene Run.mazeScore (fun _ => rfl) h

theorem error_eq_of_scene {run other : Run} (h : run.scene = other.scene) :
    run.error = other.error :=
  eq_of_scene Run.error (fun _ => rfl) h

theorem outcome_finished {run : Run} (h : run.outcome = .idle) :
    run.finished.outcome =
      if run.mode ≠ .maze ∧ run.target.isSome ∧ run.grid = run.target then .success else .idle := by
  unfold finished
  simp only [h, Bool.and_eq_true, bne_iff_ne, beq_iff_eq, and_assoc]

theorem endsAs_of_reached {run final after : Run} {count : Nat} {ending : Ending}
    (herror : final.error = none) (hidle : ending = .complete -> final.outcome = .idle)
    (h : Reached (ComesToEnd run count) final ending after) :
    ShowsLike after.stopped final ∧
      EndsAs (run.counter + count) final after.stopped ending := by
  cases h with
  | complete hend =>
      have hshows := showsLike_of_scene hend.scene
      refine ⟨⟨hshows.grid, hshows.maze, hshows.anchor, hshows.cursor, hshows.movements,
        hshows.mazeScore⟩, hend.counter, ?_, ?_⟩
      · exact (error_eq_of_scene hend.scene).trans herror
      · exact (outcome_eq_of_scene hend.scene).trans (outcome_finished (hidle rfl))
  | failed scene counter running =>
      have hshows := showsLike_of_scene scene
      exact ⟨⟨hshows.grid, hshows.maze, hshows.anchor, hshows.cursor, hshows.movements,
        hshows.mazeScore⟩, counter, error_eq_of_scene scene, outcome_eq_of_scene scene⟩
  | left scene outcome counter running =>
      have hshows := showsLike_of_scene scene
      exact ⟨⟨hshows.grid, hshows.maze, hshows.anchor, hshows.cursor, hshows.movements,
        hshows.mazeScore⟩, counter, (error_eq_of_scene scene).trans herror, outcome⟩

theorem runToHalt_agrees_of_ready {run : Run} {commands : List Command} {maxSteps : Int}
    (h : Ready run run commands) (hcommands : commands ≠ [])
    (hsteps : ((linesOf commands).length : Int) ≤ maxSteps) :
    Agrees (run.runToHalt maxSteps) (carryOut run.counter run commands)
      (fun final ending halted =>
        ShowsLike halted final ∧ EndsAs (run.counter + commands.length) final halted ending) := by
  have hlines := linesOf_pos hcommands
  rcases isHalted_eq_false.mp h.halted with ⟨hnone, hidle⟩
  have hrunning : run.resumed.isRunning = true := by
    show (!run.isHalted && !run.isFinished) = true
    rw [h.halted, isFinished_of_drop h.place]
    cases hcase : commands with
    | nil => exact absurd hcase hcommands
    | cons first rest => rfl
  have hresumed : Ready run.resumed run commands :=
    ⟨rfl, h.place, h.halted, h.ordered, h.separate, h.declared, h.entered⟩
  have hsteps := stepWhileRunning_agrees maxSteps.toNat hresumed hrunning hcommands (by omega)
  change Agrees _ (carryOut run.counter run _) _ at hsteps
  unfold runToHalt
  rw [if_neg (by omega)]
  refine hsteps.map fun final ending after hcarried hreached =>
    @endsAs_of_reached run.resumed _ _ _ _ ?_ ?_ hreached
  · rw [(stays_carryOut hcarried).error, hnone]
  · intro hsame
    subst hsame
    rw [outcome_of_complete hcarried, hidle]

theorem runToHalt_agrees {run loaded : Run} {source : String} {asTarget : Bool}
    {program : Program} {maxSteps : Int}
    (hprogram : Program.load run.mode source = .ok program)
    (hload : run.load source asTarget = .ok loaded) (hcommands : program.commands ≠ [])
    (hsteps : (program.lineCount : Int) ≤ maxSteps) :
    Agrees (loaded.runToHalt maxSteps) (carryOut 0 loaded program.commands)
      (fun final ending halted =>
        ShowsLike halted final ∧ EndsAs program.commands.length final halted ending) := by
  have hagrees := runToHalt_agrees_of_ready (ready_of_load hprogram hload) hcommands hsteps
  rwa [(atStart_of_load hprogram hload).counter, Nat.zero_add] at hagrees

/-- A run with a step for each line of its program ends as the commands do one at a time.  They come
to an ending unless a strip of GRID misses the table at a place that cannot be written, and then the
run has no result at all. -/
theorem runToHalt_refines_commands {run loaded : Run} {source : String} {asTarget : Bool}
    {program : Program} {maxSteps : Int}
    (hprogram : Program.load run.mode source = .ok program)
    (hload : run.load source asTarget = .ok loaded) (hcommands : program.commands ≠ [])
    (hsteps : (program.lineCount : Int) ≤ maxSteps) :
    (forall final ending, carryOut 0 loaded program.commands = .ok (final, ending) ->
        exists halted, loaded.runToHalt maxSteps = .ok halted ∧
          ShowsLike halted final ∧ EndsAs program.commands.length final halted ending) ∧
      (Stumbles 0 loaded program.commands ->
        run.mode = .grid ∧ loaded.runToHalt maxSteps = .error (.numeral .tooLarge)) ∧
      ((forall maze, loaded.maze = some maze -> maze.Grounded) ->
        Not (Stumbles 0 loaded program.commands) ->
          exists final ending, carryOut 0 loaded program.commands = .ok (final, ending)) := by
  have hagrees := runToHalt_agrees hprogram hload hcommands hsteps
  have hwell := Program.load_wellFormed hprogram
  have hmode := (Program.load_eq_ok hprogram).left
  rcases load_eq_ok hprogram hload with ⟨target, targetCode, hloaded⟩
  have hloadedMode : loaded.mode = program.mode := by
    rw [hloaded, hmode]
    rfl
  have hallowed : forall command, command ∈ program.commands ->
      loaded.mode.Allows command.action := by
    rw [hloadedMode]
    exact hwell.allowed
  refine ⟨?_, ?_, ?_⟩
  · intro final ending hcarried
    rw [hcarried] at hagrees
    exact hagrees
  · intro hstumbles
    rw [carryOut_of_stumbles hstumbles] at hagrees
    refine ⟨?_, hagrees⟩
    rw [← hmode, ← hloadedMode]
    exact mode_of_stumbles hallowed hstumbles
  · intro hmaze hclear
    have hgrid : loaded.grid = Program.initialGrid program.mode program.size := by
      rw [hloaded, hmode]
      rfl
    have hfits := fits_of_wellFormed hwell hcommands hloadedMode hgrid fun _ => hmaze
    cases hcarried : carryOut 0 loaded program.commands with
    | error fault => exact absurd (stumbles_of_carryOut hfits hallowed hcarried) hclear
    | ok reached => exact ⟨reached.1, reached.2, rfl⟩

theorem load_longStrip : Program.load .table "1#2\n1 R 0 0\n3 G 0 0" =
    .ok ⟨.table, "1#2\n1 R 0 0\n3 G 0 0",
      [⟨0, .declare 1 2⟩, ⟨1, .strip 1 .red 0 0⟩, ⟨2, .strip 3 .green 0 0⟩], some (1, 2)⟩ := by
  have htext : Program.tableText 1 2 [.strip 1 .red 0 0, .strip 3 .green 0 0] =
      "1#2\n1 R 0 0\n3 G 0 0" := by decide
  have hsize : Program.Declarable 1 2 := ⟨by decide, by decide, by decide, by decide⟩
  have hstrips : forall strip, strip ∈ [Primitive.strip 1 .red 0 0, .strip 3 .green 0 0] ->
      strip.IsWritable .table ∧ strip.isDeclaration = false := by
    rw [List.forall_mem_cons, List.forall_mem_singleton]
    constructor
    · exact ⟨Program.isWritable_strip (Or.inl rfl) (by decide) (by decide) (by decide), rfl⟩
    · exact ⟨Program.isWritable_strip (Or.inr (Or.inl rfl)) (by decide) (by decide) (by decide), rfl⟩
  have hload := Program.load_tableText rfl hsize hstrips
  unfold Program.tableProgram at hload
  rw [htext] at hload
  exact hload

/-- A strip is painted, and the next one is too long: the run stops there with what it has. -/
theorem runToHalt_refines_commands_long_strip :
    exists loaded halted, (start .table none).load "1#2\n1 R 0 0\n3 G 0 0" false = .ok loaded ∧
      loaded.runToHalt 3 = .ok halted ∧ halted.counter = 2 ∧
      halted.error = some ⟨2, .stripTooLong⟩ ∧ halted.outcome = .failure ∧
      halted.grid = some [[some .red, none]] := by
  have hprogram : Program.load (start .table none).mode "1#2\n1 R 0 0\n3 G 0 0" =
      .ok ⟨.table, "1#2\n1 R 0 0\n3 G 0 0",
        [⟨0, .declare 1 2⟩, ⟨1, .strip 1 .red 0 0⟩, ⟨2, .strip 3 .green 0 0⟩], some (1, 2)⟩ :=
    load_longStrip
  have hload : exists loaded,
      (start .table none).load "1#2\n1 R 0 0\n3 G 0 0" false = .ok loaded :=
    ⟨_, load_of_program hprogram⟩
  rcases hload with ⟨loaded, hload⟩
  have hlines : ((([0, 1, 2] : List Int).eraseDups.length : Nat) : Int) ≤ 3 := by decide
  have hrefines := (runToHalt_refines_commands hprogram hload (by simp) hlines).left
  rcases load_eq_ok hprogram hload with ⟨target, targetCode, hloaded⟩
  subst hloaded
  rcases hrefines _ _ rfl with ⟨halted, hhalted, hshows, hcounter, herror, houtcome⟩
  exact ⟨_, halted, hload, hhalted, hcounter, herror, houtcome, hshows.grid⟩

/-- A program for a table of two rows, whose second strip lies below the first by a number of rows
that is written with so many nines. -/
def farStrip (digits : Nat) : String := String.ofList
  ("2#1".toList ++ '\n' ::
    ("1 R 0 1".toList ++ '\n' :: ("1 R 0 ".toList ++ List.replicate digits '9')))

theorem tableText_farStrip (n : Nat) :
    Program.tableText 2 1 [.shifted 1 .red 0 1,
      .shifted 1 .red 0 (Text.decimalValue (List.replicate (n + 1) '9'))] = farStrip (n + 1) := by
  have hnines : (toString (Text.decimalValue (List.replicate (n + 1) '9') : Int)).toList =
      List.replicate (n + 1) '9' :=
    (Text.toList_toString_ofNat _).trans (Text.toDigits_nines n)
  have hdeclaration : (Primitive.declare 2 1).written = "2#1".toList := by decide
  have hfirst : (Primitive.shifted 1 .red 0 1).written = "1 R 0 1".toList := by decide
  have hone : Nat.toDigits 10 1 = ['1'] := by decide
  have hzero : (toString (0 : Int)).toList = ['0'] := by decide
  unfold Program.tableText farStrip Text.joinLines
  rw [List.map_cons, List.map_cons, List.map_cons, hdeclaration, hfirst]
  simp only [Primitive.written, Primitive.words, hone, hzero, hnines, Text.spaced_cons_cons,
    Text.spaced_singleton, List.map_nil, List.intercalate_cons_cons, List.intercalate_singleton,
    List.append_assoc]
  rfl

theorem load_farStrip {n : Nat} (h : n + 1 ≤ Text.digitLimit) :
    Program.load .grid (farStrip (n + 1)) = .ok ⟨.grid, farStrip (n + 1),
      [⟨0, .declare 2 1⟩, ⟨1, .shifted 1 .red 0 1⟩,
        ⟨2, .shifted 1 .red 0 (Text.decimalValue (List.replicate (n + 1) '9'))⟩], some (2, 1)⟩ := by
  have hshort : Text.IsWritable (Text.decimalValue (List.replicate (n + 1) '9')) := by
    have hvalue := Text.decimalValue_lt (List.replicate (n + 1) '9')
    rw [List.length_replicate] at hvalue
    exact Text.isWritable_of_lt hvalue h
  have hsize : Program.Declarable 2 1 := ⟨by decide, by decide, by decide, by decide⟩
  have hstrips : forall strip, strip ∈ [Primitive.shifted 1 .red 0 1,
      .shifted 1 .red 0 (Text.decimalValue (List.replicate (n + 1) '9'))] ->
      strip.IsWritable .grid ∧ strip.isDeclaration = false := by
    rw [List.forall_mem_cons, List.forall_mem_singleton]
    constructor
    · exact ⟨Program.isWritable_shifted (Or.inl rfl) (by decide) (by decide) (by decide), rfl⟩
    · exact ⟨⟨rfl, Or.inl rfl, Program.isWritable_of_small (by decide),
        Program.isWritable_of_small (by decide), hshort⟩, rfl⟩
  have hload := Program.load_tableText rfl hsize hstrips
  unfold Program.tableProgram at hload
  rw [tableText_farStrip] at hload
  exact hload

theorem not_isWritable_farRow {n : Nat} (h : n = Text.digitLimit) :
    Not (Text.IsWritable (1 + Text.decimalValue (List.replicate n '9'))) ∧
      Not (Within (1 + Text.decimalValue (List.replicate n '9')) 2) := by
  have hnines := Text.decimalValue_nines n
  have hten : 10 ≤ Nat.pow 10 n := @Text.pow_ten_le 1 n (by rw [h]; decide)
  unfold Text.IsWritable Within
  rw [← h, ← hnines]
  omega

/-- Loaded without a problem, and then carried on without a result. -/
theorem not_runToHalt_refines_commands :
    exists program loaded,
      Program.load (start .grid none).mode (farStrip Text.digitLimit) = .ok program ∧
        (start .grid none).load (farStrip Text.digitLimit) false = .ok loaded ∧
        program.commands ≠ [] ∧ (program.lineCount : Int) ≤ 3 ∧
        forall halted, loaded.runToHalt 3 ≠ .ok halted := by
  rcases (⟨4299, rfl⟩ : exists n, n + 1 = Text.digitLimit) with ⟨n, hlimit⟩
  rw [← hlimit]
  have hprogram : Program.load (start .grid none).mode (farStrip (n + 1)) = _ :=
    load_farStrip (Nat.le_of_eq hlimit)
  have hload : exists loaded, (start .grid none).load (farStrip (n + 1)) false = .ok loaded :=
    ⟨_, load_of_program hprogram⟩
  rcases hload with ⟨loaded, hload⟩
  have hlines : ((([0, 1, 2] : List Int).eraseDups.length : Nat) : Int) ≤ 3 := by decide
  refine ⟨_, loaded, hprogram, hload, by simp, hlines, ?_⟩
  rcases load_eq_ok hprogram hload with ⟨target, targetCode, hloaded⟩
  have hstumbles : Stumbles 0 loaded
      [⟨0, .declare 2 1⟩, ⟨1, .shifted 1 .red 0 1⟩,
        ⟨2, .shifted 1 .red 0 (Text.decimalValue (List.replicate (n + 1) '9'))⟩] := by
    rcases not_isWritable_farRow hlimit with ⟨hlong, hbelow⟩
    subst hloaded
    refine ⟨[⟨0, .declare 2 1⟩, ⟨1, .shifted 1 .red 0 1⟩], _, [], _, rfl, rfl, ?_⟩
    exact ⟨_, _, rfl, Or.inl ⟨hbelow, hlong⟩⟩
  have hagrees := runToHalt_agrees hprogram hload (by simp) hlines
  rw [carryOut_of_stumbles hstumbles] at hagrees
  intro halted hhalted
  change loaded.runToHalt 3 = .error (.numeral .tooLarge) at hagrees
  rw [hhalted] at hagrees
  cases hagrees

end Run
end Mosaic
