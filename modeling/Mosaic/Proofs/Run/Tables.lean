import Mosaic.Proofs.Run.Strips

/-!
# Table programs

A program of TABLE or GRID paints its strips until one of them has no room.  The declaration in front
of them costs no step of its own, so a step for each strip is enough.
-/

namespace Mosaic
namespace Run

/-!
## Strips one after the other
-/

theorem carryOut_strips {run : Run} {mode : Mode} {rows columns : Nat} {paints : List Command}
    (hrows : 0 < rows) (hof : Strips.Of mode (paints.map Command.action))
    (h : run.Bears rows columns (paints.map Command.action) 0) (hidle : run.outcome = .idle)
    (index : Nat) {count : Nat} (hcount : count ≤ paints.length)
    (hroom : forall place, place < count ->
      Strips.HasRoom rows columns (paints.map Command.action) place) :
    exists reached, carryOut index run (paints.take count) = .ok (reached, .complete) ∧
      reached.Bears rows columns (paints.map Command.action) count := by
  induction count with
  | zero => exact ⟨run, rfl, h⟩
  | succ count ih =>
      rcases ih (Nat.le_of_succ_le hcount) (fun place hplace => hroom place (by omega)) with
        ⟨reached, hreached, hbears⟩
      have hstill := (outcome_of_complete hreached).trans hidle
      have hstrip : (paints.map Command.action)[count]? = some paints[count].action := by
        rw [List.getElem?_map, List.getElem?_eq_getElem hcount]
        rfl
      rcases bears_apply hrows hof (bears_enterLineOf hbears paints[count]) hstrip
        (hroom count (Nat.lt_succ_self count)) paints[count].line with ⟨hfault, houtcome, hnext⟩
      have hgoing := houtcome.trans
        ((frame_enterLineOf reached paints[count]).2.2.2.2.1.trans hstill)
      refine ⟨_, ?_, hnext⟩
      rw [List.take_succ_eq_append_getElem hcount, carryOut_append, hreached]
      exact carryOut_cons_of_none [] hfault hgoing

/-- How carrying out strips ends, the first of them at an index. -/
def tableEnding (index rows columns : Nat) (paints : List Command) (first : Nat) : Ending :=
  match paints[first]? with
  | none => .complete
  | some command =>
      .failed (index + first)
        ⟨command.line, Strips.complaint rows columns (paints.map Command.action) first⟩

theorem carryOut_table {run : Run} {mode : Mode} {rows columns : Nat} {paints : List Command}
    (hrows : 0 < rows) (hof : Strips.Of mode (paints.map Command.action))
    (h : run.Bears rows columns (paints.map Command.action) 0) (hidle : run.outcome = .idle)
    (index : Nat) :
    (Strips.Stumble rows columns (paints.map Command.action) ->
      carryOut index run paints = .error (.numeral .tooLarge)) ∧
    (Not (Strips.Stumble rows columns (paints.map Command.action)) ->
      exists final,
        carryOut index run paints = .ok (final, tableEnding index rows columns paints
          (Strips.firstOut rows columns (paints.map Command.action))) ∧
        final.Bears rows columns (paints.map Command.action)
          (Strips.firstOut rows columns (paints.map Command.action))) := by
  have hfirst := Strips.firstOut_le rows columns (paints.map Command.action)
  have hroom := fun place =>
    @Strips.hasRoom_of_lt_firstOut rows columns place (paints.map Command.action)
  have hout := @Strips.not_hasRoom_firstOut rows columns (paints.map Command.action)
  unfold Strips.Stumble tableEnding
  rw [List.length_map] at hfirst hout ⊢
  generalize Strips.firstOut rows columns (paints.map Command.action) = first at *
  rcases carryOut_strips hrows hof h hidle index hfirst hroom with ⟨reached, hreached, hbears⟩
  by_cases hall : first = paints.length
  · rw [hall, List.take_length] at hreached
    rw [List.getElem?_eq_none (Nat.le_of_eq hall.symm)]
    refine ⟨fun hstumble => absurd hstumble.left (by omega), fun _ => ?_⟩
    exact ⟨reached, hreached, hbears⟩
  · have hlt : first < paints.length := by omega
    have hstrip : (paints.map Command.action)[first]? = some paints[first].action := by
      rw [List.getElem?_map, List.getElem?_eq_getElem hlt]
      rfl
    rcases apply_of_not_hasRoom hrows hof (bears_enterLineOf hbears paints[first]) hstrip
      (hout hlt) paints[first].line with ⟨hsame, hnameless, hnamed⟩
    have hsplit : carryOut index run paints =
        carryOut (index + first) reached (paints[first] :: paints.drop (first + 1)) := by
      conv => lhs; rw [← List.take_append_drop first paints, List.drop_eq_getElem_cons hlt]
      rw [carryOut_append, hreached, List.length_take, Nat.min_eq_left hfirst]
      rfl
    rw [hsplit, carryOut, List.getElem?_eq_getElem hlt]
    unfold applyCommand
    constructor
    · intro hstumble
      rw [hnameless hstumble.right]
    · intro hclear
      rw [hnamed fun hname => hclear ⟨hlt, hname⟩]
      refine ⟨_, rfl, ?_⟩
      rw [hsame]
      exact bears_enterLineOf hbears paints[first]

/-!
## The declaration
-/

def passed (run : Run) : Run := { run with counter := run.counter + 1 }

structure Declares (run : Run) (rows columns : Nat) (rest : List Command) : Prop where
  place : exists line, run.commands.drop run.counter = ⟨line, .declare rows columns⟩ :: rest
  halted : run.isHalted = false
  tall : 1 ≤ rows
  wide : 1 ≤ columns
  grid : run.grid = some (Grid.blank rows columns)
  anchor : run.anchor = (0, 0)

theorem drop_passed {run : Run} {rows columns : Nat} {rest : List Command}
    (h : run.Declares rows columns rest) : run.passed.commands.drop run.passed.counter = rest := by
  rcases h.place with ⟨line, hplace⟩
  show run.commands.drop (run.counter + 1) = rest
  rw [← List.drop_drop, hplace]
  rfl

theorem passDeclarations_passed {run : Run} {rows columns : Nat} {rest : List Command}
    (h : run.Declares rows columns rest) (line : Int) :
    run.passDeclarations (⟨line, .declare rows columns⟩ :: rest) =
      run.passed.passDeclarations rest := by
  have hdeclared : run.applyCommand ⟨line, .declare rows columns⟩ = done run := by
    show run.declared rows columns = done run
    rw [declared_eq_done run h.tall h.wide, ← h.grid, ← h.anchor]
  rw [passDeclarations, hdeclared]
  rfl

theorem step_passed {run : Run} {rows columns : Nat} {rest : List Command}
    (h : run.Declares rows columns rest) : run.passed.step = run.step := by
  rcases h.place with ⟨line, hplace⟩
  have hhalted : run.passed.isHalted = false := h.halted
  unfold step
  rw [if_neg (by simp [hhalted]), if_neg (by simp [h.halted])]
  simp only [drop_passed h, hplace, passDeclarations_passed h]
  rfl

theorem declares_resumed {run : Run} {rows columns : Nat} {rest : List Command}
    (h : run.Declares rows columns rest) :
    run.resumed.Declares rows columns rest ∧ run.resumed.isRunning = true := by
  rcases h.place with ⟨line, hplace⟩
  refine ⟨⟨h.place, h.halted, h.tall, h.wide, h.grid, h.anchor⟩, ?_⟩
  show (!run.isHalted && !run.isFinished) = true
  rw [h.halted, isFinished_of_drop hplace]
  rfl

theorem runToHalt_passed {run : Run} {rows columns : Nat} {rest : List Command}
    (h : run.Declares rows columns rest) (hne : rest ≠ []) (maxSteps : Int) :
    run.passed.runToHalt maxSteps = run.runToHalt maxSteps := by
  rcases declares_resumed h with ⟨hdeclares, hrunning⟩
  have hresumed : run.passed.resumed = run.resumed.passed := by
    have hahead : (!run.passed.isHalted && !run.passed.isFinished) = run.resumed.isRunning := by
      rw [hrunning, isFinished_of_drop (drop_passed h), List.isEmpty_eq_false_iff.mpr hne]
      show (!run.isHalted && true) = true
      rw [h.halted]
      rfl
    unfold resumed at hahead ⊢
    rw [hahead]
    rfl
  unfold runToHalt
  split
  · rfl
  · rename_i hpositive
    cases hsteps : maxSteps.toNat with
    | zero => omega
    | succ steps =>
        have hstill : run.resumed.passed.isRunning = true := hrunning
        rw [hresumed, stepWhileRunning, stepWhileRunning, if_pos hstill, if_pos hrunning,
          step_passed hdeclares]

theorem runToHalt_of_declaration {run : Run} {rows columns : Nat}
    (h : run.Declares rows columns []) {maxSteps : Int} (hpositive : 0 < maxSteps) :
    run.runToHalt maxSteps = .ok run.passed.finished := by
  rcases declares_resumed h with ⟨hdeclares, hrunning⟩
  have hhalted : run.resumed.passed.isHalted = false := h.halted
  have hstep : run.resumed.step = .ok run.passed.finished := by
    rw [← step_passed hdeclares, step, if_neg (by simp [hhalted])]
    simp only [drop_passed hdeclares]
    rfl
  unfold runToHalt
  rw [if_neg (by omega)]
  cases hsteps : maxSteps.toNat with
  | zero => omega
  | succ steps =>
      rw [stepWhileRunning, if_pos hrunning, hstep]
      show (stepWhileRunning steps run.passed.finished >>= _) = _
      rw [stepWhileRunning_of_stopped rfl]
      rfl

theorem runToHalt_agrees_of_declares {run : Run} {rows columns : Nat} {rest : List Command}
    {maxSteps : Int} (h : run.Declares rows columns rest) (hready : Ready run.passed run.passed rest)
    (hpositive : 0 < maxSteps) (hsteps : ((linesOf rest).length : Int) ≤ maxSteps) :
    Agrees (run.runToHalt maxSteps) (carryOut run.passed.counter run.passed rest)
      (fun final ending halted => ShowsLike halted final ∧
        EndsAs (run.passed.counter + rest.length) final halted ending) := by
  by_cases hne : rest = []
  · subst hne
    rcases isHalted_eq_false.mp hready.halted with ⟨hnone, hidle⟩
    rw [runToHalt_of_declaration h hpositive]
    exact ⟨run.passed.finished, rfl, ⟨rfl, rfl, rfl, rfl, rfl, rfl⟩, rfl, hnone,
      outcome_finished hidle⟩
  · rw [← runToHalt_passed h hne]
    exact runToHalt_agrees_of_ready hready hne hsteps

/-!
## Loaded programs
-/

/-- A loaded program that declares a table and then holds strips. -/
structure Tabled (program : Program) (rows columns : Nat) (paints : List Command) : Prop where
  commands : exists line, program.commands = ⟨line, .declare rows columns⟩ :: paints
  strips : Strips.Of program.mode (paints.map Command.action)
  tall : 1 ≤ rows
  wide : 1 ≤ columns
  size : program.size = some (rows, columns)

theorem tabled_of_commands {program : Program} (h : program.WellFormed) {line : Int}
    {rows columns : Nat} {paints : List Command}
    (hcommands : program.commands = ⟨line, .declare rows columns⟩ :: paints) :
    Tabled program rows columns paints := by
  rcases h.allowed ⟨line, .declare rows columns⟩ (by simp [hcommands]) with ⟨hsized, htall, hwide⟩
  rcases h.declared hsized with ⟨hnil, _⟩ | ⟨first, height, width, rest, hcons, hsize, hrest⟩
  · rw [hnil] at hcommands
    cases hcommands
  · rw [hcommands] at hcons
    cases hcons
    refine ⟨⟨line, hcommands⟩, ⟨hsized, ?_, ?_⟩, htall, hwide, hsize⟩
    · intro strip hstrip
      rcases List.mem_map.mp hstrip with ⟨command, hcommand, rfl⟩
      exact h.allowed command (by simp [hcommands, hcommand])
    · intro strip hstrip
      rcases List.mem_map.mp hstrip with ⟨command, hcommand, rfl⟩
      exact hrest command hcommand

theorem Tabled.mode_ne_maze {program : Program} {rows columns : Nat} {paints : List Command}
    (h : Tabled program rows columns paints) : program.mode ≠ .maze :=
  Mode.ne_maze_of_declaresSize h.strips.sized

theorem declares_of_atStart {run : Run} {program : Program} {rows columns : Nat}
    {paints : List Command} (h : AtStart program program.commands run)
    (htabled : Tabled program rows columns paints) : run.Declares rows columns paints := by
  rcases htabled.commands with ⟨line, hcommands⟩
  refine ⟨⟨line, ?_⟩, isHalted_eq_false.mpr ⟨h.error, h.outcome⟩, htabled.tall, htabled.wide, ?_,
    h.anchor⟩
  · rw [h.counter, h.commands, List.drop_zero, hcommands]
  · rw [h.grid, htabled.size, Program.initialGrid, if_neg htabled.mode_ne_maze]
    rfl

theorem ready_passed {run : Run} {rows columns : Nat} {command : Command} {rest : List Command}
    (h : Ready run run (command :: rest)) (hdeclares : run.Declares rows columns rest) :
    Ready run.passed run.passed rest :=
  ⟨rfl, drop_passed hdeclares, h.halted, (List.pairwise_cons.mp h.ordered).right,
    fun hpixel => (List.pairwise_cons.mp (h.separate hpixel)).right,
    fun later hlater => h.declared later (by simp [hlater]),
    fun later hlater => h.entered later (by simp [hlater])⟩

theorem bears_blank {run : Run} {rows columns : Nat} (strips : Strips)
    (hgrid : run.grid = some (Grid.blank rows columns)) (hanchor : run.anchor = (0, 0))
    (hmovements : run.movements = 0) : run.Bears rows columns strips 0 := by
  refine ⟨⟨Grid.blank rows columns, hgrid, Grid.length_blank rows columns,
    Grid.blank_isRectangular rows columns, ?_⟩, hanchor, congrArg Int.ofNat hmovements⟩
  intro row column hrow hcolumn
  exact Grid.cell?_blank hrow hcolumn

theorem Bears.of_showsLike {run other : Run} {rows columns count : Nat} {strips : Strips}
    (h : other.Bears rows columns strips count) (hshows : ShowsLike run other) :
    run.Bears rows columns strips count := by
  refine ⟨?_, hshows.anchor.trans h.anchor, (congrArg Int.ofNat hshows.movements).trans h.movements⟩
  rw [hshows.grid]
  exact h.grid

theorem runToHalt_agrees_of_tabled {run loaded : Run} {source : String} {asTarget : Bool}
    {program : Program} {rows columns : Nat} {paints : List Command} {maxSteps : Int}
    (hprogram : Program.load run.mode source = .ok program)
    (hload : run.load source asTarget = .ok loaded) (h : Tabled program rows columns paints)
    (hsteps : max (paints.length : Int) 1 ≤ maxSteps) :
    Agrees (loaded.runToHalt maxSteps) (carryOut 1 loaded.passed paints)
      (fun final ending halted =>
        ShowsLike halted final ∧ EndsAs (1 + paints.length) final halted ending) := by
  have hstart := atStart_of_load hprogram hload
  have hdeclares := declares_of_atStart hstart h
  have hready := ready_of_load hprogram hload
  rcases h.commands with ⟨line, hcommands⟩
  rw [hcommands] at hready
  have hlines := length_linesOf_le paints
  have hagrees := @runToHalt_agrees_of_declares _ _ _ _ maxSteps hdeclares
    (ready_passed hready hdeclares) (by omega) (by omega)
  have hcounter : loaded.passed.counter = 1 := congrArg (· + 1) hstart.counter
  rwa [hcounter] at hagrees

theorem bears_passed {run loaded : Run} {source : String} {asTarget : Bool} {program : Program}
    {rows columns : Nat} {paints : List Command}
    (hprogram : Program.load run.mode source = .ok program)
    (hload : run.load source asTarget = .ok loaded) (h : Tabled program rows columns paints) :
    loaded.passed.Bears rows columns (paints.map Command.action) 0 := by
  have hstart := atStart_of_load hprogram hload
  have hgrid := (declares_of_atStart hstart h).grid
  have hmovements : loaded.movements = 0 := by
    rcases load_eq_ok hprogram hload with ⟨target, targetCode, rfl⟩
    rfl
  exact bears_blank _ hgrid hstart.anchor hmovements

theorem runToHalt_of_stumble {run loaded : Run} {source : String} {asTarget : Bool}
    {program : Program} {rows columns : Nat} {paints : List Command} {maxSteps : Int}
    (hprogram : Program.load run.mode source = .ok program)
    (hload : run.load source asTarget = .ok loaded) (h : Tabled program rows columns paints)
    (hsteps : max (paints.length : Int) 1 ≤ maxSteps)
    (hstumble : Strips.Stumble rows columns (paints.map Command.action)) :
    loaded.runToHalt maxSteps = .error (.numeral .tooLarge) := by
  have hagrees := runToHalt_agrees_of_tabled hprogram hload h hsteps
  have hstart := atStart_of_load hprogram hload
  have hcarried := carryOut_table h.tall h.strips (bears_passed hprogram hload h) hstart.outcome 1
  rw [hcarried.left hstumble] at hagrees
  exact hagrees

/-- A halted run through strips: those in front of a place are painted, and it ends there, with a
problem if there is a strip at that place. -/
structure LaysOut (halted : Run) (rows columns : Nat) (paints : List Command) (first : Nat) :
    Prop where
  bears : halted.Bears rows columns (paints.map Command.action) first
  counter : halted.counter = first + 1
  ending : first = paints.length ∧ halted.error = none ∧ halted.outcome ≠ .failure ∨
    exists command, paints[first]? = some command ∧ halted.outcome = .failure ∧
      halted.error = some
        ⟨command.line, Strips.complaint rows columns (paints.map Command.action) first⟩

theorem laysOut_of_endsAs {final halted : Run} {rows columns first : Nat} {paints : List Command}
    (hbears : final.Bears rows columns (paints.map Command.action) first)
    (hfirst : first ≤ paints.length) (hshows : ShowsLike halted final)
    (hends : EndsAs (1 + paints.length) final halted (tableEnding 1 rows columns paints first)) :
    halted.LaysOut rows columns paints first := by
  unfold tableEnding at hends
  split at hends
  · rename_i hnone
    have hall := List.getElem?_eq_none_iff.mp hnone
    rcases hends with ⟨hcounter, herror, houtcome⟩
    refine ⟨hbears.of_showsLike hshows, by omega, Or.inl ⟨by omega, herror, ?_⟩⟩
    rw [houtcome]
    split
    · simp
    · simp
  · rename_i command hcommand
    rcases hends with ⟨hcounter, herror, houtcome⟩
    exact ⟨hbears.of_showsLike hshows, by omega, Or.inr ⟨command, hcommand, houtcome, herror⟩⟩

theorem runToHalt_of_not_stumble {run loaded : Run} {source : String} {asTarget : Bool}
    {program : Program} {rows columns : Nat} {paints : List Command} {maxSteps : Int}
    (hprogram : Program.load run.mode source = .ok program)
    (hload : run.load source asTarget = .ok loaded) (h : Tabled program rows columns paints)
    (hsteps : max (paints.length : Int) 1 ≤ maxSteps)
    (hclear : Not (Strips.Stumble rows columns (paints.map Command.action))) :
    exists halted, loaded.runToHalt maxSteps = .ok halted ∧ halted.LaysOut rows columns paints
      (Strips.firstOut rows columns (paints.map Command.action)) := by
  have hagrees := runToHalt_agrees_of_tabled hprogram hload h hsteps
  have hstart := atStart_of_load hprogram hload
  have hcarried := carryOut_table h.tall h.strips (bears_passed hprogram hload h) hstart.outcome 1
  rcases hcarried.right hclear with ⟨final, hfinal, hbears⟩
  rw [hfinal] at hagrees
  rcases hagrees with ⟨halted, hhalted, hshows, hends⟩
  have hfirst := Strips.firstOut_le rows columns (paints.map Command.action)
  rw [List.length_map] at hfirst
  exact ⟨halted, hhalted, laysOut_of_endsAs hbears hfirst hshows hends⟩

theorem LaysOut.report {halted : Run} {rows columns first : Nat} {paints : List Command}
    (h : halted.LaysOut rows columns paints first) {problem : Problem}
    (hproblem : halted.error = some problem) (hline : Text.IsWritable (problem.line + 1)) :
    problem.report = .ok ("Runtime Error on line " ++ toString (problem.line + 1) ++ ": " ++
      problem.cause.detail) := by
  have hkind : problem.cause.kind = .running := by
    rcases h.ending with ⟨_, hnone, _⟩ | ⟨command, _, _, hsome⟩
    · rw [hnone] at hproblem
      cases hproblem
    · rw [hsome] at hproblem
      cases hproblem
      exact Strips.kind_complaint rows columns _ first
  unfold Problem.report ProblemKind.report
  rw [hkind]
  simp only [Text.writeWhole_of_isWritable hline]
  rfl

/-- A program of TABLE or GRID that was loaded, with a step for each strip: the last strip that lies
over a cell has painted it, and the run fails at the first strip that has no room.  Only in GRID such
a strip can be out at a place that cannot be written, and then the run has no result at all. -/
theorem runToHalt_table {run loaded : Run} {source : String} {asTarget : Bool} {program : Program}
    {line : Int} {rows columns : Nat} {paints : List Command} {maxSteps : Int}
    (hprogram : Program.load run.mode source = .ok program)
    (hcommands : program.commands = ⟨line, .declare rows columns⟩ :: paints)
    (hload : run.load source asTarget = .ok loaded)
    (hsteps : max (paints.length : Int) 1 ≤ maxSteps) :
    (Strips.Stumble rows columns (paints.map Command.action) ->
      run.mode = .grid ∧ loaded.runToHalt maxSteps = .error (.numeral .tooLarge)) ∧
    (Not (Strips.Stumble rows columns (paints.map Command.action)) ->
      exists halted, loaded.runToHalt maxSteps = .ok halted ∧
        halted.LaysOut rows columns paints
          (Strips.firstOut rows columns (paints.map Command.action)) ∧
        forall problem, halted.error = some problem -> Text.IsWritable (problem.line + 1) ->
          problem.report = .ok ("Runtime Error on line " ++ toString (problem.line + 1) ++ ": " ++
            problem.cause.detail)) := by
  have htabled := tabled_of_commands (Program.load_wellFormed hprogram) hcommands
  constructor
  · intro hstumble
    refine ⟨?_, runToHalt_of_stumble hprogram hload htabled hsteps hstumble⟩
    rw [← (Program.load_eq_ok hprogram).left]
    exact htabled.strips.mode_of_stumble hstumble
  · intro hclear
    rcases runToHalt_of_not_stumble hprogram hload htabled hsteps hclear with
      ⟨halted, hhalted, hlays⟩
    exact ⟨halted, hhalted, hlays, fun problem hproblem hline => hlays.report hproblem hline⟩

theorem load_aboveStrip : Program.load .grid "2#3\n3 R 0 0\n2 G -1 0\n1 B 0 -1" =
    .ok ⟨.grid, "2#3\n3 R 0 0\n2 G -1 0\n1 B 0 -1",
      [⟨0, .declare 2 3⟩, ⟨1, .shifted 3 .red 0 0⟩, ⟨2, .shifted 2 .green (-1) 0⟩,
        ⟨3, .shifted 1 .blue 0 (-1)⟩], some (2, 3)⟩ := by
  have htext : Program.tableText 2 3
      [.shifted 3 .red 0 0, .shifted 2 .green (-1) 0, .shifted 1 .blue 0 (-1)] =
      "2#3\n3 R 0 0\n2 G -1 0\n1 B 0 -1" := by decide
  have hsize : Program.Declarable 2 3 := ⟨by decide, by decide, by decide, by decide⟩
  have hstrips : forall strip, strip ∈ [Primitive.shifted 3 .red 0 0, .shifted 2 .green (-1) 0,
      .shifted 1 .blue 0 (-1)] -> strip.IsWritable .grid ∧ strip.isDeclaration = false := by
    rw [List.forall_mem_cons, List.forall_mem_cons, List.forall_mem_singleton]
    refine ⟨⟨?_, rfl⟩, ⟨?_, rfl⟩, ?_, rfl⟩
    · exact Program.isWritable_shifted (Or.inl rfl) (by decide) (by decide) (by decide)
    · exact Program.isWritable_shifted (Or.inr (Or.inl rfl)) (by decide) (by decide) (by decide)
    · exact Program.isWritable_shifted (Or.inr (Or.inr rfl)) (by decide) (by decide) (by decide)
  have hload := Program.load_tableText rfl hsize hstrips
  unfold Program.tableProgram at hload
  rw [htext] at hload
  exact hload

/-- A strip, a second one painted over the end of it, and a third above the table. -/
theorem runToHalt_table_above :
    exists loaded halted picture,
      (start .grid none).load "2#3\n3 R 0 0\n2 G -1 0\n1 B 0 -1" false = .ok loaded ∧
        loaded.runToHalt 3 = .ok halted ∧ halted.counter = 3 ∧ halted.outcome = .failure ∧
        halted.error = some ⟨3, .rowOutside (-1)⟩ ∧ halted.anchor = (0, 2) ∧
        halted.movements = 4 ∧ halted.grid = some picture ∧
        picture.cell? 0 0 = some (some .red) ∧ picture.cell? 0 2 = some (some .green) ∧
        picture.cell? 1 2 = some none := by
  have hprogram : Program.load (start .grid none).mode
      "2#3\n3 R 0 0\n2 G -1 0\n1 B 0 -1" = _ := load_aboveStrip
  have hload : exists loaded,
      (start .grid none).load "2#3\n3 R 0 0\n2 G -1 0\n1 B 0 -1" false = .ok loaded :=
    ⟨_, load_of_program hprogram⟩
  rcases hload with ⟨loaded, hload⟩
  have hfirst : Strips.firstOut 2 3
      [.shifted 3 .red 0 0, .shifted 2 .green (-1) 0, .shifted 1 .blue 0 (-1)] = 2 := by decide
  have hshort : Text.IsWritable (-1) :=
    Nat.lt_of_lt_of_le (by decide) (@Text.pow_ten_le 1 Text.digitLimit (by decide))
  have hclear : Not (Strips.Stumble 2 3
      [.shifted 3 .red 0 0, .shifted 2 .green (-1) 0, .shifted 1 .blue 0 (-1)]) := by
    intro hstumble
    have hname := hstumble.right
    rw [hfirst] at hname
    rcases hname with ⟨_, hlong⟩ | ⟨hwithin, _⟩
    · exact hlong hshort
    · exact absurd hwithin (by decide)
  have hsteps : max ((3 : Nat) : Int) 1 ≤ 3 := by decide
  rcases (runToHalt_table hprogram rfl hload hsteps).right hclear with ⟨halted, hhalted, hlays, _⟩
  simp only [List.map_cons, List.map_nil, hfirst] at hlays
  rcases hlays.bears.grid with ⟨picture, hgrid, _, _, hcells⟩
  refine ⟨loaded, halted, picture, hload, hhalted, hlays.counter, ?_, ?_, hlays.bears.anchor,
    Int.ofNat.inj hlays.bears.movements, hgrid, hcells 0 0 (by decide) (by decide),
    hcells 0 2 (by decide) (by decide), hcells 1 2 (by decide) (by decide)⟩
  · rcases hlays.ending with ⟨hall, _, _⟩ | ⟨_, _, houtcome, _⟩
    · cases hall
    · exact houtcome
  · rcases hlays.ending with ⟨hall, _, _⟩ | ⟨command, hcommand, _, herror⟩
    · cases hall
    · cases hcommand
      exact herror

theorem stumble_farStrip {far : Int} (hlong : Not (Text.IsWritable (1 + far)))
    (hbelow : Not (Within (1 + far) 2)) :
    Strips.Stumble 2 1 [.shifted 1 .red 0 1, .shifted 1 .red 0 far] := by
  have hrow : Strips.row [.shifted 1 .red 0 1, .shifted 1 .red 0 far] 1 = 1 + far := by
    show (1 : Int) + (far + 0) = 1 + far
    rw [Int.add_zero]
  have hroom : Strips.HasRoom 2 1 [.shifted 1 .red 0 1, .shifted 1 .red 0 far] 0 := by
    show Within 1 2 ∧ Within 0 1 ∧ (0 : Int) + (1 : Nat) ≤ (1 : Nat)
    decide
  have hout : Not (Strips.HasRoom 2 1 [.shifted 1 .red 0 1, .shifted 1 .red 0 far] 1) := by
    intro hgiven
    have hwithin := hgiven.left
    rw [hrow] at hwithin
    exact hbelow hwithin
  have hfirst : Strips.firstOut 2 1 [.shifted 1 .red 0 1, .shifted 1 .red 0 far] = 1 := by
    unfold Strips.firstOut
    simp [List.range_succ, List.findIdx_cons, hroom, hout]
  refine ⟨?_, ?_⟩
  · rw [hfirst]
    exact Nat.lt_succ_self 1
  · rw [hfirst]
    refine Or.inl ?_
    rw [hrow]
    exact ⟨hbelow, hlong⟩

/-- Two strips, and steps for both of them, and no result. -/
theorem not_runToHalt_table :
    exists program loaded line paints,
      Program.load (start .grid none).mode (farStrip Text.digitLimit) = .ok program ∧
        program.commands = ⟨line, .declare 2 1⟩ :: paints ∧
        (start .grid none).load (farStrip Text.digitLimit) false = .ok loaded ∧
        max (paints.length : Int) 1 ≤ 2 ∧
        forall halted, loaded.runToHalt 2 ≠ .ok halted := by
  rcases (⟨4299, rfl⟩ : exists n, n + 1 = Text.digitLimit) with ⟨n, hlimit⟩
  rw [← hlimit]
  have hprogram : Program.load (start .grid none).mode (farStrip (n + 1)) = _ :=
    load_farStrip (Nat.le_of_eq hlimit)
  have hload : exists loaded, (start .grid none).load (farStrip (n + 1)) false = .ok loaded :=
    ⟨_, load_of_program hprogram⟩
  rcases hload with ⟨loaded, hload⟩
  have hsteps : max ((2 : Nat) : Int) 1 ≤ 2 := by decide
  refine ⟨_, loaded, _, _, hprogram, rfl, hload, hsteps, ?_⟩
  rcases not_isWritable_farRow hlimit with ⟨hlong, hbelow⟩
  have htabled := tabled_of_commands (Program.load_wellFormed hprogram) rfl
  have hnone := runToHalt_of_stumble hprogram hload htabled hsteps
    (stumble_farStrip hlong hbelow)
  intro halted hhalted
  rw [hnone] at hhalted
  cases hhalted

end Run
end Mosaic
