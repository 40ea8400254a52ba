import Mosaic.Proofs.Run.Layouts

/-!
# Texts with the same entries

Outside PIXEL the layout of a text does not matter.  Texts with the same entries are refused for the
same, or load to runs that come to the same whatever is done to them, up to the lines on which the
entries stand.
-/

namespace Mosaic
namespace Run

/-- The same problem, on the lines of one entry. -/
def SameProblem (source other : String) (problem otherProblem : Problem) : Prop :=
  problem.cause = otherProblem.cause ∧ Text.SameEntry source other problem.line otherProblem.line

/-- Runs of two texts that show the same, on the lines of one entry. -/
structure Alike (source other : String) (first second : Run) : Prop where
  counter : first.counter = second.counter
  grid : first.grid = second.grid
  target : first.target = second.target
  maze : first.maze = second.maze
  anchor : first.anchor = second.anchor
  movements : first.movements = second.movements
  mazeScore : first.mazeScore = second.mazeScore
  cursor : first.cursor = second.cursor
  line : Option.Rel (Text.SameEntry source other) first.line second.line
  isRunning : first.isRunning = second.isRunning
  error : Option.Rel (SameProblem source other) first.error second.error
  outcome : first.outcome = second.outcome

/-- What becomes of a run that two texts are loaded into: the problem of each is noted, or both are
loaded and whatever is done then comes to the same. -/
def LoadsAlike (run : Run) (source other : String) (loaded relaid : Run) : Prop :=
  (exists problem otherProblem, SameProblem source other problem otherProblem ∧
    loaded = { run with error := some problem, isRunning := false } ∧
    relaid = { run with error := some otherProblem, isRunning := false }) ∨
  loaded.error = none ∧ relaid.error = none ∧
    forall events : List Event, (forall event, event ∈ events -> event.isLoad = false) ->
      Attempts.Both (Alike source other) (loaded.undergo events) (relaid.undergo events)

def taking (run : Run) (program : Program) (asTarget : Bool) : Except Fault Run :=
  if asTarget && run.mode != .maze then do
    return { run.withProgram program with target := <- program.replay }
  else .ok (run.withProgram program)

def layoutOf (source : String) (targetCode : Option String) : Layout :=
  ⟨Text.place 0 (Text.lines source.toList), Text.place_injective 0 _, source, targetCode⟩

/-- A layout that leaves the lines of so many entries alone, and no others. -/
def spareLayout (count : Nat) (targetCode : Option String) : Layout :=
  ⟨Text.spare count, Text.spare_injective count, "", targetCode⟩

/-!
## Loading
-/

section

variable {run : Run}

theorem load_of_problem {source : String} {problem : Problem} (hmode : run.mode ≠ .pixel)
    (h : Program.ofEntries run.mode (Text.entries source) = .error (.program problem))
    (asTarget : Bool) :
    run.load source asTarget =
      .ok { run with
        error := some (problem.relined (layoutOf source none).place), isRunning := false } := by
  unfold load
  rw [Program.load_relined hmode, h]
  rfl

theorem load_of_fault {source : String} {fault : Fault} (hmode : run.mode ≠ .pixel)
    (h : Program.ofEntries run.mode (Text.entries source) = .error fault)
    (hother : forall problem, fault ≠ .program problem) (asTarget : Bool) :
    run.load source asTarget = .error fault := by
  unfold load
  rw [Program.load_relined hmode, h]
  cases fault with
  | program problem => exact absurd rfl (hother problem)
  | _ => rfl

theorem mode_of_ofEntries {mode : Mode} {rows : List (List Char)} {program : Program}
    (h : Program.ofEntries mode rows = .ok program) : program.mode = mode := by
  rcases Attempts.bind_eq_ok_iff.mp h with ⟨read, _, hprogram⟩
  cases Attempts.pure_eq_ok_iff.mp hprogram
  rfl

theorem load_of_entries {source : String} {program : Program} (hmode : run.mode ≠ .pixel)
    (h : Program.ofEntries run.mode (Text.entries source) = .ok program) (asTarget : Bool) :
    exists targetCode, run.load source asTarget =
      (run.taking program asTarget).map (inLayout (layoutOf source targetCode)) := by
  have hloaded : Program.load run.mode source =
      .ok (program.relined (layoutOf source none).place source) := by
    rw [Program.load_relined hmode, h]
    rfl
  have hreplay := @replay_relined program (by rwa [mode_of_ofEntries h]) (layoutOf source none)
  unfold load taking
  rw [hloaded]
  simp only
  split
  · refine ⟨some source, ?_⟩
    rw [show (program.relined (layoutOf source none).place source).replay = program.replay
      from hreplay]
    cases program.replay with
    | error fault => rfl
    | ok picture => rfl
  · exact ⟨run.targetCode, rfl⟩

theorem inLayout_of_taking {program : Program} {asTarget : Bool} {loaded : Run} {layout : Layout}
    (hprogram : program.relined layout.place layout.source = program)
    (hcode : layout.targetCode = run.targetCode) (h : run.taking program asTarget = .ok loaded) :
    loaded.inLayout layout = loaded := by
  have htaken : (run.withProgram program).inLayout layout = run.withProgram program := by
    show ({ run.withProgram (program.relined layout.place layout.source) with
      targetCode := layout.targetCode } : Run) = _
    rw [hprogram, hcode]
    rfl
  unfold taking at h
  split at h
  · rcases Attempts.bind_eq_ok_iff.mp h with ⟨picture, _, hpure⟩
    cases Attempts.pure_eq_ok_iff.mp hpure
    exact congrArg (fun taken : Run => { taken with target := picture }) htaken
  · cases h
    exact htaken

theorem error_of_taking {program : Program} {asTarget : Bool} {loaded : Run}
    (h : run.taking program asTarget = .ok loaded) : loaded.error = none ∧ loaded.mode = run.mode := by
  unfold taking at h
  split at h
  · rcases Attempts.bind_eq_ok_iff.mp h with ⟨picture, _, hpure⟩
    cases Attempts.pure_eq_ok_iff.mp hpure
    exact ⟨rfl, rfl⟩
  · cases h
    exact ⟨rfl, rfl⟩

end

/-!
## Two layouts
-/

section

variable {source other : String}

theorem sameEntry_of_spare (hsame : Text.entries source = Text.entries other) {line : Int}
    (h : Text.spare (Text.entries source).length line = line) (code otherCode : Option String) :
    Text.SameEntry source other ((layoutOf source code).place line)
      ((layoutOf other otherCode).place line) := by
  rcases Text.spare_eq_self_iff.mp h with ⟨hfirst, hlast⟩
  exact Text.sameEntry_place hsame hfirst hlast

theorem alike_of_spare (hsame : Text.entries source = Text.entries other) {run : Run}
    {targetCode : Option String}
    (h : run.inLayout (spareLayout (Text.entries source).length targetCode) = run)
    (code otherCode : Option String) :
    Alike source other (run.inLayout (layoutOf source code))
      (run.inLayout (layoutOf other otherCode)) := by
  refine ⟨rfl, rfl, rfl, rfl, rfl, rfl, rfl, rfl, ?_, rfl, ?_, rfl⟩
  · have hline : run.line.map (Text.spare (Text.entries source).length) = run.line :=
      congrArg Run.line h
    show Option.Rel _ (run.line.map _) (run.line.map _)
    cases hrun : run.line with
    | none => exact .none
    | some line =>
        rw [hrun] at hline
        injection hline with hline
        exact .some (sameEntry_of_spare hsame hline code otherCode)
  · have herror : run.error.map (Problem.relined (Text.spare (Text.entries source).length)) =
        run.error := congrArg Run.error h
    show Option.Rel _ (run.error.map _) (run.error.map _)
    cases hrun : run.error with
    | none => exact .none
    | some problem =>
        rw [hrun] at herror
        injection herror with herror
        exact .some ⟨rfl, sameEntry_of_spare hsame (congrArg Problem.line herror) code otherCode⟩

/-- The layout of a text does not matter outside PIXEL.  Texts with the same entries are refused for
the same, with the same problem on the lines of one entry, or both are loaded, and whatever is done
to the two runs then comes to the same. -/
theorem layout_does_not_matter {run : Run} (hmode : run.mode ≠ .pixel)
    (hsame : Text.entries source = Text.entries other) (asTarget : Bool) :
    Attempts.Both (LoadsAlike run source other)
      (run.load source asTarget) (run.load other asTarget) := by
  have hspare := @Program.ofEntries_relined run.mode hmode source
    (Text.spare (Text.entries source).length) fun index hless =>
      Text.spare_eq_self_iff.mpr ⟨Int.natCast_nonneg index, Int.ofNat_lt.mpr hless⟩
  cases hread : Program.ofEntries run.mode (Text.entries source) with
  | error fault =>
      rw [hread] at hspare
      by_cases hprogram : exists problem, fault = .program problem
      · rcases hprogram with ⟨problem, rfl⟩
        injection hspare with hfault
        injection hfault with hproblem
        rw [load_of_problem hmode hread, load_of_problem hmode (hsame ▸ hread)]
        exact .value (Or.inl ⟨problem.relined (layoutOf source none).place,
          problem.relined (layoutOf other none).place, ⟨rfl, sameEntry_of_spare hsame
            (congrArg Problem.line hproblem).symm none none⟩, rfl, rfl⟩)
      · have hother : forall problem, fault ≠ .program problem :=
          fun problem h => hprogram ⟨problem, h⟩
        rw [load_of_fault hmode hread hother, load_of_fault hmode (hsame ▸ hread) hother]
        exact .fault fault
  | ok program =>
      rw [hread] at hspare
      injection hspare with hprogram
      rcases load_of_entries hmode hread asTarget with ⟨code, hload⟩
      rcases load_of_entries hmode (hsame ▸ hread) asTarget with ⟨otherCode, hother⟩
      rw [hload, hother]
      apply Attempts.both_map
      intro loaded htaken
      rcases error_of_taking htaken with ⟨hnone, hloaded⟩
      rw [← hloaded] at hmode
      refine Or.inr ⟨by rw [inLayout, hnone]; rfl, by rw [inLayout, hnone]; rfl, ?_⟩
      intro events hevents
      -- a numbering that spares the entries alone does not change the run, nor what becomes of it;
      -- so the lines of the run at the end are lines of entries again
      have hfixed : loaded.inLayout (spareLayout (Text.entries source).length run.targetCode) =
          loaded := inLayout_of_taking hprogram.symm rfl htaken
      rw [undergo_inLayout hmode hevents, undergo_inLayout hmode hevents]
      apply Attempts.both_map
      intro after hafter
      have hboth := @undergo_inLayout (spareLayout (Text.entries source).length run.targetCode)
        loaded hmode events hevents
      rw [hfixed, hafter] at hboth
      injection hboth with hboth
      exact alike_of_spare hsame hboth.symm code otherCode

end

theorem line_of_long_strip {line : Int} (h : Text.SameEntry "1#2\n1 R 0 0\n3 G 0 0"
    "\n 1#2 \r\n1 R 0 0\t\n\n 3 G 0 0" 2 line) : line = 4 := by
  have hnumbered : Text.numbered "1#2\n1 R 0 0\n3 G 0 0" =
      [(0, "1#2".toList), (1, "1 R 0 0".toList), (2, "3 G 0 0".toList)] := by decide
  have hother : Text.numbered "\n 1#2 \r\n1 R 0 0\t\n\n 3 G 0 0" =
      [(1, "1#2".toList), (2, "1 R 0 0".toList), (4, "3 G 0 0".toList)] := by decide
  rcases h with ⟨index, entry, hfirst, hsecond⟩
  rw [hnumbered] at hfirst
  rw [hother] at hsecond
  match index with
  | 0 => cases hfirst
  | 1 => cases hfirst
  | 2 =>
      cases hsecond
      rfl
  | index + 3 => cases hfirst

/-- A strip that is too long, in two layouts of its program: the run halts at the same strip, which
stands in the third line of the one and in the fifth line of the other. -/
theorem layout_does_not_matter_long_strip :
    Text.entries "1#2\n1 R 0 0\n3 G 0 0" = Text.entries "\n 1#2 \r\n1 R 0 0\t\n\n 3 G 0 0" ∧
      exists loaded relaid halted same : Run,
        (start .table none).load "1#2\n1 R 0 0\n3 G 0 0" false = .ok loaded ∧
        (start .table none).load "\n 1#2 \r\n1 R 0 0\t\n\n 3 G 0 0" false = .ok relaid ∧
        loaded.undergo [.step, .runToHalt 5] = .ok halted ∧
        relaid.undergo [.step, .runToHalt 5] = .ok same ∧
        halted.error = some ⟨2, .stripTooLong⟩ ∧ same.error = some ⟨4, .stripTooLong⟩ ∧
        same.grid = halted.grid ∧ same.counter = halted.counter := by
  have hrun : exists loaded halted : Run,
      (start .table none).load "1#2\n1 R 0 0\n3 G 0 0" false = .ok loaded ∧
        loaded.undergo [.step, .runToHalt 5] = .ok halted ∧ loaded.error = none ∧
        halted.error = some ⟨2, .stripTooLong⟩ :=
    ⟨_, _, @load_of_program (start .table none) _ _ load_longStrip, rfl, rfl, rfl⟩
  rcases hrun with ⟨loaded, halted, hload, hhalted, hnone, herror⟩
  have hsame : Text.entries "1#2\n1 R 0 0\n3 G 0 0" =
      Text.entries "\n 1#2 \r\n1 R 0 0\t\n\n 3 G 0 0" := by decide
  have htexts : forall first second, (start .table none).load "1#2\n1 R 0 0\n3 G 0 0" false = first ->
      (start .table none).load "\n 1#2 \r\n1 R 0 0\t\n\n 3 G 0 0" false = second ->
        Attempts.Both (LoadsAlike (start .table none) "1#2\n1 R 0 0\n3 G 0 0"
          "\n 1#2 \r\n1 R 0 0\t\n\n 3 G 0 0") first second := by
    rintro _ _ rfl rfl
    exact layout_does_not_matter (by decide) hsame false
  have hboth := htexts _ _ hload rfl
  generalize (start .table none).load "\n 1#2 \r\n1 R 0 0\t\n\n 3 G 0 0" false = attempt
    at hboth ⊢
  cases hboth with
  | @value _ relaid hloads =>
      rcases hloads with ⟨problem, _, _, rfl, _⟩ | ⟨_, _, hevents⟩
      · cases hnone
      · have hundergo := hevents [.step, .runToHalt 5] (by decide)
        rw [hhalted] at hundergo
        generalize hafter : relaid.undergo [.step, .runToHalt 5] = result at hundergo
        cases hundergo with
        | @value _ same halike =>
            refine ⟨hsame, loaded, relaid, halted, same, hload, rfl, hhalted, hafter, herror, ?_,
              halike.grid.symm, halike.counter.symm⟩
            have hproblem := halike.error
            rw [herror] at hproblem
            generalize same.error = found at hproblem ⊢
            cases hproblem with
            | @some _ problem hproblem =>
                rcases problem with ⟨line, cause⟩
                rcases hproblem with ⟨rfl, hline⟩
                cases line_of_long_strip hline
                rfl

end Run
end Mosaic
