import Mosaic.Proofs.Program.Stream
import Mosaic.Proofs.Run.Course
import Mosaic.Proofs.Run.Objective

/-!
# Rewinding

A run that is rewound is as it was when its program was loaded.  It takes the size of its grid from
its commands, where loading has it from the text, and its maze from one that has been played in.
Both come to the same, since the commands of a run are always those of its text, and no step changes
the program, the target or the layout of the maze.
-/

namespace Mosaic

theorem Maze.fresh_of_layout {maze other : Maze} (h : maze.layout = other.layout) :
    maze.fresh = other.fresh := by
  have hitems : (maze.items.map fun item => { item with collected := false }) =
      other.items.map fun item => { item with collected := false } := by
    have hpairs := congrArg
      (fun layout => layout.items.map fun entry => (⟨entry.1, entry.2, false⟩ : Item)) h
    unfold layout at hpairs
    simpa only [List.map_map, Function.comp_def] using hpairs
  have hstart : maze.startCell = other.startCell := by
    unfold startCell
    rw [rows_of_layout h, columns_of_layout h]
  have hwalls : maze.walls = other.walls := congrArg Layout.walls h
  have hexit : maze.exit = other.exit := congrArg Layout.exit h
  unfold fresh
  rw [hitems, hstart, hwalls, hexit, rows_of_layout h, columns_of_layout h]

@[simp] theorem Maze.fresh_fresh (maze : Maze) : maze.fresh.fresh = maze.fresh :=
  fresh_of_layout (layout_fresh maze)

namespace Run

/-!
## The commands of a text
-/

/-- A run whose commands are those of its text. -/
def IsLoaded (run : Run) : Prop :=
  exists program, Program.load run.mode run.source = .ok program ∧ run.commands = program.commands

theorem declaredSize_of_load {run : Run} {program : Program}
    (h : Program.load run.mode run.source = .ok program)
    (hcommands : run.commands = program.commands) : run.declaredSize = program.size := by
  have hwell := Program.load_wellFormed h
  have hmode := (Program.load_eq_ok h).left
  unfold declaredSize
  rw [hcommands, ← hmode]
  cases hdeclares : program.mode.declaresSize with
  | false =>
      refine (congrArg (fun found : Option (Nat × Nat) => found.or program.mode.fixedSize)
        (List.findSome?_eq_none_iff.mpr fun command hcommand => ?_)).trans (hwell.fixed hdeclares).symm
      have hallows := hwell.allowed command hcommand
      split
      · rename_i rows columns haction
        rw [haction] at hallows
        revert hdeclares hallows
        cases program.mode with
        | _ => simp [Mode.declaresSize, Mode.Allows]
      · rfl
  | true =>
      have hfixed := Mode.fixedSize_of_declaresSize hdeclares
      rcases hwell.declared hdeclares with ⟨hnil, hsize⟩ | ⟨line, rows, columns, rest, hcons, hsize, _⟩
      · rw [hnil, hsize, hfixed]
        rfl
      · rw [hcons, hsize]
        rfl

/-- Rewinding a run whose commands are those of its text is loading the text anew. -/
theorem withProgram_eq_reset {run : Run} {program : Program}
    (h : Program.load run.mode run.source = .ok program)
    (hcommands : run.commands = program.commands) : run.withProgram program = run.reset none := by
  unfold withProgram reset
  rw [declaredSize_of_load h hcommands, (Program.load_eq_ok h).right.left, ← hcommands]
  rfl

theorem isLoaded_of_load {run : Run} {source : String} {program : Program}
    (h : Program.load run.mode source = .ok program) : (run.withProgram program).IsLoaded := by
  refine ⟨program, ?_, rfl⟩
  show Program.load run.mode program.source = .ok program
  rw [(Program.load_eq_ok h).right.left]
  exact h

theorem declaredSize_withProgram {run : Run} {source : String} {program : Program}
    (h : Program.load run.mode source = .ok program) :
    (run.withProgram program).declaredSize = program.size := by
  refine declaredSize_of_load ?_ rfl
  show Program.load run.mode program.source = .ok program
  rw [(Program.load_eq_ok h).right.left]
  exact h

theorem load_nothing (mode : Mode) :
    Program.load mode "" = .ok ⟨mode, "", [], mode.fixedSize⟩ := by
  cases mode with
  | _ => rfl

theorem isLoaded_start (mode : Mode) (maze : Option Maze) : (start mode maze).IsLoaded :=
  ⟨_, load_nothing mode, rfl⟩

theorem steady_isLoaded : Steady IsLoaded where
  command := by
    intro run command _ h
    have hframe := frame_applyCommand run command
    unfold IsLoaded at h ⊢
    rwa [hframe.mode, hframe.source, hframe.commands]
  counted _ h := h
  entered _ h := h
  flagged _ h := h
  failed _ h := h
  finished h := h

theorem Course.isLoaded {allowed : Event -> Run -> Prop} {first run : Run}
    (h : Course allowed first run) (hfirst : first.IsLoaded) : run.IsLoaded := by
  refine h.steady steady_isLoaded hfirst ?_ fun _ _ _ hbefore => hbefore
  intro before after source asTarget _ hbefore hload
  rcases load_cases hload with ⟨problem, _, rfl⟩ | ⟨program, hprogram, rfl | ⟨_, target, rfl⟩⟩
  · exact hbefore
  · exact isLoaded_of_load hprogram
  · exact isLoaded_of_load hprogram

/-!
## What rewinding depends on
-/

theorem reset_congr {run other : Run} (hmode : run.mode = other.mode)
    (hsource : run.source = other.source) (hcommands : run.commands = other.commands)
    (htarget : run.target = other.target) (hcode : run.targetCode = other.targetCode)
    (hlayout : run.maze.map Maze.layout = other.maze.map Maze.layout) :
    run.reset none = other.reset none := by
  have hsize : run.declaredSize = other.declaredSize := by
    unfold declaredSize
    rw [hmode, hcommands]
  have hmaze : run.maze.map Maze.fresh = other.maze.map Maze.fresh := by
    cases hrun : run.maze with
    | none =>
        rw [hrun] at hlayout
        rw [Option.map_eq_none_iff.mp hlayout.symm]
    | some maze =>
        rw [hrun] at hlayout
        rcases Option.map_eq_some_iff.mp hlayout.symm with ⟨there, hother, hsame⟩
        rw [hother]
        exact congrArg some (Maze.fresh_of_layout hsame.symm)
  unfold reset rewound
  simp only [Option.none_or]
  rw [hsize, hmaze, hmode, hsource, hcommands, htarget, hcode]

theorem steady_reset (first : Run) : Steady fun run => run.reset none = first.reset none where
  command := by
    intro run command _ h
    have hframe := frame_applyCommand run command
    rw [← h]
    exact reset_congr hframe.mode hframe.source hframe.commands hframe.target hframe.targetCode
      (layout_apply run command.line command.action)
  counted _ h := h
  entered _ h := h
  flagged _ h := h
  failed _ h := h
  finished h := h

@[simp] theorem reset_reset_none (run : Run) : (run.reset none).reset none = run.reset none :=
  reset_congr rfl rfl rfl rfl rfl (sameGoal_reset_none run).layout

/-- As long as the program and the maze are kept, rewinding leads to one and the same run. -/
theorem Course.reset_none {first run : Run} (h : Course KeepsProgram first run) :
    run.reset none = first.reset none := by
  refine h.steady (steady_reset first) rfl ?_ ?_
  · intro before after source asTarget hallowed hbefore hload
    rcases hallowed.right source asTarget rfl with ⟨problem, hproblem⟩
    rcases load_cases hload with ⟨other, _, rfl⟩ | ⟨program, hprogram, _⟩
    · exact hbefore
    · rw [hproblem] at hprogram
      cases hprogram
  · intro before maze hallowed hbefore
    cases maze with
    | some maze => exact absurd rfl (hallowed.left maze)
    | none => rw [reset_reset_none, hbefore]

/-!
## Rewinding and loading
-/

theorem reset_of_load {run loaded : Run} {source : String} {asTarget : Bool}
    (h : run.load source asTarget = .ok loaded) (haccepted : loaded.error = none) :
    loaded.reset none = loaded := by
  have hfresh : forall program, Program.load run.mode source = .ok program ->
      (run.withProgram program).reset none = run.withProgram program := by
    intro program hprogram
    have hsame := (sameGoal_withProgram run program).layout
    rw [← withProgram_eq_reset (by rwa [show (run.withProgram program).source = source from
      (Program.load_eq_ok hprogram).right.left]) rfl]
    unfold withProgram rewound
    simp only [Option.map_map, Function.comp_def, Maze.fresh_fresh]
  rcases load_cases h with ⟨problem, _, rfl⟩ | ⟨program, hprogram, rfl | ⟨_, target, rfl⟩⟩
  · cases haccepted
  · exact hfresh program hprogram
  · exact congrArg
      (fun fresh : Run => { fresh with target := target, targetCode := some source })
      (hfresh program hprogram)

/-- Rewinding is loading the text of the run anew, and it forgets everything that was done since a
text was loaded. -/
theorem reset_forgets_course {mode : Mode} {maze : Option Maze} {run : Run}
    (h : Course Anything (start mode maze) run) :
    run.load run.source false = .ok (run.reset none) ∧
      forall (source : String) (asTarget : Bool) (loaded : Run),
        run.load source asTarget = .ok loaded -> loaded.error = none ->
          forall later, Course KeepsProgram loaded later -> later.reset none = loaded := by
  constructor
  · rcases h.isLoaded (isLoaded_start mode maze) with ⟨program, hprogram, hcommands⟩
    rw [load_of_program hprogram, withProgram_eq_reset hprogram hcommands]
  · intro source asTarget loaded hload haccepted later hlater
    rw [hlater.reset_none, reset_of_load hload haccepted]

/-- Lamps switched on and a text refused: rewinding forgets both, and does what loading the text of
the run would do. -/
theorem reset_forgets_course_lamps :
    exists loaded lit refused : Run, (start .matrix none).load "+ 1" true = .ok loaded ∧
      loaded.step = .ok lit ∧ lit.load "?" false = .ok refused ∧
      loaded.error = none ∧ lit.grid ≠ loaded.grid ∧ refused.error ≠ none ∧
      refused.reset none = loaded ∧ refused.load refused.source false = .ok loaded := by
  have hload : exists loaded, (start .matrix none).load "+ 1" true = .ok loaded ∧
      loaded.error = none ∧ exists lit, loaded.step = .ok lit ∧ lit.grid ≠ loaded.grid ∧
        lit.mode = .matrix ∧ exists refused, lit.load "?" false = .ok refused ∧
          refused.error ≠ none := by
    refine ⟨_, rfl, rfl, _, rfl, by decide, rfl, _, rfl, by simp⟩
  have hproblem : exists problem, Program.load .matrix "?" = .error (.program problem) := ⟨_, rfl⟩
  rcases hload with ⟨loaded, hloaded, haccepted, lit, hlit, hgrid, hmode, refused, hrefused, hnoted⟩
  have hstart : Course Anything (start .matrix none) (start .matrix none) := Course.start
  have hwhole : Course Anything (start .matrix none) refused :=
    ((hstart.event (.load "+ 1" true) trivial hloaded).event .step trivial hlit).event
      (.load "?" false) trivial hrefused
  have hstepped : Course KeepsProgram loaded lit :=
    Course.start.event .step ⟨nofun, nofun⟩ hlit
  have hsince : Course KeepsProgram loaded refused := by
    refine hstepped.event (.load "?" false) ⟨nofun, ?_⟩ hrefused
    intro source asTarget hsame
    cases hsame
    rwa [hmode]
  have hreset := (reset_forgets_course hstart).right _ _ _ hloaded haccepted refused hsince
  refine ⟨loaded, lit, refused, hloaded, hlit, hrefused, haccepted, hgrid, hnoted, hreset, ?_⟩
  rw [← hreset]
  exact (reset_forgets_course hwhole).left

end Run
end Mosaic
