import Mosaic.Proofs.Run.Advancing
import Mosaic.Proofs.Run.Strips

/-!
# Runs whose parts fit together

However a run is loaded, carried on, stopped and rewound, its counter stays within its program, its
flag is up only while there is something left to run, and a failure has a problem and a command that
is to blame.  The picture has the size that the program or the mode gives it, and the anchor lies on
it.  A run that is carried on never goes back.
-/

namespace Mosaic
namespace Run

/-!
## The place in the program
-/

structure Placed (run : Run) : Prop where
  counter : run.counter ≤ run.commands.length
  running : run.isRunning = true -> run.isHalted = false ∧ run.counter < run.commands.length
  failure : run.outcome = .failure ->
    run.error.isSome = true ∧ run.counter < run.commands.length

section Placed

variable {run after : Run}

theorem placed_rewound (run : Run) (size : Option (Nat × Nat)) : (run.rewound size).Placed :=
  ⟨Nat.zero_le _, nofun, nofun⟩

theorem Placed.stopped (h : run.Placed) : run.stopped.Placed := ⟨h.counter, nofun, h.failure⟩

theorem Placed.resumed (h : run.Placed) : run.resumed.Placed := by
  constructor
  · exact h.counter
  · intro hflag
    have hboth : (!run.isHalted && !run.isFinished) = true := hflag
    rw [Bool.and_eq_true, Bool.not_eq_true', Bool.not_eq_true'] at hboth
    refine ⟨hboth.left, Nat.lt_of_not_le fun hend => ?_⟩
    rw [(isFinished_iff run).mpr hend] at hboth
    cases hboth.right
  · exact h.failure

theorem placed_of_still (hflag : run.isRunning = false) (hcounter : run.counter ≤ run.commands.length)
    (hfailure : run.outcome = .failure ->
      run.error.isSome = true ∧ run.counter < run.commands.length) : run.Placed := by
  refine ⟨hcounter, fun hrunning => ?_, hfailure⟩
  rw [hflag] at hrunning
  cases hrunning

theorem Placed.step (h : run.Placed) (hafter : run.step = .ok after) : after.Placed := by
  have hcommands : after.commands = run.commands := (steady_commands run).step rfl hafter
  cases advances_of_step hafter with
  | halted halted same =>
      rw [same]
      exact h.stopped
  | cutShort going halts =>
      rw [← hcommands] at halts
      cases halts with
      | failed told outcome flag onward inside =>
          exact placed_of_still flag (Nat.le_of_lt inside) fun _ => ⟨told, inside⟩
      | left silent outcome flag onward inside =>
          refine placed_of_still flag inside fun hfailure => ?_
          rw [outcome] at hfailure
          cases hfailure
  | finished going silent outcome flag counter =>
      refine placed_of_still flag ?_ fun hfailure => absurd hfailure outcome
      rw [counter, hcommands]
      exact Nat.max_le.mpr ⟨h.counter, Nat.le_refl _⟩
  | goesOn going still flag onward inside =>
      rw [← hcommands] at inside
      refine ⟨Nat.le_of_lt inside, fun _ => ⟨still, inside⟩, fun hfailure => ?_⟩
      rw [(isHalted_eq_false.mp still).right] at hfailure
      cases hfailure

theorem placed_event {event : Event} (h : run.Placed) (hafter : event.on run = .ok after) :
    after.Placed := by
  cases event with
  | load source asTarget =>
      rcases load_cases hafter with ⟨problem, _, rfl⟩ | ⟨program, _, rfl | ⟨_, target, rfl⟩⟩
      · exact ⟨h.counter, nofun, fun hfailure => ⟨rfl, (h.failure hfailure).right⟩⟩
      · exact placed_rewound _ _
      · exact ⟨Nat.zero_le _, nofun, nofun⟩
  | step => exact h.step hafter
  | resume =>
      cases hafter
      exact h.resumed
  | stop =>
      cases hafter
      exact h.stopped
  | runToHalt maxSteps =>
      exact runToHalt_keeps (fun _ _ hbefore hnext => hbefore.step hnext)
        (fun _ hbefore => hbefore.stopped) h.resumed hafter
  | reset maze =>
      cases hafter
      exact placed_rewound _ _

end Placed

/-!
## Going on
-/

def Event.Proceeds : Event -> Prop
  | .load _ _ => False
  | .reset _ => False
  | _ => True

theorem counter_le_step {run after : Run} (h : run.step = .ok after) :
    run.counter ≤ after.counter := by
  cases advances_of_step h with
  | halted halted same =>
      rw [same]
      exact Nat.le_refl _
  | cutShort going halts =>
      cases halts with
      | failed told outcome flag onward => exact onward
      | left silent outcome flag onward => exact Nat.le_of_lt onward
  | finished going silent outcome flag counter =>
      rw [counter]
      exact Nat.le_max_left _ _
  | goesOn going still flag onward => exact Nat.le_of_lt onward

theorem counter_le_event {event : Event} (hproceeds : event.Proceeds) {run after : Run}
    (hafter : event.on run = .ok after) : run.counter ≤ after.counter := by
  cases event with
  | load source asTarget => cases hproceeds
  | step => exact counter_le_step hafter
  | resume =>
      cases hafter
      exact Nat.le_refl _
  | stop =>
      cases hafter
      exact Nat.le_refl _
  | runToHalt maxSteps =>
      have hkeeps : forall before behind : Run, run.counter ≤ before.counter ->
          before.step = .ok behind -> run.counter ≤ behind.counter :=
        fun _ _ hbefore hnext => Nat.le_trans hbefore (counter_le_step hnext)
      exact runToHalt_keeps (P := fun later => run.counter ≤ later.counter) hkeeps
        (fun _ hbefore => hbefore) (Nat.le_refl _) hafter
  | reset maze => cases hproceeds

/-!
## The anchor
-/

def Anchored (run : Run) : Prop :=
  forall outline, run.grid.map Grid.outline = some outline ->
    Within run.anchor.1 outline.length ∧ Within run.anchor.2 (outline.headD 0)

theorem anchored_of_outline {before after : Run}
    (houtline : after.grid.map Grid.outline = before.grid.map Grid.outline)
    (hanchor : after.anchor = before.anchor) (h : before.Anchored) : after.Anchored := by
  unfold Anchored
  rw [houtline, hanchor]
  exact h

theorem anchored_blank {run : Run} {rows columns : Nat} (hrows : 1 ≤ rows) (hcolumns : 1 ≤ columns)
    (hgrid : run.grid = some (Grid.blank rows columns)) (hanchor : run.anchor = (0, 0)) :
    run.Anchored := by
  intro outline houtline
  rw [hgrid, Option.map_some, Grid.outline_blank] at houtline
  cases houtline
  cases rows with
  | zero => cases hrows
  | succ rows =>
      rw [hanchor, List.length_replicate]
      show Within 0 (rows + 1) ∧ Within 0 columns
      unfold Within
      omega

theorem anchored_declared {run : Run} (h : run.Anchored) (rows columns : Nat) :
    (run.declared rows columns).run.Anchored := by
  unfold declared
  cases hcreate : Grid.create rows columns with
  | error fault => exact h
  | ok grid =>
      unfold Grid.create at hcreate
      split at hcreate
      · cases hcreate
      · rename_i hpositive
        cases hcreate
        rw [Bool.or_eq_true, decide_eq_true_eq, decide_eq_true_eq] at hpositive
        exact anchored_blank (by omega) (by omega) rfl rfl

theorem anchored_paintStrip {run : Run} (h : run.Anchored) (line : Int) (count : Nat) (color : Color)
    (row column : Int) : (run.paintStrip line count color row column).run.Anchored := by
  have houtline := outline_paintStrip run line count color row column
  cases hgrid : run.grid with
  | none =>
      unfold paintStrip
      rw [hgrid]
      exact h
  | some grid =>
      cases grid with
      | nil =>
          unfold paintStrip
          rw [hgrid]
          exact h
      | cons first rest =>
          have hshape : Grid.shape (first :: rest) = (rest.length + 1, first.length) := rfl
          rw [hgrid] at houtline
          rw [paintStrip_eq (Nat.succ_pos rest.length) hgrid hshape] at houtline ⊢
          split
          · rename_i hrow
            split
            · rename_i hcolumn
              split
              · rename_i hlong
                rw [if_pos hrow, if_pos hcolumn, if_pos hlong] at houtline
                intro outline hpainted
                cases houtline.symm.trans hpainted
                refine ⟨?_, ?_⟩
                · rw [Grid.outline, List.length_map]
                  exact hrow
                · show Within (column + (count - 1 : Nat)) first.length
                  unfold Within at hcolumn ⊢
                  omega
              · exact h
            · rw [run_failedAt]
              exact h
          · rw [run_failedAt]
            exact h

theorem anchor_advanced (steps : Nat) : forall (run : Run) (line : Int) (maze : Maze),
    (run.advanced line maze steps).run.anchor = run.anchor := by
  induction steps with
  | zero =>
      intro run line maze
      rfl
  | succ steps ih =>
      intro run line maze
      rw [advanced]
      cases walk maze with
      | unknown => rfl
      | blocked => rfl
      | left => rfl
      | moved next points => exact ih _ line next

theorem anchor_switched (run : Run) (line : Int) (on : Bool) (axis : Axis) (index : Nat) :
    (run.switched line on axis index).run.anchor = run.anchor := by
  unfold switched
  cases run.grid with
  | none => rfl
  | some grid =>
      cases axis with
      | row =>
          simp only
          split
          · rfl
          · rfl
      | column => rfl

theorem anchor_painted (run : Run) (line : Int) (value : Cell) :
    (run.painted line value).run.anchor = run.anchor := by
  unfold painted
  cases run.grid with
  | none => rfl
  | some grid => rfl

theorem anchored_apply {run : Run} (h : run.Anchored) (line : Int) (action : Primitive) :
    (run.apply line action).run.Anchored := by
  cases action with
  | declare rows columns => exact anchored_declared h rows columns
  | strip count color row column => exact anchored_paintStrip h line count color row column
  | shifted count color dx dy =>
      have hstrip := anchored_paintStrip h line count color (run.anchor.1 + dy) (run.anchor.2 + dx)
      show (run.paintShifted line count color dx dy).run.Anchored
      unfold paintShifted Carried.andThen
      split
      · exact hstrip
      · exact hstrip
  | turn quarters =>
      unfold apply
      cases run.maze with
      | none => exact h
      | some maze => exact h
  | advance steps =>
      refine anchored_of_outline (outline_apply rfl run line) ?_ h
      unfold apply
      cases run.maze with
      | none => rfl
      | some maze => exact anchor_advanced steps run line maze
  | switch on axis index =>
      exact anchored_of_outline (outline_switched run line on axis index)
        (anchor_switched run line on axis index) h
  | paint color =>
      exact anchored_of_outline (outline_painted run line (some color))
        (anchor_painted run line (some color)) h
  | erase =>
      exact anchored_of_outline (outline_painted run line none) (anchor_painted run line none) h

/-!
## The picture
-/

/-- A run with the commands of its text, a grid of the size that they give, and the anchor on it. -/
structure Shaped (run : Run) : Prop where
  loaded : run.IsLoaded
  sized : run.Sized
  anchored : run.Anchored

theorem enduring_shaped : Enduring Shaped where
  command {_} {command} hcommand hgoing h :=
    ⟨steady_isLoaded.command command hgoing h.loaded, sized_applyCommand h.loaded hcommand h.sized,
      anchored_apply h.anchored command.line command.action⟩
  counted _ h := ⟨h.loaded, h.sized, h.anchored⟩
  entered _ h := ⟨h.loaded, h.sized, h.anchored⟩
  flagged _ h := ⟨h.loaded, h.sized, h.anchored⟩
  failed _ h := ⟨h.loaded, h.sized, h.anchored⟩
  finished _ h := ⟨h.loaded, h.sized, h.anchored⟩

theorem shaped_rewound {run : Run} {size : Option (Nat × Nat)} (hloaded : run.IsLoaded)
    (hsize : run.declaredSize = size) : (run.rewound size).Shaped := by
  refine ⟨hloaded, sized_rewound hsize, ?_⟩
  have hgrid : (run.rewound size).grid = Program.initialGrid run.mode size := rfl
  by_cases hmaze : run.mode = .maze
  · rw [Program.initialGrid, if_pos hmaze] at hgrid
    intro outline houtline
    rw [hgrid] at houtline
    cases houtline
  · rw [Program.initialGrid, if_neg hmaze] at hgrid
    cases size with
    | none =>
        intro outline houtline
        rw [hgrid] at houtline
        cases houtline
    | some extent =>
        rcases hloaded.positive hsize with ⟨hrows, hcolumns⟩
        exact anchored_blank hrows hcolumns hgrid rfl

theorem shaped_event {event : Event} {run after : Run} (h : run.Shaped)
    (hafter : event.on run = .ok after) : after.Shaped := by
  refine enduring_shaped.event h ?_ (fun maze _ => shaped_rewound h.loaded rfl) hafter
  intro source asTarget _ hload
  have hput : forall program, Program.load run.mode source = .ok program ->
      (run.withProgram program).Shaped := fun program hprogram =>
    shaped_rewound (isLoaded_of_load hprogram) (declaredSize_withProgram hprogram)
  rcases load_cases hload with ⟨problem, _, rfl⟩ | ⟨program, hprogram, rfl | ⟨_, target, rfl⟩⟩
  · exact ⟨h.loaded, h.sized, h.anchored⟩
  · exact hput program hprogram
  · have hloaded := hput program hprogram
    exact ⟨hloaded.loaded, hloaded.sized, hloaded.anchored⟩

/-!
## Everything together
-/

def IsStripOf (mode : Mode) : Primitive -> Prop
  | .strip _ _ _ _ => mode = .table
  | .shifted _ _ _ _ => mode = .grid
  | _ => False

/-- What fits together in a run. -/
structure Consistent (run : Run) : Prop where
  counter : run.counter ≤ run.commands.length
  running : run.isRunning = true -> run.isHalted = false ∧ run.counter < run.commands.length
  failure : run.outcome = .failure ->
    run.error.isSome = true ∧ run.counter < run.commands.length
  ordered : run.commands.Pairwise fun first second => first.line ≤ second.line
  fixed : run.mode.declaresSize = false -> run.declaredSize = run.mode.fixedSize
  declared : run.mode.declaresSize = true ->
    run.commands = [] ∧ run.declaredSize = none ∨
      exists line rows columns strips, run.commands = ⟨line, .declare rows columns⟩ :: strips ∧
        run.declaredSize = some (rows, columns) ∧
        forall command, command ∈ strips -> IsStripOf run.mode command.action
  missing : run.grid = none ↔ run.mode = .maze ∨ run.declaredSize = none
  sized : forall grid, run.grid = some grid -> exists rows columns,
    run.declaredSize = some (rows, columns) ∧ grid.length = rows ∧ grid.IsRectangular columns
  anchor : forall grid, run.grid = some grid -> Within run.anchor.1 grid.length ∧
    forall row, row ∈ grid -> Within run.anchor.2 row.length
  cells : forall grid, run.grid = some grid -> forall row, row ∈ grid -> forall cell, cell ∈ row ->
    cell = none ∨ cell.character ∈ ['R', 'G', 'B', 'W', 'Y', 'C', 'M']

theorem isStripOf_of_allows {mode : Mode} {action : Primitive} (hdeclares : mode.declaresSize = true)
    (hallows : mode.Allows action) (hstrip : action.isDeclaration = false) :
    IsStripOf mode action := by
  cases action with
  | declare rows columns => cases hstrip
  | strip count color row column => exact hallows.left
  | shifted count color dx dy => exact hallows.left
  | turn quarters =>
      rw [hallows.left] at hdeclares
      cases hdeclares
  | advance steps =>
      rw [show mode = .maze from hallows] at hdeclares
      cases hdeclares
  | switch on axis index =>
      rw [hallows.left] at hdeclares
      cases hdeclares
  | paint color =>
      rw [show mode = .pixel from hallows] at hdeclares
      cases hdeclares
  | erase =>
      rw [show mode = .pixel from hallows] at hdeclares
      cases hdeclares

theorem Shaped.grid_eq_none_iff {run : Run} (h : run.Shaped) :
    run.grid = none ↔ run.mode = .maze ∨ run.declaredSize = none := by
  have hsized := h.sized
  unfold Sized at hsized
  rw [← @Option.map_eq_none_iff _ _ _ Grid.outline, hsized, Option.map_eq_none_iff,
    Program.initialGrid]
  by_cases hmaze : run.mode = .maze
  · simp [hmaze]
  · simp [hmaze]

theorem Shaped.rectangular {run : Run} (h : run.Shaped) {grid : Grid} (hgrid : run.grid = some grid) :
    exists rows columns, run.declaredSize = some (rows, columns) ∧ grid.length = rows ∧
      grid.IsRectangular columns := by
  have hthere : Not (run.mode = .maze ∨ run.declaredSize = none) := by
    rw [← h.grid_eq_none_iff, hgrid]
    nofun
  rw [not_or] at hthere
  cases hdeclared : run.declaredSize with
  | none => exact absurd hdeclared hthere.right
  | some extent =>
      rcases h.sized.grid hthere.left hdeclared with ⟨same, hsame, hrows, hcolumns⟩
      cases hgrid.symm.trans hsame
      exact ⟨extent.1, extent.2, rfl, hrows, hcolumns⟩

theorem Shaped.anchor {run : Run} (h : run.Shaped) {grid : Grid} (hgrid : run.grid = some grid) :
    Within run.anchor.1 grid.length ∧
      forall row, row ∈ grid -> Within run.anchor.2 row.length := by
  rcases h.rectangular hgrid with ⟨rows, columns, _, _, hcolumns⟩
  rcases h.anchored grid.outline (by rw [hgrid, Option.map_some]) with ⟨hheight, hwidth⟩
  constructor
  · rwa [Grid.outline, List.length_map] at hheight
  · intro row hrow
    cases grid with
    | nil => cases hrow
    | cons first rest =>
        rw [hcolumns row hrow, ← hcolumns first (by simp)]
        exact hwidth

theorem letter_of_cell (cell : Cell) :
    cell = none ∨ cell.character ∈ ['R', 'G', 'B', 'W', 'Y', 'C', 'M'] := by
  cases cell with
  | none => exact Or.inl rfl
  | some color =>
      right
      cases color with
      | _ => decide

theorem consistent_of_shaped {run : Run} (hplaced : run.Placed) (h : run.Shaped) :
    run.Consistent := by
  rcases h.loaded with ⟨program, hprogram, hcommands⟩
  have hwell := Program.load_wellFormed hprogram
  have hmode := (Program.load_eq_ok hprogram).left
  have hsize := declaredSize_of_load hprogram hcommands
  constructor
  · exact hplaced.counter
  · exact hplaced.running
  · exact hplaced.failure
  · rw [hcommands]
    exact hwell.ordered
  · rw [hsize, ← hmode]
    exact hwell.fixed
  · rw [hcommands, hsize, ← hmode]
    intro hdeclares
    rcases hwell.declared hdeclares with hnone | ⟨line, rows, columns, rest, hcons, hsome, hrest⟩
    · exact Or.inl hnone
    · refine Or.inr ⟨line, rows, columns, rest, hcons, hsome, fun command hcommand => ?_⟩
      refine isStripOf_of_allows hdeclares (hwell.allowed command ?_) (hrest command hcommand)
      rw [hcons]
      exact List.mem_cons_of_mem _ hcommand
  · exact h.grid_eq_none_iff
  · exact fun _ hgrid => h.rectangular hgrid
  · exact fun _ hgrid => h.anchor hgrid
  · exact fun _ _ _ _ cell _ => letter_of_cell cell

/-- Whatever has been done with a run, its parts fit together, and carrying it on or stopping it never
sets its counter back. -/
theorem course_consistent {mode : Mode} {maze : Option Maze} {run : Run}
    (h : Course Anything (start mode maze) run) :
    run.Consistent ∧ forall event : Event, event.Proceeds ->
      forall after, event.on run = .ok after -> run.counter ≤ after.counter := by
  have hplaced : run.Placed := h.invariant (placed_rewound _ _)
    fun _ _ _ _ hbefore hafter => placed_event hbefore hafter
  have hshaped : run.Shaped := by
    refine h.invariant ?_ fun _ _ _ _ hbefore hafter => shaped_event hbefore hafter
    exact shaped_rewound (isLoaded_start mode maze) rfl
  exact ⟨consistent_of_shaped hplaced hshaped,
    fun event hproceeds after hafter => counter_le_event hproceeds hafter⟩

/-- A strip that is too long ends a run, and then a text is refused: the failure and the counter stay,
and the problem is the new one. -/
theorem course_consistent_refused :
    exists loaded halted refused : Run,
      (start .table none).load "1#2\n1 R 0 0\n3 G 0 0" false = .ok loaded ∧
        loaded.runToHalt 5 = .ok halted ∧ halted.load "?" false = .ok refused ∧
        refused.counter = 2 ∧ refused.outcome = .failure ∧ refused.error ≠ halted.error ∧
        refused.Consistent ∧ forall after, refused.runToHalt 5 = .ok after -> 2 ≤ after.counter := by
  have hrun : exists loaded halted : Run,
      (start .table none).load "1#2\n1 R 0 0\n3 G 0 0" false = .ok loaded ∧
        loaded.runToHalt 5 = .ok halted ∧ halted.mode = .table ∧ halted.counter = 2 ∧
        halted.outcome = .failure ∧ halted.error = some ⟨2, .stripTooLong⟩ :=
    ⟨_, _, @load_of_program (start .table none) _ _ load_longStrip, rfl, rfl, rfl, rfl, rfl⟩
  have hproblem : exists problem, Program.load .table "?" = .error (.program problem) ∧
      some problem ≠ some ⟨2, .stripTooLong⟩ := ⟨_, rfl, nofun⟩
  rcases hrun with ⟨loaded, halted, hload, hhalted, hmode, hcounter, houtcome, herror⟩
  rcases hproblem with ⟨problem, hproblem, hother⟩
  have hrefused : halted.load "?" false =
      .ok { halted with error := some problem, isRunning := false } := by
    unfold load
    rw [hmode, hproblem]
  have hstart : Course Anything (start .table none) (start .table none) := Course.start
  have hcourse := ((hstart.event (.load "1#2\n1 R 0 0\n3 G 0 0" false) trivial hload).event
    (.runToHalt 5) trivial hhalted).event (.load "?" false) trivial hrefused
  rcases course_consistent hcourse with ⟨hconsistent, honward⟩
  refine ⟨loaded, halted, _, hload, hhalted, hrefused, hcounter, houtcome, ?_, hconsistent, ?_⟩
  · rw [herror]
    exact hother
  · intro after hafter
    have hle : halted.counter ≤ after.counter := honward (.runToHalt 5) trivial after hafter
    rwa [hcounter] at hle

end Run
end Mosaic
