import Mosaic.Proofs.Run.Orderly
import Mosaic.Proofs.Run.Sized

/-!
# Sturdy runs

Whatever has been done with a run, its commands are those of its text, its grid has the size that
they declare, and its turtle stands on a cell with walls.  So each command finds what it works on.
-/

namespace Mosaic
namespace Maze

/-- A maze that was generated, or read from a document. -/
inductive Given : Maze -> Prop
  | generated {σ : Type} [RandomSource σ] {rows columns : Int} {chance : σ} {maze : Maze}
      (result : (generate rows columns chance).1 = .ok maze) : Given maze
  | read {value : Document} {maze : Maze} (result : ofDocument value = .ok maze) : Given maze

variable {maze : Maze}

theorem wellFormed_of_generate {σ : Type} [RandomSource σ] {rows columns : Int} {source : σ}
    (h : (generate rows columns source).1 = .ok maze) : maze.WellFormed := by
  have hfresh := (playable_of_generate h).wellFormed_fresh
  have hstart := (playable_of_generate h).start
  rcases size_of_generate h with ⟨hrows, hcolumns, hroom⟩
  rcases builtFrom_generateWithin (by omega : 0 < rows.toNat) (by omega : 0 < columns.toNat) source
    with ⟨board, exit, side, places, hbuilt⟩
  rw [generate_eq_ok hrows hcolumns hroom] at h
  cases h
  refine hfresh.of_layout (layout_fresh _).symm ?_ ?_ ?_ ?_
  · rw [hbuilt.visited]
    exact List.cons_ne_nil _ _
  · rw [hbuilt.visited]
    intro place hplace
    rw [List.mem_singleton.mp hplace]
    exact hstart
  · rw [hbuilt.visited]
    exact List.pairwise_singleton _ _
  · rw [hbuilt.turtle]
    exact hstart

theorem given_iff : maze.Given ↔ maze.WellFormed := by
  constructor
  · intro h
    cases h with
    | generated result => exact wellFormed_of_generate result
    | read result => exact wellFormed_of_ofDocument result
  · intro h
    exact .read (ofDocument_toDocument h)

theorem Given.wellFormed_fresh (h : maze.Given) : maze.fresh.WellFormed := (given_iff.mp h).fresh

theorem WellFormed.grounded (h : maze.WellFormed) : maze.Grounded := by
  constructor
  · exact Run.holds_iff.mpr h.turtle
  · intro place hplace
    rcases Run.holds_iff.mp hplace with ⟨hrow, hcolumn⟩
    rw [← h.height] at hrow
    have hwidth := h.width maze.walls[place.row] (List.getElem_mem hrow)
    rw [← hwidth] at hcolumn
    unfold wallsAt?
    rw [List.getElem?_eq_getElem hrow]
    show (maze.walls[place.row][place.column]?).isSome = true
    rw [List.getElem?_eq_getElem hcolumn]
    rfl

theorem Grounded.fresh (h : maze.Grounded) : maze.fresh.Grounded := by
  constructor
  · rcases Run.holds_iff.mp h.turtle with ⟨hrow, hcolumn⟩
    apply Run.holds_iff.mpr
    constructor
    · exact Nat.div_lt_self (Nat.zero_lt_of_lt hrow) (by decide)
    · exact Nat.div_lt_self (Nat.zero_lt_of_lt hcolumn) (by decide)
  · exact h.walled

end Maze

namespace Run

/-- A run in which every command finds the picture it works on. -/
structure Sturdy (run : Run) : Prop where
  loaded : run.IsLoaded
  sized : run.Sized
  grounded : run.mode = .maze -> forall maze, run.maze = some maze -> maze.Grounded

theorem Sturdy.allowed {run : Run} (h : run.Sturdy) {command : Command}
    (hcommand : command ∈ run.commands) : run.mode.Allows command.action := by
  rcases h.loaded with ⟨program, hprogram, hcommands⟩
  rw [hcommands] at hcommand
  rw [← (Program.load_eq_ok hprogram).left]
  exact (Program.load_wellFormed hprogram).allowed command hcommand

theorem Sturdy.table {run : Run} (h : run.Sturdy) (hne : run.commands ≠ [])
    (hdeclares : run.mode.declaresSize = true) :
    exists first rest, run.grid = some (first :: rest) := by
  have hother := Mode.ne_maze_of_declaresSize hdeclares
  rcases h.loaded with ⟨program, hprogram, hcommands⟩
  have hsize := declaredSize_of_load hprogram hcommands
  rw [← (Program.load_eq_ok hprogram).left] at hdeclares
  rcases (Program.load_wellFormed hprogram).declared hdeclares with
    ⟨hnil, _⟩ | ⟨line, rows, columns, rest, _, hsome, _⟩
  · exact absurd (hcommands.trans hnil) hne
  · rw [hsome] at hsize
    rcases h.sized.grid hother hsize with ⟨grid, hgrid, hrows, _⟩
    have hpositive := (h.loaded.positive hsize).left
    cases grid with
    | nil =>
        rw [← hrows] at hpositive
        cases hpositive
    | cons first rest => exact ⟨first, rest, hgrid⟩

theorem Sturdy.fits {run : Run} (h : run.Sturdy) (hne : run.commands ≠ []) : run.Fits := by
  unfold Fits
  cases hmode : run.mode with
  | table => exact h.table hne (by rw [hmode]; rfl)
  | grid => exact h.table hne (by rw [hmode]; rfl)
  | maze => exact h.grounded hmode
  | matrix =>
      rcases h.loaded with ⟨program, hprogram, hcommands⟩
      have hfixed := (Program.load_wellFormed hprogram).fixed (by
        rw [(Program.load_eq_ok hprogram).left, hmode]
        rfl)
      have hsize := declaredSize_of_load hprogram hcommands
      rw [hfixed, (Program.load_eq_ok hprogram).left, hmode] at hsize
      exact h.sized.grid (by rw [hmode]; decide) hsize
  | pixel => trivial

theorem Sturdy.behaves {run : Run} (h : run.Sturdy) {command : Command}
    (hcommand : command ∈ run.commands) :
    Behaves run command.action (run.applyCommand command) :=
  behaves_apply (h.fits (List.ne_nil_of_mem hcommand)) (h.allowed hcommand) command.line

theorem enduring_sturdy : Enduring Sturdy where
  command {run} {command} hcommand hgoing h := by
    constructor
    · exact steady_isLoaded.command command hgoing h.loaded
    · exact sized_applyCommand h.loaded hcommand h.sized
    · intro hmode
      have hfits := (h.behaves hcommand).fits
      unfold Fits at hfits
      rw [hmode] at hfits
      exact hfits
  counted _ h := ⟨h.loaded, h.sized, h.grounded⟩
  entered _ h := ⟨h.loaded, h.sized, h.grounded⟩
  flagged _ h := ⟨h.loaded, h.sized, h.grounded⟩
  failed _ h := ⟨h.loaded, h.sized, h.grounded⟩
  finished _ h := ⟨h.loaded, h.sized, h.grounded⟩

/-!
## Along a course
-/

def GivenMazes (event : Event) (_ : Run) : Prop :=
  forall maze, event = .reset (some maze) -> maze.Given

theorem sturdy_rewound {run : Run} {size : Option (Nat × Nat)} (hloaded : run.IsLoaded)
    (hsize : run.declaredSize = size)
    (hgrounded : run.mode = .maze -> forall maze, run.maze = some maze -> maze.fresh.Grounded) :
    (run.rewound size).Sturdy := by
  constructor
  · exact hloaded
  · exact sized_rewound hsize
  · intro hmode maze hmaze
    rcases Option.map_eq_some_iff.mp hmaze with ⟨before, hbefore, rfl⟩
    exact hgrounded hmode before hbefore

theorem sturdy_start {mode : Mode} {maze : Option Maze}
    (hmaze : forall given, maze = some given -> given.fresh.Grounded) :
    (start mode maze).Sturdy := by
  refine sturdy_rewound ?_ rfl ?_
  · exact ⟨_, load_nothing mode, rfl⟩
  · intro _ given hgiven
    exact hmaze given hgiven

theorem sturdy_withProgram {run : Run} {source : String} {program : Program} (h : run.Sturdy)
    (hprogram : Program.load run.mode source = .ok program) : (run.withProgram program).Sturdy := by
  refine sturdy_rewound ?_ (declaredSize_withProgram hprogram) ?_
  · exact isLoaded_of_load hprogram
  · intro hmode maze hmaze
    exact (h.grounded hmode maze hmaze).fresh

theorem sturdy_load {run after : Run} {source : String} {asTarget : Bool} (h : run.Sturdy)
    (hload : run.load source asTarget = .ok after) : after.Sturdy := by
  rcases load_cases hload with ⟨problem, _, rfl⟩ | ⟨program, hprogram, rfl | ⟨_, target, rfl⟩⟩
  · exact ⟨h.loaded, h.sized, h.grounded⟩
  · exact sturdy_withProgram h hprogram
  · have hloaded := sturdy_withProgram h hprogram
    exact ⟨hloaded.loaded, hloaded.sized, hloaded.grounded⟩

theorem sturdy_reset {run : Run} {maze : Option Maze} (h : run.Sturdy)
    (hmaze : forall given, maze = some given -> given.fresh.Grounded) :
    (run.reset maze).Sturdy := by
  refine sturdy_rewound ?_ rfl ?_
  · exact h.loaded
  · intro hmode given hgiven
    cases maze with
    | none => exact (h.grounded hmode given hgiven).fresh
    | some other =>
        cases hgiven
        exact hmaze given rfl

theorem sturdy_event {event : Event} {run after : Run} (h : run.Sturdy)
    (hmaze : forall maze, event = .reset (some maze) -> maze.fresh.Grounded)
    (hafter : event.on run = .ok after) : after.Sturdy := by
  refine enduring_sturdy.event h (fun _ _ _ hload => sturdy_load h hload) ?_ hafter
  rintro maze rfl
  exact sturdy_reset h fun given hgiven => hmaze given (by rw [hgiven])

/-- Whatever is done with a run, it stays sturdy. -/
theorem Course.sturdy {mode : Mode} {maze : Option Maze} {run : Run}
    (hmaze : forall given, maze = some given -> given.Given)
    (h : Course GivenMazes (Run.start mode maze) run) : run.Sturdy := by
  have hstart : (Run.start mode maze).Sturdy :=
    sturdy_start fun given hgiven => (hmaze given hgiven).wellFormed_fresh.grounded
  refine h.invariant hstart fun event before after permitted hbefore result => ?_
  exact sturdy_event hbefore (fun given hgiven =>
    (permitted given hgiven).wellFormed_fresh.grounded) result

end Run
end Mosaic
