import Mosaic.Proofs.Run.Course
import Mosaic.Proofs.Run.Keeping
import Mosaic.Proofs.Run.Sized

/-!
# Grids with rows of one width

Every grid that a run shows or has as its target has rows of one width: it starts out unlit, and
nothing but a declaration gives it another outline.  The same holds of what a program draws as a
target, because a replay leaves commands out and changes nothing else.
-/

namespace Mosaic
namespace Grid

def IsEven (grid : Grid) : Prop := exists columns, grid.IsRectangular columns

theorem isEven_blank (rows columns : Nat) : (blank rows columns).IsEven :=
  ⟨columns, blank_isRectangular rows columns⟩

theorem isRectangular_iff_outline {grid : Grid} {columns : Nat} :
    grid.IsRectangular columns ↔ forall width, width ∈ grid.outline -> width = columns := by
  unfold IsRectangular outline
  simp

theorem isEven_of_outline {grid other : Grid} (houtline : other.outline = grid.outline)
    (h : grid.IsEven) : other.IsEven := by
  rcases h with ⟨columns, hcolumns⟩
  refine ⟨columns, ?_⟩
  rw [isRectangular_iff_outline, houtline, ← isRectangular_iff_outline]
  exact hcolumns

end Grid

def EvenIfAny (grid : Option Grid) : Prop := forall given, grid = some given -> given.IsEven

theorem evenIfAny_none : EvenIfAny none := nofun

theorem evenIfAny_some {grid : Grid} (h : grid.IsEven) : EvenIfAny (some grid) := by
  intro given hgiven
  cases hgiven
  exact h

theorem evenIfAny_of_outline {before after : Option Grid}
    (houtline : after.map Grid.outline = before.map Grid.outline) (h : EvenIfAny before) :
    EvenIfAny after := by
  intro given hgiven
  rw [hgiven] at houtline
  rcases Option.map_eq_some_iff.mp houtline.symm with ⟨grid, hgrid, hsame⟩
  exact Grid.isEven_of_outline hsame.symm (h grid hgrid)

theorem evenIfAny_initialGrid (mode : Mode) (size : Option (Nat × Nat)) :
    EvenIfAny (Program.initialGrid mode size) := by
  unfold Program.initialGrid
  split
  · exact evenIfAny_none
  · cases size with
    | none => exact evenIfAny_none
    | some size => exact evenIfAny_some (Grid.isEven_blank size.1 size.2)

namespace Run

/-!
## Commands
-/

theorem even_declared {run : Run} (h : EvenIfAny run.grid) (rows columns : Nat) :
    EvenIfAny (run.declared rows columns).run.grid := by
  unfold Run.declared
  cases hcreate : Grid.create rows columns with
  | error fault => exact h
  | ok grid =>
      unfold Grid.create at hcreate
      split at hcreate
      · cases hcreate
      · cases hcreate
        exact evenIfAny_some (Grid.isEven_blank _ _)

theorem even_applyCommand {run : Run} (h : EvenIfAny run.grid) (command : Command) :
    EvenIfAny (run.applyCommand command).run.grid := by
  rcases command with ⟨line, action⟩
  cases hdeclares : action.isDeclaration with
  | false => exact evenIfAny_of_outline (outline_apply hdeclares run line) h
  | true =>
      cases action with
      | declare rows columns => exact even_declared h rows columns
      | _ => cases hdeclares

/-!
## Replays
-/

theorem even_replayCommand {run next : Run} {command : Command} (h : EvenIfAny run.grid)
    (hnext : run.replayCommand command = .ok next) : EvenIfAny next.grid := by
  have hentered : EvenIfAny (run.enterLineOf command).grid := by
    rw [grid_enterLineOf]
    exact h
  unfold replayCommand at hnext
  simp only at hnext
  split at hnext
  · cases hnext
    exact even_applyCommand hentered command
  · cases hnext
    exact hentered
  · cases hnext

theorem even_foldlM_replayCommand {commands : List Command} {run final : Run}
    (h : EvenIfAny run.grid) (hfinal : commands.foldlM replayCommand run = .ok final) :
    EvenIfAny final.grid := by
  induction commands generalizing run with
  | nil =>
      cases hfinal
      exact h
  | cons command rest ih =>
      rw [List.foldlM_cons] at hfinal
      rcases Attempts.bind_eq_ok_iff.mp hfinal with ⟨next, hnext, hrest⟩
      exact ih (even_replayCommand h hnext) hrest

theorem even_replay {program : Program} {target : Option Grid}
    (h : program.replay = .ok target) : EvenIfAny target := by
  unfold Program.replay at h
  split at h
  · cases h
    exact evenIfAny_none
  · rcases Attempts.bind_eq_ok_iff.mp h with ⟨final, hfinal, hpure⟩
    cases Attempts.pure_eq_ok_iff.mp hpure
    exact even_foldlM_replayCommand (evenIfAny_initialGrid program.mode program.size) hfinal

/-!
## Runs
-/

structure Even (run : Run) : Prop where
  shown : EvenIfAny run.grid
  wanted : EvenIfAny run.target

theorem steady_even : Steady Even where
  command {run} command _ h := by
    constructor
    · exact even_applyCommand h.shown command
    · rw [(frame_applyCommand run command).target]
      exact h.wanted
  counted _ h := ⟨h.shown, h.wanted⟩
  entered _ h := ⟨h.shown, h.wanted⟩
  flagged _ h := ⟨h.shown, h.wanted⟩
  failed _ h := ⟨h.shown, h.wanted⟩
  finished h := ⟨h.shown, h.wanted⟩

theorem even_rewound {run : Run} (h : EvenIfAny run.target) (size : Option (Nat × Nat)) :
    (run.rewound size).Even :=
  ⟨evenIfAny_initialGrid run.mode size, h⟩

theorem even_start (mode : Mode) (maze : Option Maze) : (start mode maze).Even :=
  even_rewound evenIfAny_none mode.fixedSize

theorem even_load {run after : Run} {source : String} {asTarget : Bool} (h : run.Even)
    (hload : run.load source asTarget = .ok after) : after.Even := by
  unfold load at hload
  split at hload
  · cases hload
    exact ⟨h.shown, h.wanted⟩
  · cases hload
  · rename_i program hprogram
    simp only at hload
    split at hload
    · rcases Attempts.bind_eq_ok_iff.mp hload with ⟨target, htarget, hpure⟩
      cases Attempts.pure_eq_ok_iff.mp hpure
      exact ⟨evenIfAny_initialGrid run.mode program.size, even_replay htarget⟩
    · cases hload
      apply even_rewound
      exact h.wanted

theorem even_reset {run : Run} (h : run.Even) (maze : Option Maze) : (run.reset maze).Even := by
  apply even_rewound
  exact h.wanted

theorem even_event {event : Event} {run after : Run} (h : run.Even)
    (hafter : event.on run = .ok after) : after.Even :=
  steady_even.enduring.event h (fun _ _ _ hload => even_load h hload)
    (fun maze _ => even_reset h maze) hafter

end Run
end Mosaic
