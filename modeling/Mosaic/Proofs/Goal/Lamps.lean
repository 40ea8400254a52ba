import Mosaic.Goal
import Mosaic.Proofs.Program.Printing
import Mosaic.Proofs.Program.Written
import Mosaic.Proofs.Random.Draws
import Mosaic.Proofs.Run.Reproducing

/-!
# Lamp goals and their programs

The code of a lamp goal has a line for every switch.  A line is read as its switch, and switches that
are carried out light the lamps of the goal.
-/

namespace Mosaic
namespace Goal

structure IsLamps (grid : Grid) : Prop where
  rows : grid.length = 8
  columns : grid.IsRectangular 8

namespace Toggle

def action (toggle : Toggle) : Primitive := .switch toggle.on toggle.axis toggle.index

/-!
## Lines
-/

theorem address_eq (toggle : Toggle) : toggle.address = toggle.axis.address toggle.index := by
  rcases toggle with ⟨axis, index, on⟩
  cases axis with
  | row => rfl
  | column => rfl

theorem isBlank_address {toggle : Toggle} (h : toggle.index < 8) :
    Text.isBlank toggle.address = false := by
  rw [address_eq]
  exact Program.isBlank_address h rfl

theorem no_feed_line {toggle : Toggle} (h : toggle.index < 8) : '\n' ∉ toggle.line := by
  have haddress : toggle.address ≠ '\n' := by
    intro hfeed
    have hblank := isBlank_address h
    rw [hfeed] at hblank
    revert hblank
    decide
  unfold line
  cases toggle.on with
  | true => simp [haddress.symm]
  | false => simp [haddress.symm]

theorem prints_line (toggle : Toggle) : toggle.action.Prints toggle.line := by
  have hblank : Text.IsGap [' '] := List.forall_mem_singleton.mpr (by decide)
  refine ⟨toggle.action.pieces, toggle.line, ?_, ?_, Text.pads_self toggle.line⟩
  · exact List.forall₂_same.mpr fun piece _ => List.forall₂_same.mpr fun c _ => rfl
  · rw [line, address_eq]
    exact .cons _ hblank (Nat.zero_le _) (.single _)

theorem loadLine_line {toggle : Toggle} (h : toggle.index < 8) (start : Int) :
    Program.loadLine .matrix start Mode.matrix.fixedSize toggle.line =
      .ok ([⟨start, toggle.action⟩], Mode.matrix.fixedSize) := by
  have hprintable : toggle.action.IsPrintable .matrix := ⟨rfl, h⟩
  rw [Program.loadLine, Program.parseLine_of_prints hprintable toggle.prints_line start]
  rfl

/-!
## Switches
-/

theorem apply_isLamps {toggle : Toggle} (h : toggle.index < 8) {grid : Grid} (hgrid : IsLamps grid) :
    IsLamps (toggle.apply grid) := by
  rcases toggle with ⟨axis, index, on⟩
  unfold apply
  cases axis with
  | row =>
      constructor
      · exact (Grid.length_paintWholeRow _ _ _).trans hgrid.rows
      · exact Run.isRectangular_modify hgrid.columns (fun cells => List.length_map _) index
  | column =>
      rcases Run.paintColumn_of_isRectangular h (if on then some .white else none) hgrid.columns
        with ⟨_, hlength, hcolumns⟩
      exact ⟨hlength.trans hgrid.rows, hcolumns⟩

/-- A switch that is carried out does to the lamps what it does in the goal. -/
theorem switched_eq {toggle : Toggle} (h : toggle.index < 8) {run : Run} {grid : Grid}
    (hgrid : run.grid = some grid) (hlamps : IsLamps grid) (start : Int) :
    (run.apply start toggle.action).fault = none ∧
      (run.apply start toggle.action).run.grid = some (toggle.apply grid) := by
  rcases toggle with ⟨axis, index, on⟩
  unfold Run.apply action Run.switched apply
  rw [hgrid]
  cases axis with
  | row =>
      simp only
      rw [if_pos (hlamps.rows ▸ h)]
      exact ⟨rfl, rfl⟩
  | column =>
      rcases Run.paintColumn_of_isRectangular h (if on then some .white else none) hlamps.columns
        with ⟨hcomplete, _⟩
      refine ⟨?_, rfl⟩
      simp only [hcomplete, if_true]

end Toggle

theorem carryOut_toggles {toggles : List Toggle}
    (h : forall toggle, toggle ∈ toggles -> toggle.index < 8) {commands : List Command}
    (hcommands : commands.map Command.action = toggles.map Toggle.action) {run : Run} {grid : Grid}
    (hgrid : run.grid = some grid) (hlamps : IsLamps grid) (hidle : run.outcome = .idle)
    (index : Nat) :
    exists final, Run.carryOut index run commands = .ok (final, .complete) ∧
      final.grid = some (toggles.foldl Toggle.apply grid) := by
  induction toggles generalizing commands run grid index with
  | nil =>
      rw [List.map_nil, List.map_eq_nil_iff] at hcommands
      rw [hcommands]
      exact ⟨run, rfl, hgrid⟩
  | cons toggle rest ih =>
      rw [List.map_cons, List.map_eq_cons_iff] at hcommands
      rcases hcommands with ⟨⟨line, action⟩, others, rfl, rfl, hothers⟩
      have htoggle := h toggle (by simp)
      have hentered := (Run.grid_enterLineOf run ⟨line, toggle.action⟩).trans hgrid
      rcases Toggle.switched_eq htoggle hentered hlamps line with ⟨hfault, hafter⟩
      have hstill : ((run.enterLineOf ⟨line, toggle.action⟩).apply line
          toggle.action).run.outcome = .idle := by
        rw [← hidle, ← (Run.frame_enterLineOf run ⟨line, toggle.action⟩).2.2.2.2.1]
        exact Run.outcome_of_paints (Run.paints_switched line _ _ _) _
      rcases ih (fun other hother => h other (by simp [hother])) hothers hafter
        (Toggle.apply_isLamps htoggle hlamps) hstill (index + 1) with ⟨final, hfinal, hdrawn⟩
      refine ⟨final, ?_, hdrawn⟩
      exact (Run.carryOut_cons_of_none _ hfault hstill).trans hfinal

/-!
## Texts
-/

def lampProgram (toggles : List Toggle) : Program :=
  ⟨.matrix, lampCode toggles,
    Program.commandsOf 0 (toggles.map fun toggle => [toggle.action]), Mode.matrix.fixedSize⟩

theorem load_lampCode {toggles : List Toggle} (hne : toggles ≠ [])
    (h : forall toggle, toggle ∈ toggles -> toggle.index < 8) :
    Program.load .matrix (lampCode toggles) = .ok (lampProgram toggles) :=
  Program.load_joinLines hne (fun toggle htoggle => Toggle.no_feed_line (h toggle htoggle))
    (fun toggle htoggle start => Toggle.loadLine_line (h toggle htoggle) start)

theorem lines_lampCode {toggles : List Toggle} (hne : toggles ≠ [])
    (h : forall toggle, toggle ∈ toggles -> toggle.index < 8) :
    (Text.lines (lampCode toggles).toList).length = toggles.length := by
  unfold lampCode
  rw [String.toList_ofList, Text.lines_joinLines (by simpa using hne), List.length_map]
  intro row hrow
  rcases List.mem_map.mp hrow with ⟨toggle, htoggle, rfl⟩
  exact Toggle.no_feed_line (h toggle htoggle)

theorem isLamps_blank : IsLamps (Grid.blank lampSize lampSize) :=
  ⟨Grid.length_blank 8 8, Grid.blank_isRectangular 8 8⟩

theorem isLamps_lampsAfter {toggles : List Toggle}
    (h : forall toggle, toggle ∈ toggles -> toggle.index < 8) : IsLamps (lampsAfter toggles) := by
  unfold lampsAfter
  exact List.foldlRecOn toggles Toggle.apply isLamps_blank fun grid hgrid toggle htoggle =>
    Toggle.apply_isLamps (h toggle htoggle) hgrid

theorem reproduces_lampCode {toggles : List Toggle} (hne : toggles ≠ [])
    (hcount : toggles.length ≤ 60) (h : forall toggle, toggle ∈ toggles -> toggle.index < 8) :
    Run.Reproduces .matrix (lampCode toggles) (lampsAfter toggles) 60
      (.quarters (lampsAfter toggles).litCells) := by
  have hlines : (lampProgram toggles).lineCount ≤ 60 := by
    have hfew := Program.length_lines_commandsOf 0 (toggles.map fun toggle => [toggle.action])
    rw [List.length_map] at hfew
    exact Nat.le_trans hfew hcount
  have hcommands : (lampProgram toggles).commands ≠ [] := by
    apply List.ne_nil_of_length_pos
    show 0 < (Program.commandsOf 0 (toggles.map fun toggle => [toggle.action])).length
    rw [Program.length_commandsOf]
    exact List.length_pos_iff.mpr hne
  have hlit : lampsAfter toggles ≠ [] := by
    apply List.ne_nil_of_length_pos
    rw [(isLamps_lampsAfter h).rows]
    decide
  have hactions : (lampProgram toggles).commands.map Command.action =
      toggles.map Toggle.action := by
    have hsingle := Program.actions_commandsOf 0 (toggles.map Toggle.action)
    rwa [List.map_map] at hsingle
  rcases @carryOut_toggles toggles h _ hactions (lampProgram toggles).blankRun _ rfl isLamps_blank
    rfl 0 with ⟨final, hfinal, hdrawn⟩
  have hpainting : (lampProgram toggles).mode ≠ .maze := by simp [lampProgram]
  exact Run.reproduces_of_complete (load_lampCode hne h) hpainting hcommands
    (Int.ofNat_le.mpr hlines) hfinal hdrawn fun halted hreached => Score.ofRun_matrix hreached hlit

/-!
## Drawn switches
-/

/-- Switches as they are drawn: from thirty to sixty of them, each for lamps that there are. -/
structure AreDrawn (toggles : List Toggle) : Prop where
  least : 30 ≤ toggles.length
  most : toggles.length ≤ 60
  index : forall toggle, toggle ∈ toggles -> toggle.index < 8

variable {σ : Type} [RandomSource σ]

theorem always_drawToggle : Draw.Always (drawToggle : Draw σ Toggle) fun toggle =>
    toggle.index < 8 := by
  unfold drawToggle
  refine Draw.always_bind (Draw.always_any _) fun isRow _ => ?_
  refine Draw.always_bind (Draw.always_below (by decide)) fun index hindex => ?_
  refine Draw.always_bind (Draw.always_any _) fun on _ => ?_
  exact Draw.always_pure hindex

theorem always_drawToggles : Draw.Always (drawToggles : Draw σ (List Toggle)) AreDrawn := by
  unfold drawToggles
  refine Draw.always_bind (Draw.always_between (by decide)) fun count hcount => ?_
  refine (Draw.always_times always_drawToggle count).imp fun toggles htoggles => ?_
  rcases htoggles with ⟨rfl, hindex⟩
  exact ⟨hcount.left, hcount.right, hindex⟩

theorem always_searchToggles (litCells : Int) (attempts : Nat) :
    Draw.Always (searchToggles litCells attempts : Draw σ (Option (List Toggle))) fun found =>
      forall toggles, found = some toggles ->
        AreDrawn toggles ∧ ((lampsAfter toggles).litCells : Int) = litCells := by
  induction attempts with
  | zero => exact Draw.always_pure fun toggles htoggles => by cases htoggles
  | succ attempts ih =>
      rw [searchToggles]
      refine Draw.always_bind always_drawToggles fun toggles htoggles => ?_
      split
      · rename_i hlit
        refine Draw.always_pure fun found hfound => ?_
        cases hfound
        exact ⟨htoggles, hlit⟩
      · exact ih

theorem always_drawLamps (litCells attempts : Int) :
    Draw.Always (drawLamps litCells attempts : Draw σ (Except Fault (Grid × String))) fun drawn =>
      forall grid code, drawn = .ok (grid, code) ->
        exists toggles, AreDrawn toggles ∧ ((lampsAfter toggles).litCells : Int) = litCells ∧
          grid = lampsAfter toggles ∧ code = lampCode toggles := by
  unfold drawLamps
  refine Draw.always_bind (always_searchToggles litCells attempts.toNat) fun found hfound => ?_
  cases found with
  | none => exact Draw.always_pure fun grid code hgiven => by cases hgiven
  | some toggles =>
      refine Draw.always_pure fun grid code hgiven => ?_
      cases hgiven
      exact ⟨toggles, (hfound toggles rfl).left, (hfound toggles rfl).right, rfl, rfl⟩

/-- A lamp goal that is drawn shows the wanted number of lamps, and its code, with a command on each
of its thirty to sixty lines, reproduces it. -/
theorem drawLamps_reproduced {litCells attempts : Int} {source : σ} {grid : Grid} {code : String}
    (h : (drawLamps litCells attempts source).1 = .ok (grid, code)) :
    grid.length = 8 ∧ grid.IsRectangular 8 ∧ (grid.litCells : Int) = litCells ∧
      30 ≤ (Text.lines code.toList).length ∧ (Text.lines code.toList).length ≤ 60 ∧
      (exists program, Program.load .matrix code = .ok program ∧
        program.commands.length = (Text.lines code.toList).length) ∧
      Run.Reproduces .matrix code grid 60 (.quarters litCells.toNat) := by
  rcases always_drawLamps litCells attempts source grid code h with
    ⟨toggles, hdrawn, hlit, rfl, rfl⟩
  have hne : toggles ≠ [] := by
    apply List.ne_nil_of_length_pos
    exact Nat.lt_of_lt_of_le (by decide) hdrawn.least
  have hlamps := isLamps_lampsAfter hdrawn.index
  have hlines := lines_lampCode hne hdrawn.index
  have hcount : litCells.toNat = (lampsAfter toggles).litCells := by
    rw [← hlit, Int.toNat_natCast]
  rw [hlines, hcount]
  refine ⟨hlamps.rows, hlamps.columns, hlit, hdrawn.least, hdrawn.most, ?_,
    reproduces_lampCode hne hdrawn.most hdrawn.index⟩
  exact ⟨_, load_lampCode hne hdrawn.index, Program.length_commandsOf 0 Toggle.action toggles⟩

inductive Lowest
  | lowest

instance : RandomSource Lowest where
  below _ source := (0, source)
  fraction source := (0, source)
  below_lt _ _ h := h
  fraction_lt _ := Nat.pow_pos (by decide)

/-- The top row switched on thirty times. -/
theorem drawLamps_reproduced_lowest :
    exists grid code, (drawLamps 8 1 Lowest.lowest).1 = .ok (grid, code) ∧ grid.litCells = 8 ∧
      Run.Reproduces .matrix code grid 60 (.quarters 8) := by
  have hdrawn : (drawLamps 8 1 Lowest.lowest).1 =
      .ok (lampsAfter (List.replicate 30 ⟨.row, 0, true⟩),
        lampCode (List.replicate 30 ⟨.row, 0, true⟩)) := by rfl
  rcases drawLamps_reproduced hdrawn with ⟨_, _, hlit, _, _, _, hreproduces⟩
  exact ⟨_, _, hdrawn, Int.ofNat_inj.mp hlit, hreproduces⟩

end Goal
end Mosaic
