import Mathlib.Data.List.Induction
import Mosaic.Proofs.Goal.Lamps

/-!
# Lamp programs

A program of MATRIX that can be loaded runs to its end without a problem.  Switches of rows and
columns lie over each other, and the last one that addresses a lamp decides about it.
-/

namespace Mosaic

namespace Primitive

def Addresses (row column : Nat) : Primitive -> Prop
  | switch _ .row index => index = row
  | switch _ .column index => index = column
  | _ => False

def switchesOn : Primitive -> Bool
  | switch on _ _ => on
  | _ => false

end Primitive

/-- A lamp that commands leave lit: one of them addresses it, and the last one that does switches it
on. -/
def Run.Lights (commands : List Command) (row column : Nat) : Prop :=
  exists before command after, commands = before ++ command :: after ∧
    command.action.Addresses row column ∧ command.action.switchesOn = true ∧
    forall later, later ∈ after -> Not (later.action.Addresses row column)

/-!
## One switch
-/

namespace Grid

theorem cell?_paintWholeRow (grid : Grid) (row : Nat) (value : Cell) (atRow atColumn : Nat) :
    (grid.paintWholeRow row value).cell? atRow atColumn =
      (grid.cell? atRow atColumn).map fun cell => if row = atRow then value else cell := by
  unfold cell? paintWholeRow
  rw [List.getElem?_modify]
  cases grid[atRow]? with
  | none => rfl
  | some cells =>
      by_cases hrow : row = atRow
      · simp only [hrow, if_true]
        exact List.getElem?_map
      · simp [hrow]

theorem cell?_paintColumn {grid : Grid} {columns column : Nat} (hcolumn : column < columns)
    (h : grid.IsRectangular columns) (value : Cell) (atRow atColumn : Nat) :
    (grid.paintColumn column value).1.cell? atRow atColumn =
      (grid.cell? atRow atColumn).map fun cell => if column = atColumn then value else cell := by
  have hrows : (grid.paintColumn column value).1 = grid.map fun cells => cells.set column value := by
    induction grid with
    | nil => rfl
    | cons cells rest ih =>
        have hcells := h cells (by simp)
        rw [paintColumn, if_pos (by omega)]
        exact congrArg (cells.set column value :: ·)
          (ih fun other hother => h other (List.mem_cons_of_mem cells hother))
  unfold cell?
  rw [hrows, List.getElem?_map]
  cases hcells : grid[atRow]? with
  | none => rfl
  | some cells =>
      have hlength := h cells (List.mem_of_getElem? hcells)
      show (cells.set column value)[atColumn]? = (cells[atColumn]?).map _
      rw [List.getElem?_set]
      by_cases hsame : column = atColumn
      · rw [if_pos hsame, if_pos (by omega), ← hsame, List.getElem?_eq_getElem (by omega)]
        simp
      · simp [hsame]

end Grid

namespace Goal

theorem Toggle.exists_of_allows {action : Primitive} (h : Mode.matrix.Allows action) :
    exists toggle : Toggle, toggle.index < 8 ∧ toggle.action = action := by
  cases action with
  | switch on axis index => exact ⟨⟨axis, index, on⟩, h.right, rfl⟩
  | declare rows columns => cases h.left
  | strip count color row column => cases h.left
  | shifted count color dx dy => cases h.left
  | turn quarters => cases h.left
  | advance steps => cases h
  | paint color => cases h
  | erase => cases h

theorem Toggle.cell?_apply (toggle : Toggle) (h : toggle.index < 8) {grid : Grid}
    (hgrid : IsLamps grid) (row column : Nat) :
    (toggle.action.Addresses row column -> (toggle.apply grid).cell? row column =
      (grid.cell? row column).map fun _ => if toggle.on then some .white else none) ∧
    (Not (toggle.action.Addresses row column) ->
      (toggle.apply grid).cell? row column = grid.cell? row column) := by
  rcases toggle with ⟨axis, index, on⟩
  cases axis with
  | row =>
      show (index = row -> (grid.paintWholeRow index _).cell? row column = _) ∧
        (Not (index = row) -> (grid.paintWholeRow index _).cell? row column = _)
      rw [Grid.cell?_paintWholeRow]
      constructor
      · intro hrow
        simp [hrow]
      · intro hrow
        simp [hrow]
  | column =>
      show (index = column -> (grid.paintColumn index _).1.cell? row column = _) ∧
        (Not (index = column) -> (grid.paintColumn index _).1.cell? row column = _)
      rw [Grid.cell?_paintColumn h hgrid.columns]
      constructor
      · intro hcolumn
        simp [hcolumn]
      · intro hcolumn
        simp [hcolumn]

end Goal

namespace Run

/-!
## Switches in a row
-/

theorem not_lights_nil (row column : Nat) : Not (Lights [] row column) := by
  intro h
  rcases h with ⟨before, command, after, happend, _⟩
  simp at happend

theorem split_concat {commands before after : List Command} {command decisive : Command}
    (h : commands ++ [command] = before ++ decisive :: after) :
    (commands = before ∧ command = decisive ∧ after = []) ∨
      exists others, after = others ++ [command] ∧ commands = before ++ decisive :: others := by
  rcases List.eq_nil_or_concat after with rfl | ⟨others, last, rfl⟩
  · rcases List.append_inj' h rfl with ⟨hcommands, hlast⟩
    cases hlast
    exact Or.inl ⟨hcommands, rfl, rfl⟩
  · rw [List.concat_eq_append, ← List.cons_append, ← List.append_assoc] at h
    rcases List.append_inj' h rfl with ⟨hcommands, hlast⟩
    cases hlast
    exact Or.inr ⟨others, List.concat_eq_append, hcommands⟩

theorem lights_concat_of_addresses {commands : List Command} {command : Command} {row column : Nat}
    (h : command.action.Addresses row column) :
    Lights (commands ++ [command]) row column ↔ command.action.switchesOn = true := by
  constructor
  · intro hlights
    rcases hlights with ⟨before, decisive, after, happend, _, hon, hafter⟩
    rcases split_concat happend with ⟨_, rfl, _⟩ | ⟨others, rfl, _⟩
    · exact hon
    · exact absurd h (hafter command (by simp))
  · intro hon
    exact ⟨commands, command, [], rfl, h, hon, nofun⟩

theorem lights_concat_of_not_addresses {commands : List Command} {command : Command}
    {row column : Nat} (h : Not (command.action.Addresses row column)) :
    Lights (commands ++ [command]) row column ↔ Lights commands row column := by
  constructor
  · intro hlights
    rcases hlights with ⟨before, decisive, after, happend, haddresses, hon, hafter⟩
    rcases split_concat happend with ⟨_, rfl, _⟩ | ⟨others, rfl, hcommands⟩
    · exact absurd haddresses h
    · exact ⟨before, decisive, others, hcommands, haddresses, hon,
        fun later hlater => hafter later (by simp [hlater])⟩
  · intro hlights
    rcases hlights with ⟨before, decisive, others, rfl, haddresses, hon, hothers⟩
    refine ⟨before, decisive, others ++ [command], by simp, haddresses, hon, ?_⟩
    intro later hlater
    rcases List.mem_append.mp hlater with hother | hlast
    · exact hothers later hother
    · rwa [List.mem_singleton.mp hlast]

/-- Behind switches, each lamp shows what the last one that addresses it has left. -/
theorem cell?_lampsAfter {toggles : List Goal.Toggle}
    (h : forall toggle, toggle ∈ toggles -> toggle.index < 8) {commands : List Command}
    (hcommands : commands.map Command.action = toggles.map Goal.Toggle.action) {row column : Nat}
    (hrow : row < 8) (hcolumn : column < 8) :
    (Lights commands row column ->
      (Goal.lampsAfter toggles).cell? row column = some (some .white)) ∧
    (Not (Lights commands row column) ->
      (Goal.lampsAfter toggles).cell? row column = some none) := by
  -- the last switch is looked at first, since only the switches in front of it can be covered
  induction toggles using List.reverseRecOn generalizing commands with
  | nil =>
      rw [List.map_nil, List.map_eq_nil_iff] at hcommands
      rw [hcommands]
      exact ⟨fun hlights => absurd hlights (not_lights_nil row column),
        fun _ => Grid.cell?_blank hrow hcolumn⟩
  | append_singleton front toggle ih =>
      rw [List.map_append, List.map_eq_append_iff] at hcommands
      rcases hcommands with ⟨others, last, rfl, hothers, hlast⟩
      rcases List.map_eq_singleton_iff.mp hlast with ⟨command, rfl, haction⟩
      have hfront : forall other, other ∈ front -> other.index < 8 :=
        fun other hother => h other (by simp [hother])
      have hbefore := ih hfront hothers
      have happly : Goal.lampsAfter (front ++ [toggle]) = toggle.apply (Goal.lampsAfter front) := by
        unfold Goal.lampsAfter
        rw [List.foldl_append]
        rfl
      rcases toggle.cell?_apply (h toggle (by simp)) (Goal.isLamps_lampsAfter hfront) row column with
        ⟨hdecides, hleaves⟩
      rw [← haction] at hdecides hleaves
      rw [happly]
      by_cases haddresses : command.action.Addresses row column
      · have hcell : exists cell, (Goal.lampsAfter front).cell? row column = some cell := by
          by_cases hlights : Lights others row column
          · exact ⟨_, hbefore.left hlights⟩
          · exact ⟨_, hbefore.right hlights⟩
        rcases hcell with ⟨cell, hcell⟩
        have hon : command.action.switchesOn = toggle.on := by rw [haction]; rfl
        rw [hdecides haddresses, hcell, lights_concat_of_addresses haddresses, hon]
        constructor
        · intro hlit
          rw [hlit]
          rfl
        · intro hdark
          rw [Bool.not_eq_true] at hdark
          rw [hdark]
          rfl
      · rwa [hleaves haddresses, lights_concat_of_not_addresses haddresses]

/-!
## Loaded programs
-/

theorem exists_toggles {program : Program} (hwell : program.WellFormed)
    (hmode : program.mode = .matrix) :
    exists toggles : List Goal.Toggle, (forall toggle, toggle ∈ toggles -> toggle.index < 8) ∧
      program.commands.map Command.action = toggles.map Goal.Toggle.action := by
  have hallowed := hwell.allowed
  rw [hmode] at hallowed
  generalize program.commands = commands at hallowed
  induction commands with
  | nil => exact ⟨[], nofun, rfl⟩
  | cons command rest ih =>
      rcases ih fun other hother => hallowed other (List.mem_cons_of_mem command hother) with
        ⟨toggles, htoggles, hrest⟩
      rcases Goal.Toggle.exists_of_allows (hallowed command List.mem_cons_self) with
        ⟨toggle, htoggle, haction⟩
      refine ⟨toggle :: toggles, List.forall_mem_cons.mpr ⟨htoggle, htoggles⟩, ?_⟩
      rw [List.map_cons, List.map_cons, hrest, haction]

theorem carryOut_lamps {run : Run} {program : Program} (hwell : program.WellFormed)
    (hmode : program.mode = .matrix) (h : AtStart program program.commands run) :
    exists final picture, carryOut 0 run program.commands = .ok (final, .complete) ∧
      final.grid = some picture ∧ Goal.IsLamps picture ∧
      forall row column, row < 8 -> column < 8 ->
        (Lights program.commands row column -> picture.cell? row column = some (some .white)) ∧
        (Not (Lights program.commands row column) -> picture.cell? row column = some none) := by
  rcases exists_toggles hwell hmode with ⟨toggles, htoggles, hcommands⟩
  have hblank : run.grid = some (Grid.blank Goal.lampSize Goal.lampSize) := by
    rw [h.grid, hwell.fixed (by rw [hmode]; rfl), hmode]
    rfl
  rcases Goal.carryOut_toggles htoggles hcommands hblank Goal.isLamps_blank h.outcome 0 with
    ⟨final, hfinal, hgrid⟩
  exact ⟨final, Goal.lampsAfter toggles, hfinal, hgrid, Goal.isLamps_lampsAfter htoggles,
    fun row column hrow hcolumn => cell?_lampsAfter htoggles hcommands hrow hcolumn⟩

/-- A lamp program runs to its end without a problem, and a lamp is lit then exactly if the last
command that addresses it switches it on. -/
theorem runToHalt_lamps {run : Run} {source : String} {program : Program} (asTarget : Bool)
    {maxSteps : Int} (hmode : run.mode = .matrix)
    (hprogram : Program.load run.mode source = .ok program) (hpositive : 1 ≤ maxSteps)
    (hsteps : (program.commands.length : Int) ≤ maxSteps) :
    exists loaded halted picture,
      run.load source asTarget = .ok loaded ∧ loaded.runToHalt maxSteps = .ok halted ∧
        halted.error = none ∧ halted.counter = program.commands.length ∧
        halted.grid = some picture ∧ picture.length = 8 ∧ picture.IsRectangular 8 ∧
        forall row column, row < 8 -> column < 8 ->
          (Lights program.commands row column -> picture.cell? row column = some (some .white)) ∧
          (Not (Lights program.commands row column) -> picture.cell? row column = some none) := by
  have hwell := Program.load_wellFormed hprogram
  have hlamps : program.mode = .matrix := (Program.load_eq_ok hprogram).left.trans hmode
  rcases carryOut_lamps hwell hlamps (atStart_blankRun program) with ⟨drawn, _, hdrawn, _⟩
  rcases exists_load_of_complete hprogram (by simp [hmode]) ⟨drawn, hdrawn⟩ asTarget with
    ⟨loaded, hload⟩
  have hstart := atStart_of_load hprogram hload
  rcases carryOut_lamps hwell hlamps hstart with ⟨final, picture, hfinal, hgrid, hsize, hcells⟩
  have hlines := length_linesOf_le program.commands
  rcases runToHalt_of_complete (ready_of_load hprogram hload) hstart.counter (by omega)
    (by omega : ((linesOf program.commands).length : Int) ≤ maxSteps) hfinal with
    ⟨halted, hhalted, herror, hcounter, hend⟩
  exact ⟨loaded, halted, picture, hload, hhalted, herror, hcounter, hend.trans hgrid, hsize.rows,
    hsize.columns, hcells⟩

theorem load_crossing : Program.load .matrix "+ 1\n- A\n+ 3" =
    .ok ⟨.matrix, "+ 1\n- A\n+ 3",
      [⟨0, .switch true .row 0⟩, ⟨1, .switch false .column 0⟩, ⟨2, .switch true .row 2⟩],
      some (8, 8)⟩ := by
  have hcode : Goal.lampCode [⟨.row, 0, true⟩, ⟨.column, 0, false⟩, ⟨.row, 2, true⟩] =
      "+ 1\n- A\n+ 3" := by decide
  rw [← hcode]
  exact Goal.load_lampCode (by simp) (by decide)

/-- A column is switched off across two rows, and one of them is switched on again. -/
theorem runToHalt_lamps_crossing :
    exists loaded halted picture,
      (start .matrix none).load "+ 1\n- A\n+ 3" false = .ok loaded ∧
        loaded.runToHalt 3 = .ok halted ∧ halted.error = none ∧ halted.counter = 3 ∧
        halted.grid = some picture ∧ picture.cell? 0 0 = some none ∧
        picture.cell? 0 7 = some (some .white) ∧ picture.cell? 2 0 = some (some .white) := by
  have hprogram : Program.load (start .matrix none).mode "+ 1\n- A\n+ 3" = _ := load_crossing
  rcases runToHalt_lamps false rfl hprogram (by decide) (Int.le_refl 3) with
    ⟨loaded, halted, picture, hload, hhalted, herror, hcounter, hgrid, _, _, hcells⟩
  refine ⟨loaded, halted, picture, hload, hhalted, herror, hcounter, hgrid, ?_, ?_, ?_⟩
  · apply (hcells 0 0 (by decide) (by decide)).right
    have hother : Not ((Primitive.switch true .row 2).Addresses 0 0) := nofun
    have hown : (Primitive.switch false .column 0).Addresses 0 0 := rfl
    show Not (Lights ([⟨0, .switch true .row 0⟩, ⟨1, .switch false .column 0⟩] ++
      [⟨2, .switch true .row 2⟩]) 0 0)
    rw [lights_concat_of_not_addresses hother]
    show Not (Lights ([⟨0, .switch true .row 0⟩] ++ [⟨1, .switch false .column 0⟩]) 0 0)
    rw [lights_concat_of_addresses hown]
    nofun
  · apply (hcells 0 7 (by decide) (by decide)).left
    refine ⟨[], _, _, rfl, rfl, rfl, ?_⟩
    rw [List.forall_mem_cons, List.forall_mem_singleton]
    exact ⟨nofun, nofun⟩
  · apply (hcells 2 0 (by decide) (by decide)).left
    exact ⟨[_, _], _, [], rfl, rfl, rfl, nofun⟩

end Run
end Mosaic
