import Mosaic.Proofs.Program.Tables
import Mosaic.Proofs.Run.Reproducing
import Mosaic.Proofs.Run.Tables

/-!
# Pictures drawn dot by dot

A picture in the primary colours can be drawn with a strip of one cell for each cell that is lit.  In
TABLE each of these dots is given by its place, and in GRID by its distance from the dot in front of it.
A dot lies on the table wherever the others lie, so no strip has a problem, and since no cell holds
two dots of different colours, the picture is what is left on the table.
-/

namespace Mosaic

structure Dot where
  row : Nat
  column : Nat
  color : Color

namespace Grid

/-!
## The lit cells of a grid
-/

def dotsOfRow (row : Nat) (cells : List Cell) : List Dot :=
  cells.zipIdx.filterMap fun (cell, column) => cell.map fun color => ⟨row, column, color⟩

def dots (grid : Grid) : List Dot := grid.zipIdx.flatMap fun (cells, row) => dotsOfRow row cells

theorem mem_dotsOfRow {row : Nat} {cells : List Cell} {dot : Dot} :
    dot ∈ dotsOfRow row cells ↔ dot.row = row ∧ cells[dot.column]? = some (some dot.color) := by
  unfold dotsOfRow
  rw [List.mem_filterMap]
  constructor
  · intro hgiven
    rcases hgiven with ⟨⟨cell, column⟩, hmem, hdot⟩
    rcases Option.map_eq_some_iff.mp hdot with ⟨color, rfl, rfl⟩
    exact ⟨rfl, List.mem_zipIdx_iff_getElem?.mp hmem⟩
  · intro hgiven
    rcases hgiven with ⟨rfl, hcell⟩
    exact ⟨(some dot.color, dot.column), List.mem_zipIdx_iff_getElem?.mpr hcell, rfl⟩

theorem mem_dots {grid : Grid} {dot : Dot} :
    dot ∈ grid.dots ↔ grid.cell? dot.row dot.column = some (some dot.color) := by
  unfold dots cell?
  rw [List.mem_flatMap]
  constructor
  · intro hgiven
    rcases hgiven with ⟨⟨cells, row⟩, hmem, hdot⟩
    rcases mem_dotsOfRow.mp hdot with ⟨rfl, hcell⟩
    rw [List.mem_zipIdx_iff_getElem?.mp hmem]
    exact hcell
  · intro hgiven
    rcases Option.bind_eq_some_iff.mp hgiven with ⟨cells, hcells, hcell⟩
    exact ⟨(cells, dot.row), List.mem_zipIdx_iff_getElem?.mpr hcells, mem_dotsOfRow.mpr ⟨rfl, hcell⟩⟩

theorem inside_of_cell? {grid : Grid} {columns row column : Nat} {cell : Cell}
    (hcolumns : grid.IsRectangular columns) (h : grid.cell? row column = some cell) :
    row < grid.length ∧ column < columns := by
  rcases Option.bind_eq_some_iff.mp h with ⟨cells, hcells, hcell⟩
  rcases List.getElem?_eq_some_iff.mp hcells with ⟨hrow, rfl⟩
  rcases List.getElem?_eq_some_iff.mp hcell with ⟨hcolumn, _⟩
  rw [hcolumns _ (List.getElem_mem hrow)] at hcolumn
  exact ⟨hrow, hcolumn⟩

theorem ext_of_cell? {grid other : Grid} {columns : Nat} (hlength : grid.length = other.length)
    (hcolumns : grid.IsRectangular columns) (hothers : other.IsRectangular columns)
    (h : forall (row column : Nat) (cell : Cell), other.cell? row column = some cell ->
      grid.cell? row column = some cell) : grid = other := by
  apply List.ext_getElem hlength
  intro row hrow hsame
  have hwidth := hcolumns _ (List.getElem_mem hrow)
  have hbeside := hothers _ (List.getElem_mem hsame)
  apply List.ext_getElem (hwidth.trans hbeside.symm)
  intro column hcolumn hthere
  have hwanted : other.cell? row column = some other[row][column] := by
    unfold cell?
    rw [List.getElem?_eq_getElem hsame]
    exact List.getElem?_eq_getElem hthere
  have hshown := h row column _ hwanted
  unfold cell? at hshown
  rw [List.getElem?_eq_getElem hrow] at hshown
  exact Option.some.inj ((List.getElem?_eq_getElem hcolumn).symm.trans hshown)

end Grid

namespace Dot

/-!
## Strips for dots
-/

def place (dot : Dot) : Int × Int := (dot.row, dot.column)

def strip (dot : Dot) : Primitive := .strip 1 dot.color dot.row dot.column

def shifted (dot : Dot) (anchor : Int × Int) : Primitive :=
  .shifted 1 dot.color (dot.column - anchor.2) (dot.row - anchor.1)

def ways (anchor : Int × Int) : List Dot -> Strips
  | [] => []
  | dot :: rest => dot.shifted anchor :: ways dot.place rest

def strips (mode : Mode) (dots : List Dot) : Strips :=
  if mode = .grid then ways (0, 0) dots else dots.map strip

/-- Strips that put dots on the table, each where it belongs. -/
structure Put (strips : Strips) (dots : List Dot) : Prop where
  length : strips.length = dots.length
  row : forall (index : Nat) (dot : Dot), dots[index]? = some dot -> strips.row index = dot.row
  column : forall (index : Nat) (dot : Dot), dots[index]? = some dot ->
    strips.column index = dot.column
  strip : forall (index : Nat) (dot : Dot), dots[index]? = some dot -> exists strip : Primitive,
    strips[index]? = some strip ∧ strip.extent = 1 ∧ strip.tone = some dot.color

theorem put_places (dots : List Dot) : Put (dots.map strip) dots := by
  have hstrip : forall (index : Nat) (dot : Dot), dots[index]? = some dot ->
      (dots.map strip)[index]? = some dot.strip := by
    intro index dot hdot
    rw [List.getElem?_map, hdot]
    rfl
  constructor
  · exact List.length_map _
  · exact fun index dot hdot => Strips.row_of_strip (hstrip index dot hdot)
  · exact fun index dot hdot => Strips.column_of_strip (hstrip index dot hdot)
  · exact fun index dot hdot => ⟨dot.strip, hstrip index dot hdot, rfl, rfl⟩

theorem total_cons (measure : Primitive -> Int) (strip : Primitive) (rest : Strips) (count : Nat) :
    Strips.total measure (strip :: rest) (count + 1) =
      measure strip + Strips.total measure rest count := rfl

theorem ways_at (anchor : Int × Int) {dots : List Dot} {index : Nat} {dot : Dot}
    (h : dots[index]? = some dot) :
    (exists dx dy, (ways anchor dots)[index]? = some (.shifted 1 dot.color dx dy)) ∧
      Strips.total Primitive.down (ways anchor dots) (index + 1) = dot.row - anchor.1 ∧
      Strips.total Primitive.right (ways anchor dots) (index + 1) = dot.column - anchor.2 ∧
      Strips.total (fun strip => strip.spare) (ways anchor dots) index = 0 := by
  -- for every anchor, since each dot is the anchor of the next: a strip of one cell ends where it begins
  induction dots generalizing anchor index with
  | nil => cases h
  | cons first rest ih =>
      rw [ways, total_cons, total_cons]
      cases index with
      | zero =>
          cases h
          refine ⟨⟨_, _, rfl⟩, ?_, ?_, rfl⟩
          · exact Int.add_zero _
          · exact Int.add_zero _
      | succ index =>
          rcases ih first.place h with ⟨hthere, hdown, hright, hspare⟩
          rw [hdown, hright, total_cons, hspare]
          refine ⟨hthere, ?_, ?_, rfl⟩
          · show (first.row - anchor.1 : Int) + (dot.row - first.row) = _
            omega
          · show (first.column - anchor.2 : Int) + (dot.column - first.column) = _
            omega

theorem length_ways (anchor : Int × Int) (dots : List Dot) :
    (ways anchor dots).length = dots.length := by
  induction dots generalizing anchor with
  | nil => rfl
  | cons dot rest ih => exact congrArg (· + 1) (ih dot.place)

theorem put_ways (dots : List Dot) : Put (ways (0, 0) dots) dots := by
  constructor
  · exact length_ways (0, 0) dots
  · intro index dot hdot
    rcases ways_at (0, 0) hdot with ⟨⟨dx, dy, hstrip⟩, hdown, _, _⟩
    rw [Strips.row_of_shifted hstrip, hdown]
    exact Int.sub_zero _
  · intro index dot hdot
    rcases ways_at (0, 0) hdot with ⟨⟨dx, dy, hstrip⟩, _, hright, hspare⟩
    rw [Strips.column_of_shifted hstrip, hright, hspare, Int.add_zero]
    exact Int.sub_zero _
  · intro index dot hdot
    rcases ways_at (0, 0) hdot with ⟨⟨dx, dy, hstrip⟩, _, _, _⟩
    exact ⟨_, hstrip, rfl, rfl⟩

theorem put_strips (mode : Mode) (dots : List Dot) : Put (strips mode dots) dots := by
  unfold strips
  split
  · exact put_ways dots
  · exact put_places dots

/-!
## The table behind dots
-/

section Table

variable {strips : Strips} {dots : List Dot}

theorem Put.hasRoom (h : Put strips dots) {rows columns index : Nat} {dot : Dot}
    (hdot : dots[index]? = some dot) (hrow : dot.row < rows) (hcolumn : dot.column < columns) :
    Strips.HasRoom rows columns strips index := by
  rcases h.strip index dot hdot with ⟨strip, hstrip, hextent, _⟩
  unfold Strips.HasRoom Run.Within
  rw [h.row index dot hdot, h.column index dot hdot, Strips.extent_of_getElem? hstrip, hextent]
  omega

theorem Put.covers_iff (h : Put strips dots) {index : Nat} {dot : Dot}
    (hdot : dots[index]? = some dot) (row column : Nat) :
    Strips.Covers strips index row column ↔ dot.row = row ∧ dot.column = column := by
  rcases h.strip index dot hdot with ⟨strip, hstrip, hextent, _⟩
  unfold Strips.Covers
  rw [h.row index dot hdot, h.column index dot hdot, Strips.extent_of_getElem? hstrip, hextent]
  omega

theorem Put.cell (h : Put strips dots) (row column : Nat) {count : Nat}
    (hcount : count ≤ dots.length) :
    (exists dot, dot ∈ dots ∧ dot.row = row ∧ dot.column = column ∧
      strips.cell row column count = some dot.color) ∨
      strips.cell row column count = none ∧
        forall (index : Nat) (dot : Dot), index < count -> dots[index]? = some dot ->
          Not (dot.row = row ∧ dot.column = column) := by
  -- the last strip decides if it lies over the cell, and the strips in front of it if it does not
  induction count with
  | zero => exact Or.inr ⟨rfl, fun index dot hindex => absurd hindex (Nat.not_lt_zero index)⟩
  | succ count ih =>
      have hdot := List.getElem?_eq_getElem hcount
      rcases h.strip count _ hdot with ⟨strip, hstrip, _, htone⟩
      have hcovers := h.covers_iff hdot row column
      rw [Strips.cell]
      split
      · rename_i hover
        rcases hcovers.mp hover with ⟨hrow, hcolumn⟩
        refine Or.inl ⟨_, List.getElem_mem hcount, hrow, hcolumn, ?_⟩
        rw [hstrip]
        exact htone
      · rename_i hbeside
        rcases ih (Nat.le_of_succ_le hcount) with hshown | ⟨hnone, hbefore⟩
        · exact Or.inl hshown
        · refine Or.inr ⟨hnone, fun index dot hindex hthere => ?_⟩
          rcases Nat.lt_succ_iff_lt_or_eq.mp hindex with hless | rfl
          · exact hbefore index dot hless hthere
          · cases hdot.symm.trans hthere
            exact mt hcovers.mpr hbeside

/-- Behind all dots of a grid each cell is as it is in the grid. -/
theorem Put.cell_of_grid {grid : Grid} (h : Put strips grid.dots) {row column : Nat} {cell : Cell}
    (hcell : grid.cell? row column = some cell) :
    strips.cell row column grid.dots.length = cell := by
  rcases h.cell row column (Nat.le_refl grid.dots.length) with
    ⟨dot, hdot, rfl, rfl, hshown⟩ | ⟨hnone, hbeside⟩
  · rw [hshown]
    exact Option.some.inj ((Grid.mem_dots.mp hdot).symm.trans hcell)
  · rw [hnone]
    cases cell with
    | none => rfl
    | some color =>
        have hdot : ⟨row, column, color⟩ ∈ grid.dots := Grid.mem_dots.mpr hcell
        rcases List.mem_iff_getElem?.mp hdot with ⟨index, hindex⟩
        have hless := (List.getElem?_eq_some_iff.mp hindex).1
        exact absurd ⟨rfl, rfl⟩ (hbeside index _ hless hindex)

end Table

/-!
## Strips that can be written
-/

structure IsPlain (dot : Dot) : Prop where
  row : dot.row < Program.maxRows
  column : dot.column < Program.maxColumns
  color : dot.color.IsPrimary

theorem natAbs_sub_le {place : Nat} {anchor : Int} (hplace : place < Program.maxRows)
    (hanchor : Run.Within anchor Program.maxRows) :
    (place - anchor : Int).natAbs ≤ Program.maxRows := by
  unfold Run.Within at hanchor
  omega

theorem isWritable_ways {anchor : Int × Int} {dots : List Dot}
    (hdots : forall dot, dot ∈ dots -> dot.IsPlain)
    (hanchor : Run.Within anchor.1 Program.maxRows ∧ Run.Within anchor.2 Program.maxColumns)
    {strip : Primitive} (h : strip ∈ ways anchor dots) :
    strip.IsWritable .grid ∧ strip.isDeclaration = false := by
  induction dots generalizing anchor with
  | nil => cases h
  | cons dot rest ih =>
      have hplain := hdots dot List.mem_cons_self
      rcases List.mem_cons.mp h with rfl | hlater
      · exact ⟨Program.isWritable_shifted hplain.color (by decide)
          (natAbs_sub_le hplain.column hanchor.right) (natAbs_sub_le hplain.row hanchor.left), rfl⟩
      · refine ih (fun other hother => hdots other (List.mem_cons_of_mem dot hother)) ?_ hlater
        exact ⟨⟨Int.natCast_nonneg _, Int.ofNat_lt.mpr hplain.row⟩,
          ⟨Int.natCast_nonneg _, Int.ofNat_lt.mpr hplain.column⟩⟩

theorem isWritable_strips {mode : Mode} (hmode : mode.declaresSize = true) {dots : List Dot}
    (hdots : forall dot, dot ∈ dots -> dot.IsPlain) {strip : Primitive}
    (h : strip ∈ strips mode dots) : strip.IsWritable mode ∧ strip.isDeclaration = false := by
  cases mode with
  | table =>
      rcases List.mem_map.mp h with ⟨dot, hdot, rfl⟩
      have hplain := hdots dot hdot
      exact ⟨Program.isWritable_strip hplain.color (by decide) (Nat.le_of_lt hplain.row)
        (Nat.le_of_lt hplain.column), rfl⟩
  | grid => exact isWritable_ways hdots (by decide) h
  | _ => cases hmode

end Dot

/-!
## Pictures
-/

def Grid.IsPrimary (grid : Grid) : Prop :=
  forall (row column : Nat) (color : Color), grid.cell? row column = some (some color) ->
    color.IsPrimary

structure Grid.IsPicture (grid : Grid) (rows columns : Nat) : Prop where
  length : grid.length = rows
  rectangular : grid.IsRectangular columns
  primary : grid.IsPrimary

/-- A picture of a size in which a table can be declared. -/
def Grid.IsPaintable (grid : Grid) : Prop :=
  exists rows columns, Program.Declarable rows columns ∧ grid.IsPicture rows columns

theorem Grid.IsPicture.inside {grid : Grid} {rows columns : Nat} (h : grid.IsPicture rows columns)
    {dot : Dot} (hdot : dot ∈ grid.dots) : dot.row < rows ∧ dot.column < columns := by
  rcases Grid.inside_of_cell? h.rectangular (Grid.mem_dots.mp hdot) with ⟨hrow, hcolumn⟩
  exact ⟨h.length ▸ hrow, hcolumn⟩

theorem Grid.IsPicture.isPlain {grid : Grid} {rows columns : Nat} (h : grid.IsPicture rows columns)
    (hsize : Program.Declarable rows columns) {dot : Dot} (hdot : dot ∈ grid.dots) :
    dot.IsPlain := by
  rcases h.inside hdot with ⟨hrow, hcolumn⟩
  exact ⟨Nat.lt_of_lt_of_le hrow hsize.height, Nat.lt_of_lt_of_le hcolumn hsize.width,
    h.primary _ _ _ (Grid.mem_dots.mp hdot)⟩

namespace Run

theorem carryOut_declare {run : Run} {rows columns : Nat} (htall : 1 ≤ rows) (hwide : 1 ≤ columns)
    (hidle : run.outcome = .idle) (hmovements : run.movements = 0) (strips : Strips) (index : Nat)
    (line : Int) (rest : List Command) :
    exists declared, carryOut index run (⟨line, .declare rows columns⟩ :: rest) =
        carryOut (index + 1) declared rest ∧
      declared.Bears rows columns strips 0 ∧ declared.outcome = .idle := by
  have hdeclared : (run.enterLineOf ⟨line, .declare rows columns⟩).applyCommand
      ⟨line, .declare rows columns⟩ = done { run.enterLineOf ⟨line, .declare rows columns⟩ with
        grid := some (Grid.blank rows columns), anchor := (0, 0) } :=
    declared_eq_done _ htall hwide
  have hentered : (run.enterLineOf ⟨line, .declare rows columns⟩).outcome = .idle :=
    (frame_enterLineOf run _).2.2.2.2.1.trans hidle
  have hcost : (run.enterLineOf ⟨line, .declare rows columns⟩).movements = 0 := by
    unfold enterLineOf
    split
    · exact hmovements
    · exact hmovements
  refine ⟨_, carryOut_cons_of_none rest ?_ ?_, ?_, ?_⟩
  · rw [hdeclared]
    rfl
  · rw [hdeclared]
    exact hentered
  · rw [hdeclared]
    exact bears_blank strips rfl rfl hcost
  · rw [hdeclared]
    exact hentered

theorem carryOut_dots {mode : Mode} {grid : Grid} {rows columns : Nat} {strips : Strips}
    (h : grid.IsPicture rows columns) (hsize : Program.Declarable rows columns)
    (hput : Dot.Put strips grid.dots)
    (hprogram : Program.load mode (Program.tableText rows columns strips) =
      .ok (Program.tableProgram mode rows columns strips)) :
    exists final, carryOut 0 (Program.tableProgram mode rows columns strips).blankRun
        (Program.tableProgram mode rows columns strips).commands = .ok (final, .complete) ∧
      final.grid = some grid := by
  have hcommands : (Program.tableProgram mode rows columns strips).commands =
      ⟨0, .declare rows columns⟩ ::
        Program.commandsOf 1 (strips.map fun strip => [strip]) := rfl
  have hof := (tabled_of_commands (Program.load_wellFormed hprogram) hcommands).strips
  have hactions := Program.actions_commandsOf 1 strips
  have hcount : (Program.commandsOf 1 (strips.map fun strip => [strip])).length =
      grid.dots.length := (Program.length_commandsOf 1 id strips).trans hput.length
  rw [hcommands]
  generalize Program.commandsOf 1 (strips.map fun strip => [strip]) = paints at *
  rcases @carryOut_declare (Program.tableProgram mode rows columns strips).blankRun rows columns
    hsize.tall hsize.wide rfl rfl strips 0 0 paints with ⟨declared, hdeclared, hbears, hidle⟩
  have hroom : forall place, place < paints.length -> Strips.HasRoom rows columns strips place := by
    intro place hplace
    rw [hcount] at hplace
    rcases h.inside (List.getElem_mem hplace) with ⟨hrow, hcolumn⟩
    exact hput.hasRoom (List.getElem?_eq_getElem hplace) hrow hcolumn
  rw [← hactions] at hbears hroom
  rcases carryOut_strips hsize.tall hof hbears hidle 1 (Nat.le_refl paints.length) hroom with
    ⟨final, hfinal, hend⟩
  rw [hactions, hcount] at hend
  rw [List.take_length] at hfinal
  rcases hend.grid with ⟨picture, hpicture, hlength, hcolumns, hcells⟩
  refine ⟨final, ?_, ?_⟩
  · rw [hdeclared]
    exact hfinal
  · rw [hpicture, Grid.ext_of_cell? (hlength.trans h.length.symm) hcolumns h.rectangular]
    intro row column cell hcell
    rcases Grid.inside_of_cell? h.rectangular hcell with ⟨hrow, hcolumn⟩
    rw [hcells row column (h.length ▸ hrow) hcolumn, hput.cell_of_grid hcell]

/-- The text that gives the size of a picture and then its dots draws the picture. -/
theorem draws_dots {mode : Mode} (hmode : mode.declaresSize = true) {grid : Grid}
    {rows columns : Nat} (h : grid.IsPicture rows columns)
    (hsize : Program.Declarable rows columns) :
    Draws mode (Program.tableText rows columns (Dot.strips mode grid.dots)) grid
      (grid.dots.length + 1) := by
  have hput := Dot.put_strips mode grid.dots
  have hload := Program.load_tableText hmode hsize fun strip hstrip =>
    Dot.isWritable_strips hmode (fun dot hdot => h.isPlain hsize hdot) hstrip
  rcases carryOut_dots h hsize hput hload with ⟨final, hfinal, hgrid⟩
  have hlines : (Program.tableProgram mode rows columns
      (Dot.strips mode grid.dots)).lineCount ≤ grid.dots.length + 1 := by
    have hbound := Program.length_lines_commandsOf 0
      ([.declare rows columns] :: (Dot.strips mode grid.dots).map fun strip => [strip])
    rwa [List.length_cons, List.length_map, hput.length] at hbound
  exact (@draws_of_complete (Program.tableProgram mode rows columns (Dot.strips mode grid.dots))
    _ _ _ (grid.dots.length + 1) hload (Mode.ne_maze_of_declaresSize hmode) (List.cons_ne_nil _ _)
    (by omega) hfinal hgrid).right

/-- A grid that a text draws in a mode: with enough steps every run for the grid ends without a
problem and with success, shows the grid and has its full score. -/
def CanBeDrawn (mode : Mode) (grid : Grid) : Prop :=
  exists (source : String) (steps : Int), forall (run : Run) (maxSteps : Int), run.mode = mode ->
    run.target = some grid -> steps ≤ maxSteps -> exists loaded halted,
      run.load source false = .ok loaded ∧ loaded.error = none ∧
      loaded.runToHalt maxSteps = .ok halted ∧ halted.error = none ∧
      halted.outcome = .success ∧ halted.grid = some grid ∧
      Score.ofRun halted = Score.bestOfRun halted

theorem canBeDrawn_of_isPaintable {mode : Mode} (hmode : mode.declaresSize = true) {grid : Grid}
    (h : grid.IsPaintable) : CanBeDrawn mode grid := by
  rcases h with ⟨rows, columns, hsize, hpicture⟩
  refine ⟨Program.tableText rows columns (Dot.strips mode grid.dots), grid.dots.length + 1, ?_⟩
  intro run maxSteps hrun htarget hsteps
  rcases draws_dots hmode hpicture hsize run maxSteps hrun htarget hsteps with
    ⟨loaded, halted, hload, haccepted, hhalted, herror, houtcome, hreached⟩
  have hne : grid ≠ [] := by
    intro hnil
    have htall := hsize.tall
    rw [← hpicture.length, hnil] at htall
    cases htall
  exact ⟨loaded, halted, hload, haccepted, hhalted, herror, houtcome, hreached.grid,
    Score.ofRun_table hmode hreached hne⟩

end Run
end Mosaic
