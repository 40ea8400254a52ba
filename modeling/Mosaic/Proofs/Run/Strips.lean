import Mosaic.Proofs.Run.Refinement

/-!
# Strips on a table

A program of TABLE or GRID declares a table and then paints strips on it.  Where the strips lie can be
told from the program alone, and so can the first of them that has no room on the table.  The strips
in front of it are painted, later ones over earlier ones, and the run fails at it.
-/

namespace Mosaic

/-!
## Places of strips
-/

namespace Primitive

def extent : Primitive -> Nat
  | strip count _ _ _ => count
  | shifted count _ _ _ => count
  | _ => 0

def tone : Primitive -> Cell
  | strip _ color _ _ => some color
  | shifted _ color _ _ => some color
  | _ => none

def down : Primitive -> Int
  | shifted _ _ _ dy => dy
  | _ => 0

def right : Primitive -> Int
  | shifted _ _ dx _ => dx
  | _ => 0

def spare (strip : Primitive) : Nat := strip.extent - 1

def way : Primitive -> Nat
  | shifted count _ dx dy => dx.natAbs + dy.natAbs + (count - 1)
  | _ => 0

end Primitive

abbrev Strips := List Primitive

namespace Strips

def total (measure : Primitive -> Int) (strips : Strips) (count : Nat) : Int :=
  ((strips.take count).map measure).foldr (· + ·) 0

def row (strips : Strips) (index : Nat) : Int :=
  match strips[index]? with
  | some (.strip _ _ row _) => row
  | _ => total Primitive.down strips (index + 1)

def column (strips : Strips) (index : Nat) : Int :=
  match strips[index]? with
  | some (.strip _ _ _ column) => column
  | _ => total Primitive.right strips (index + 1) + total (fun strip => strip.spare) strips index

def extent (strips : Strips) (index : Nat) : Nat := (strips[index]?).elim 0 Primitive.extent

def HasRoom (rows columns : Nat) (strips : Strips) (index : Nat) : Prop :=
  Run.Within (strips.row index) rows ∧ Run.Within (strips.column index) columns ∧
    strips.column index + strips.extent index ≤ columns

instance (rows columns : Nat) (strips : Strips) (index : Nat) :
    Decidable (HasRoom rows columns strips index) :=
  inferInstanceAs (Decidable (_ ∧ _))

def firstOut (rows columns : Nat) (strips : Strips) : Nat :=
  (List.range strips.length).findIdx fun index => !decide (HasRoom rows columns strips index)

def Covers (strips : Strips) (index row column : Nat) : Prop :=
  strips.row index = row ∧ strips.column index ≤ column ∧
    (column : Int) < strips.column index + strips.extent index

instance (strips : Strips) (index row column : Nat) : Decidable (Covers strips index row column) :=
  inferInstanceAs (Decidable (_ ∧ _))

def cell (strips : Strips) (row column : Nat) : Nat -> Cell
  | 0 => none
  | count + 1 =>
      if Covers strips count row column then (strips[count]?).elim none Primitive.tone
      else cell strips row column count

def anchor (strips : Strips) : Nat -> Int × Int
  | 0 => (0, 0)
  | count + 1 =>
      (strips.row count, strips.column count + ((strips.extent count - 1 : Nat) : Int))

def movements (strips : Strips) (count : Nat) : Int := total (fun strip => strip.way) strips count

def complaint (rows columns : Nat) (strips : Strips) (index : Nat) : Cause :=
  if Run.Within (strips.row index) rows then
    if Run.Within (strips.column index) columns then .stripTooLong
    else .columnOutside (strips.column index)
  else .rowOutside (strips.row index)

def Nameless (rows columns : Nat) (strips : Strips) (index : Nat) : Prop :=
  Not (Run.Within (strips.row index) rows) ∧ Not (Text.IsWritable (strips.row index)) ∨
    Run.Within (strips.row index) rows ∧ Not (Run.Within (strips.column index) columns) ∧
      Not (Text.IsWritable (strips.column index))

/-- A program whose first strip that has no room cannot be told from its place. -/
def Stumble (rows columns : Nat) (strips : Strips) : Prop :=
  firstOut rows columns strips < strips.length ∧
    Nameless rows columns strips (firstOut rows columns strips)

structure Of (mode : Mode) (strips : Strips) : Prop where
  sized : mode.declaresSize = true
  allowed : forall strip, strip ∈ strips -> mode.Allows strip
  plain : forall strip, strip ∈ strips -> strip.isDeclaration = false

theorem hasRoom_of_lt_firstOut {rows columns index : Nat} {strips : Strips}
    (h : index < firstOut rows columns strips) : HasRoom rows columns strips index := by
  have hbefore := List.not_of_lt_findIdx h
  simpa using hbefore

theorem firstOut_le (rows columns : Nat) (strips : Strips) :
    firstOut rows columns strips ≤ strips.length := by
  have hrange := @List.findIdx_le_length _
    (fun index => !decide (HasRoom rows columns strips index)) (List.range strips.length)
  rwa [List.length_range] at hrange

theorem not_hasRoom_firstOut {rows columns : Nat} {strips : Strips}
    (h : firstOut rows columns strips < strips.length) :
    Not (HasRoom rows columns strips (firstOut rows columns strips)) := by
  have hfound := @List.findIdx_getElem _
    (fun index => !decide (HasRoom rows columns strips index)) (List.range strips.length)
    (by rw [List.length_range]; exact h)
  rw [List.getElem_range] at hfound
  simp only [Bool.not_eq_true', decide_eq_false_iff_not] at hfound
  exact hfound

theorem extent_of_getElem? {strips : Strips} {index : Nat} {strip : Primitive}
    (h : strips[index]? = some strip) : strips.extent index = strip.extent := by
  unfold extent
  rw [h]
  rfl

theorem foldr_add (values : List Int) (start : Int) :
    values.foldr (· + ·) start = values.foldr (· + ·) 0 + start := by
  induction values with
  | nil => exact (Int.zero_add start).symm
  | cons value rest ih => rw [List.foldr_cons, List.foldr_cons, ih, Int.add_assoc]

theorem total_succ (measure : Primitive -> Int) {strips : Strips} {index : Nat} {strip : Primitive}
    (h : strips[index]? = some strip) :
    total measure strips (index + 1) = total measure strips index + measure strip := by
  unfold total
  rw [List.take_add_one, h, List.map_append, List.foldr_append, foldr_add]
  show _ + (measure strip + 0) = _
  rw [Int.add_zero]

theorem row_of_strip {strips : Strips} {index count row column : Nat} {color : Color}
    (h : strips[index]? = some (.strip count color row column)) : strips.row index = row := by
  unfold Strips.row
  rw [h]

theorem column_of_strip {strips : Strips} {index count row column : Nat} {color : Color}
    (h : strips[index]? = some (.strip count color row column)) :
    strips.column index = column := by
  unfold Strips.column
  rw [h]

theorem row_of_shifted {strips : Strips} {index count : Nat} {color : Color} {dx dy : Int}
    (h : strips[index]? = some (.shifted count color dx dy)) :
    strips.row index = total Primitive.down strips (index + 1) := by
  unfold row
  rw [h]

theorem column_of_shifted {strips : Strips} {index count : Nat} {color : Color} {dx dy : Int}
    (h : strips[index]? = some (.shifted count color dx dy)) :
    strips.column index = total Primitive.right strips (index + 1) +
      total (fun strip => strip.spare) strips index := by
  unfold column
  rw [h]

theorem anchor_of_shifted {strips : Strips}
    (h : forall strip, strip ∈ strips ->
      exists count color dx dy, strip = .shifted count color dx dy)
    {count : Nat} (hcount : count ≤ strips.length) :
    strips.anchor count = (total Primitive.down strips count,
      total Primitive.right strips count + total (fun strip => strip.spare) strips count) := by
  cases count with
  | zero => rfl
  | succ index =>
      rcases h strips[index] (List.getElem_mem hcount) with ⟨size, color, dx, dy, hstrip⟩
      have hgiven : strips[index]? = some (.shifted size color dx dy) := by
        rw [List.getElem?_eq_getElem hcount, hstrip]
      have hextent : strips.extent index = size := extent_of_getElem? hgiven
      rw [anchor, row_of_shifted hgiven, column_of_shifted hgiven, hextent,
        total_succ (fun strip => strip.spare) hgiven, Int.add_assoc]
      rfl

theorem place_of_shifted {strips : Strips}
    (h : forall strip, strip ∈ strips ->
      exists count color dx dy, strip = .shifted count color dx dy)
    {index count : Nat} {color : Color} {dx dy : Int}
    (hstrip : strips[index]? = some (.shifted count color dx dy)) :
    strips.row index = (strips.anchor index).1 + dy ∧
      strips.column index = (strips.anchor index).2 + dx := by
  have hindex := (List.getElem?_eq_some_iff.mp hstrip).choose
  rw [anchor_of_shifted h (Nat.le_of_lt hindex), row_of_shifted hstrip, column_of_shifted hstrip,
    total_succ Primitive.down hstrip, total_succ Primitive.right hstrip]
  refine ⟨rfl, ?_⟩
  show total Primitive.right strips index + dx + _ = total Primitive.right strips index + _ + dx
  omega

theorem Of.cases {mode : Mode} {strips : Strips} (h : Of mode strips) :
    mode = .table ∧ (forall strip, strip ∈ strips ->
        exists (count : Nat) (color : Color) (row column : Nat),
          strip = .strip count color row column) ∨
      mode = .grid ∧ forall strip, strip ∈ strips ->
        exists count color dx dy, strip = .shifted count color dx dy := by
  have hsized := h.sized
  cases hmode : mode with
  | table =>
      refine Or.inl ⟨rfl, fun strip hstrip => ?_⟩
      have hallowed := h.allowed strip hstrip
      have hplain := h.plain strip hstrip
      rw [hmode] at hallowed
      cases strip with
      | strip count color row column => exact ⟨count, color, row, column, rfl⟩
      | declare rows columns => cases hplain
      | _ => simp [Mode.Allows] at hallowed
  | grid =>
      refine Or.inr ⟨rfl, fun strip hstrip => ?_⟩
      have hallowed := h.allowed strip hstrip
      have hplain := h.plain strip hstrip
      rw [hmode] at hallowed
      cases strip with
      | shifted count color dx dy => exact ⟨count, color, dx, dy, rfl⟩
      | declare rows columns => cases hplain
      | _ => simp [Mode.Allows] at hallowed
  | _ =>
      rw [hmode] at hsized
      cases hsized

theorem Of.mode_of_stumble {mode : Mode} {rows columns : Nat} {strips : Strips} (hof : Of mode strips)
    (h : Stumble rows columns strips) : mode = .grid := by
  rcases h with ⟨hfirst, hname⟩
  have hgiven := List.getElem?_eq_getElem hfirst
  have hmem := List.getElem_mem hfirst
  rcases hof.cases with ⟨hmode, hstrips⟩ | ⟨hmode, _⟩
  · rcases hstrips _ hmem with ⟨count, color, row, column, hstrip⟩
    have hallowed := hof.allowed _ hmem
    rw [hstrip] at hgiven hallowed
    rcases hallowed with ⟨_, hrow, hcolumn⟩
    unfold Nameless at hname
    rw [row_of_strip hgiven, column_of_strip hgiven] at hname
    rcases hname with ⟨_, hlong⟩ | ⟨_, _, hlong⟩
    · exact absurd hrow hlong
    · exact absurd hcolumn hlong
  · exact hmode

theorem kind_complaint (rows columns : Nat) (strips : Strips) (index : Nat) :
    (complaint rows columns strips index).kind = .running := by
  unfold complaint
  split
  · split
    · rfl
    · rfl
  · rfl

end Strips

namespace Run

/-!
## One strip
-/

theorem paintStrip_eq {run : Run} {picture : Grid} {rows columns : Nat} (hrows : 0 < rows)
    (hgrid : run.grid = some picture) (hshape : picture.shape = (rows, columns)) (line : Int)
    (count : Nat) (color : Color) (row column : Int) :
    run.paintStrip line count color row column =
      if Within row rows then
        if Within column columns then
          if column + count ≤ columns then done
            { run with
              grid := some (picture.paintStrip row.toNat column.toNat count (some color))
              anchor := (row, column + (count - 1 : Nat)) }
          else run.failed line .stripTooLong
        else run.failedAt line column .columnOutside
      else run.failedAt line row .rowOutside := by
  cases picture with
  | nil =>
      cases hshape
      cases hrows
  | cons first rest =>
      have hheight : rest.length + 1 = rows := congrArg Prod.fst hshape
      have hwidth : first.length = columns := congrArg Prod.snd hshape
      have hrow : (row < 0 || (rest.length : Int) < row) = true ↔ Not (Within row rows) := by
        unfold Within
        simp only [Bool.or_eq_true, decide_eq_true_eq]
        omega
      have hcolumn : (column < 0 || (first.length : Int) ≤ column) = true ↔
          Not (Within column columns) := by
        unfold Within
        simp only [Bool.or_eq_true, decide_eq_true_eq]
        omega
      unfold paintStrip
      rw [hgrid]
      simp only
      split
      · rename_i houtside
        rw [if_neg (hrow.mp houtside)]
      · rename_i hinside
        rw [if_pos (Decidable.not_not.mp (mt hrow.mpr hinside))]
        split
        · rename_i houtside
          rw [if_neg (hcolumn.mp houtside)]
        · rename_i hbeside
          rw [if_pos (Decidable.not_not.mp (mt hcolumn.mpr hbeside))]
          split
          · rw [if_neg (by omega)]
          · rw [if_pos (by omega)]

/-- A run whose table bears the first so many strips, and nothing else. -/
structure Bears (run : Run) (rows columns : Nat) (strips : Strips) (count : Nat) : Prop where
  grid : exists picture, run.grid = some picture ∧ picture.length = rows ∧
    picture.IsRectangular columns ∧
    forall row column, row < rows -> column < columns ->
      picture.cell? row column = some (strips.cell row column count)
  anchor : run.anchor = strips.anchor count
  movements : (run.movements : Int) = strips.movements count

theorem bears_enterLineOf {run : Run} {rows columns count : Nat} {strips : Strips}
    (h : run.Bears rows columns strips count) (command : Command) :
    (run.enterLineOf command).Bears rows columns strips count := by
  unfold enterLineOf
  split
  · exact h
  · exact ⟨h.grid, h.anchor, h.movements⟩

theorem apply_strip {run : Run} {mode : Mode} {strips : Strips} {index : Nat} {strip : Primitive}
    (hof : Strips.Of mode strips) (hstrip : strips[index]? = some strip)
    (hanchor : run.anchor = strips.anchor index) (line : Int) :
    exists color, strip.tone = some color ∧
      run.apply line strip =
        (run.paintStrip line (strips.extent index) color (strips.row index)
          (strips.column index)).andThen fun painted =>
            done { painted with movements := painted.movements + strip.way } := by
  have hmem := List.mem_of_getElem? hstrip
  have hextent := Strips.extent_of_getElem? hstrip
  rcases hof.cases with ⟨_, hgiven⟩ | ⟨_, hshifted⟩
  · rcases hgiven strip hmem with ⟨count, color, row, column, rfl⟩
    refine ⟨color, rfl, ?_⟩
    rw [hextent, Strips.row_of_strip hstrip, Strips.column_of_strip hstrip]
    show run.paintStrip line count color row column =
      (run.paintStrip line count color row column).andThen done
    unfold Carried.andThen done
    split
    · rename_i hfault
      rw [← hfault]
    · rfl
  · rcases hshifted strip hmem with ⟨count, color, dx, dy, rfl⟩
    refine ⟨color, rfl, ?_⟩
    rcases Strips.place_of_shifted hshifted hstrip with ⟨hrow, hcolumn⟩
    rw [hextent, hrow, hcolumn, ← hanchor]
    show run.paintShifted line count color dx dy = _
    unfold paintShifted
    simp only [Primitive.way, Nat.add_assoc]
    rfl

/-- A strip that has room is painted over what is there. -/
theorem bears_apply {run : Run} {mode : Mode} {rows columns index : Nat} {strips : Strips}
    {strip : Primitive} (hrows : 0 < rows) (hof : Strips.Of mode strips)
    (h : run.Bears rows columns strips index) (hstrip : strips[index]? = some strip)
    (hroom : Strips.HasRoom rows columns strips index) (line : Int) :
    (run.apply line strip).fault = none ∧ (run.apply line strip).run.outcome = run.outcome ∧
      (run.apply line strip).run.Bears rows columns strips (index + 1) := by
  rcases apply_strip hof hstrip h.anchor line with ⟨color, htone, happly⟩
  rcases h.grid with ⟨picture, hgrid, hlength, hcolumns, hcells⟩
  rcases hroom with ⟨hrow, hcolumn, hlong⟩
  have hshape := Grid.shape_of_isRectangular hlength hrows hcolumns
  rw [paintStrip_eq hrows hgrid hshape, if_pos hrow, if_pos hcolumn, if_pos hlong] at happly
  rw [happly]
  refine ⟨rfl, rfl, ⟨_, rfl, ?_, ?_, ?_⟩, rfl, ?_⟩
  · rw [Grid.length_paintStrip, hlength]
  · exact isRectangular_modify hcolumns (fun cells => Grid.length_paintRow _ _ _ cells) _
  · intro atRow atColumn hatRow hatColumn
    have hcovers : Strips.Covers strips index atRow atColumn ↔
        (strips.row index).toNat = atRow ∧ (strips.column index).toNat ≤ atColumn ∧
          atColumn < (strips.column index).toNat + strips.extent index := by
      unfold Strips.Covers
      unfold Within at hrow hcolumn
      omega
    rw [Grid.cell?_paintStrip, hcells atRow atColumn hatRow hatColumn, Strips.cell, hstrip]
    simp only [Option.map_some, hcovers, Option.elim_some, htone]
  · show ((run.movements + strip.way : Nat) : Int) = _
    unfold Strips.movements
    rw [Strips.total_succ _ hstrip, Int.natCast_add, h.movements]
    rfl

theorem failedAt_andThen (run : Run) (line number : Int) (cause : Int -> Cause)
    (next : Run -> Carried) :
    (run.failedAt line number cause).andThen next = run.failedAt line number cause := by
  rcases failedAt_eq line number cause with ⟨fault, hfault⟩
  rw [hfault]
  rfl

/-- A strip that has no room leaves all as it is.  What is wrong with it is told if it can be
written. -/
theorem apply_of_not_hasRoom {run : Run} {mode : Mode} {rows columns index : Nat} {strips : Strips}
    {strip : Primitive} (hrows : 0 < rows) (hof : Strips.Of mode strips)
    (h : run.Bears rows columns strips index) (hstrip : strips[index]? = some strip)
    (hroom : Not (Strips.HasRoom rows columns strips index)) (line : Int) :
    (run.apply line strip).run = run ∧
      (Strips.Nameless rows columns strips index ->
        (run.apply line strip).fault = some (.numeral .tooLarge)) ∧
      (Not (Strips.Nameless rows columns strips index) ->
        (run.apply line strip).fault =
          some (.program ⟨line, Strips.complaint rows columns strips index⟩)) := by
  rcases apply_strip hof hstrip h.anchor line with ⟨color, _, happly⟩
  rcases h.grid with ⟨picture, hgrid, hlength, hcolumns, _⟩
  have hshape := Grid.shape_of_isRectangular hlength hrows hcolumns
  rw [paintStrip_eq hrows hgrid hshape] at happly
  unfold Strips.Nameless Strips.complaint
  by_cases hrow : Within (strips.row index) rows
  · by_cases hcolumn : Within (strips.column index) columns
    · rw [if_pos hrow, if_pos hcolumn, if_neg fun hlong => hroom ⟨hrow, hcolumn, hlong⟩] at happly
      rw [happly, if_pos hrow, if_pos hcolumn]
      exact ⟨rfl, by simp [hrow, hcolumn], fun _ => rfl⟩
    · rw [if_pos hrow, if_neg hcolumn, failedAt_andThen] at happly
      rw [happly, if_pos hrow, if_neg hcolumn]
      refine ⟨run_failedAt _ _ _ _, fun hlong => ?_, fun hshort => ?_⟩
      · exact fault_failedAt_of_not_isWritable (by simpa [hrow, hcolumn] using hlong) _ _ _
      · exact fault_failedAt_of_isWritable (by simpa [hrow, hcolumn] using hshort) _ _ _
  · rw [if_neg hrow, failedAt_andThen] at happly
    rw [happly, if_neg hrow]
    refine ⟨run_failedAt _ _ _ _, fun hlong => ?_, fun hshort => ?_⟩
    · exact fault_failedAt_of_not_isWritable (by simpa [hrow] using hlong) _ _ _
    · exact fault_failedAt_of_isWritable (by simpa [hrow] using hshort) _ _ _

end Run
end Mosaic
