import Mathlib.Data.List.Forall2
import Mosaic.Proofs.Measuring
import Mosaic.Proofs.Text.Letters

/-!
# Grids in documents

A value describes a grid if it is the list of its rows, and each row the list of its cells.  A cell may
be described in more than one way; when a grid is written, each cell is written in one.

Exactly the values that describe a grid with a row, and with rows of one width, are read, and each of
them gives the grid that it describes.  Any other value is refused for the first thing in it that is
out of order.  Reading leaves what is written as it is, and the measures of grids fail on nothing that
was read.
-/

namespace Mosaic

/-!
## Values that belong together one by one
-/

namespace Attempts

theorem mapM_eq_ok_iff {ε α β : Type} {attempt : α -> Except ε β} {items : List α}
    {results : List β} :
    items.mapM attempt = .ok results ↔
      List.Forall₂ (fun item result => attempt item = .ok result) items results := by
  induction items generalizing results with
  | nil => rw [List.forall₂_nil_left_iff, List.mapM_nil, pure_eq_ok_iff, eq_comm]
  | cons item rest ih =>
      rw [List.forall₂_cons_left_iff, List.mapM_cons, bind_eq_ok_iff]
      simp only [bind_eq_ok_iff, pure_eq_ok_iff, ih]
      constructor
      · rintro ⟨first, hfirst, others, hothers, rfl⟩
        exact ⟨first, others, hfirst, hothers, rfl⟩
      · rintro ⟨first, others, hfirst, hothers, rfl⟩
        exact ⟨first, hfirst, others, hothers, rfl⟩

theorem forall₂_and_right {α β : Type} {related : α -> β -> Prop} {P : β -> Prop} {items : List α}
    {results : List β} :
    List.Forall₂ (fun item result => related item result ∧ P result) items results ↔
      List.Forall₂ related items results ∧ forall result, result ∈ results -> P result := by
  constructor
  · intro h
    induction h with
    | nil => exact ⟨.nil, nofun⟩
    | cons hfirst _ ih =>
        exact ⟨.cons hfirst.left ih.left, List.forall_mem_cons.mpr ⟨hfirst.right, ih.right⟩⟩
  · rintro ⟨h, hall⟩
    induction h with
    | nil => exact .nil
    | cons hfirst _ ih =>
        rcases List.forall_mem_cons.mp hall with ⟨hthis, hrest⟩
        exact .cons ⟨hfirst, hthis⟩ (ih hrest)

end Attempts

/-!
## Descriptions
-/

namespace Document

/-- A value that describes a cell: null and the empty text describe an unlit one, and a text whose
capital form is the letter of a colour describes one that is lit in it. -/
inductive DescribesCell : Document -> Cell -> Prop
  | null : DescribesCell .null none
  | empty : DescribesCell (.text "") none
  | letter {letters : String} {color : Color}
      (capital : Text.capitals letters.toList = [color.letter]) :
      DescribesCell (.text letters) (some color)

def DescribesRow (value : Document) (row : List Cell) : Prop :=
  exists cells, value = .list cells ∧ List.Forall₂ DescribesCell cells row

def DescribesGrid (value : Document) (grid : Grid) : Prop :=
  exists rows, value = .list rows ∧ List.Forall₂ DescribesRow rows grid

def IsCell (value : Document) : Prop := exists cell, value.DescribesCell cell

def IsWrittenCell (value : Document) : Prop :=
  value = .null ∨ exists color : Color, value = .text color.letter.toString

def IsRowOf (P : Document -> Prop) (width : Nat) (value : Document) : Prop :=
  exists cells, value = .list cells ∧ cells.length = width ∧ forall cell, cell ∈ cells -> P cell

/-- A list of rows of one width, and of one row at least. -/
def IsTableOf (P : Document -> Prop) (value : Document) : Prop :=
  exists rows width, value = .list rows ∧ rows ≠ [] ∧ forall row, row ∈ rows -> row.IsRowOf P width

/-!
What is wrong with a value that is no row of cells, or no grid, shows at the first place that is out of
order.  Whether the cells of a row are in order counts before its width does.
-/

inductive RefusedAsRow : Document -> GridFault -> Prop
  | notList {value : Document} (h : forall cells, value ≠ .list cells) :
      RefusedAsRow value .rowNotList
  | cell {before after : List Document} {cell : Document}
      (hbefore : forall other, other ∈ before -> other.IsCell) (h : Not cell.IsCell) :
      RefusedAsRow (.list (before ++ cell :: after)) (.unknownColor cell.shown)

inductive RefusedAsGrid : Document -> GridFault -> Prop
  | notRows {value : Document} (h : forall first rest, value ≠ .list (first :: rest)) :
      RefusedAsGrid value .notRows
  | first {first : Document} {rest : List Document} {cause : GridFault}
      (h : first.RefusedAsRow cause) : RefusedAsGrid (.list (first :: rest)) cause
  | later {first row : Document} {before after : List Document} {width : Nat} {cause : GridFault}
      (hbefore : forall other, other ∈ first :: before -> other.IsRowOf IsCell width)
      (h : row.RefusedAsRow cause) : RefusedAsGrid (.list (first :: (before ++ row :: after))) cause
  | width {first row : Document} {before after : List Document} {width other : Nat}
      (hbefore : forall other, other ∈ first :: before -> other.IsRowOf IsCell width)
      (hrow : row.IsRowOf IsCell other) (h : other ≠ width) :
      RefusedAsGrid (.list (first :: (before ++ row :: after))) .unequalRows

end Document

/-!
## Cells
-/

namespace Color

theorem ofLetter?_eq_some_iff {c : Char} {color : Color} :
    ofLetter? c = some color ↔ c = color.letter := by
  constructor
  · intro h
    unfold ofLetter? at h
    split at h <;> cases h <;> rfl
  · rintro rfl
    exact ofLetter?_letter color

theorem ofText?_eq_some_iff {cs : List Char} {color : Color} :
    ofText? cs = some color ↔ cs = [color.letter] := by
  constructor
  · intro h
    unfold ofText? at h
    split at h
    · rw [ofLetter?_eq_some_iff.mp h]
    · cases h
  · rintro rfl
    exact ofLetter?_letter color

theorem toUpper_letter (color : Color) : color.letter.toUpper = color.letter := by
  cases color <;> rfl

theorem toList_letter (color : Color) : color.letter.toString.toList = [color.letter] :=
  String.toList_singleton color.letter

theorem letter_injective {color other : Color} (h : color.letter = other.letter) : color = other := by
  have hread := ofLetter?_letter color
  rw [h, ofLetter?_letter other] at hread
  exact (Option.some.inj hread).symm

theorem capitals_eq_letter_iff {cs : List Char} {color : Color} :
    Text.capitals cs = [color.letter] ↔ exists c, cs = [c] ∧ Text.SameLetter color.letter c := by
  unfold Text.SameLetter
  rw [toUpper_letter]
  refine Text.capitals_eq_singleton_iff ?_ ?_
  · cases color <;> decide
  · cases color <;> decide

end Color

namespace Cell

theorem code_le (cell : Cell) : cell.code ≤ 7 := by
  cases cell with
  | none => exact Nat.zero_le 7
  | some color => cases color <;> decide

theorem ofDocument_eq_ok_iff {value : Document} {cell : Cell} :
    ofDocument value = .ok cell ↔ value.DescribesCell cell := by
  constructor
  · intro h
    unfold ofDocument at h
    split at h
    · cases h
      exact .null
    · cases h
      exact .empty
    · split at h
      · rename_i color hcolor
        cases h
        exact .letter (Color.ofText?_eq_some_iff.mp hcolor)
      · cases h
    · cases h
  · intro h
    cases h with
    | null => rfl
    | empty => rfl
    | @letter letters color capital =>
        unfold ofDocument
        split
        · rename_i hnull
          cases hnull
        · rename_i hempty
          cases hempty
          cases capital
        · rename_i hletters
          cases hletters
          rw [Color.ofText?_eq_some_iff.mpr capital]
        · rename_i hother
          exact absurd rfl (hother letters)

/-- A cell is refused with the value that stands in its place. -/
theorem ofDocument_eq_error_iff {value : Document} {fault : Fault} :
    ofDocument value = .error fault ↔
      Not value.IsCell ∧ fault = .grid (.unknownColor value.shown) := by
  have hfault : forall fault, ofDocument value = .error fault ->
      fault = .grid (.unknownColor value.shown) := by
    intro fault h
    unfold ofDocument at h
    split at h
    · cases h
    · cases h
    · split at h
      · cases h
      · cases h
        rfl
    · cases h
      rfl
  constructor
  · intro h
    refine ⟨?_, hfault fault h⟩
    rintro ⟨cell, hcell⟩
    rw [ofDocument_eq_ok_iff.mpr hcell] at h
    cases h
  · rintro ⟨hnot, rfl⟩
    cases hread : ofDocument value with
    | ok cell => exact absurd ⟨cell, ofDocument_eq_ok_iff.mp hread⟩ hnot
    | error fault => rw [hfault fault hread]

theorem exists_ofDocument_iff {value : Document} :
    (exists cell, ofDocument value = .ok cell) ↔ value.IsCell := by
  unfold Document.IsCell
  simp only [ofDocument_eq_ok_iff]

theorem isWrittenCell_toDocument (cell : Cell) : cell.toDocument.IsWrittenCell := by
  cases cell with
  | none => exact Or.inl rfl
  | some color => exact Or.inr ⟨color, rfl⟩

theorem describesCell_toDocument (cell : Cell) : cell.toDocument.DescribesCell cell := by
  cases cell with
  | none => exact .null
  | some color =>
      refine .letter (Color.capitals_eq_letter_iff.mpr ⟨color.letter, ?_, rfl⟩)
      exact color.toList_letter

theorem eq_toDocument_of_describesCell {value : Document} {cell : Cell}
    (h : value.DescribesCell cell) (hwritten : value.IsWrittenCell) : value = cell.toDocument := by
  cases h with
  | null => rfl
  | empty =>
      rcases hwritten with hnull | ⟨color, hcolor⟩
      · cases hnull
      · have hletters := congrArg String.toList (Document.text.inj hcolor)
        rw [color.toList_letter] at hletters
        cases hletters
  | @letter letters color capital =>
      rcases hwritten with hnull | ⟨other, hother⟩
      · cases hnull
      · cases Document.text.inj hother
        rw [other.toList_letter] at capital
        rcases Color.capitals_eq_letter_iff.mp capital with ⟨c, hc, hsame⟩
        cases List.singleton_inj.mp hc
        -- both letters are capital, so they do not even differ in case
        unfold Text.SameLetter at hsame
        rw [Color.toUpper_letter, Color.toUpper_letter] at hsame
        rw [Color.letter_injective hsame]
        rfl

end Cell

/-!
## Rows
-/

namespace Grid

open Document (IsCell IsWrittenCell)

theorem rowOfDocument_eq_ok_iff {value : Document} {row : List Cell} :
    rowOfDocument value = .ok row ↔ value.DescribesRow row := by
  unfold rowOfDocument Document.DescribesRow
  split
  · rename_i cells
    rw [Attempts.mapM_eq_ok_iff]
    simp only [Cell.ofDocument_eq_ok_iff, Document.list.injEq, exists_eq_left']
  · rename_i hother
    refine iff_of_false nofun ?_
    rintro ⟨cells, rfl, _⟩
    exact hother cells rfl

theorem rowOfDocument_eq_error_iff {value : Document} {fault : Fault} :
    rowOfDocument value = .error fault ↔
      exists cause, fault = .grid cause ∧ value.RefusedAsRow cause := by
  unfold rowOfDocument
  split
  · rename_i cells
    rw [Attempts.mapM_eq_error_iff]
    simp only [Cell.exists_ofDocument_iff, Cell.ofDocument_eq_error_iff]
    constructor
    · rintro ⟨before, cell, after, rfl, hbefore, hcell, rfl⟩
      exact ⟨_, rfl, .cell hbefore hcell⟩
    · rintro ⟨cause, rfl, hrefused⟩
      cases hrefused with
      | notList h => exact absurd rfl (h cells)
      | cell hbefore hcell => exact ⟨_, _, _, rfl, hbefore, hcell, rfl⟩
  · rename_i hother
    constructor
    · intro h
      cases h
      exact ⟨_, rfl, .notList hother⟩
    · rintro ⟨cause, rfl, hrefused⟩
      cases hrefused with
      | notList => rfl
      | @cell before after cell => exact absurd rfl (hother (before ++ cell :: after))

theorem exists_describesRow_iff {value : Document} {width : Nat} :
    (exists row, value.DescribesRow row ∧ row.length = width) ↔ value.IsRowOf IsCell width := by
  have hcells : forall cells : List Document,
      (exists row, List.Forall₂ Document.DescribesCell cells row) ↔
        forall cell, cell ∈ cells -> cell.IsCell := by
    intro cells
    have hread : (exists row, cells.mapM Cell.ofDocument = .ok row) ↔
        forall cell, cell ∈ cells -> exists found, Cell.ofDocument cell = .ok found :=
      Attempts.exists_mapM_eq_ok_iff
    simp only [Attempts.mapM_eq_ok_iff, Cell.ofDocument_eq_ok_iff] at hread
    exact hread
  constructor
  · rintro ⟨row, ⟨cells, rfl, hrow⟩, rfl⟩
    exact ⟨cells, rfl, hrow.length_eq, (hcells cells).mp ⟨row, hrow⟩⟩
  · rintro ⟨cells, rfl, rfl, hall⟩
    rcases (hcells cells).mpr hall with ⟨row, hrow⟩
    exact ⟨row, ⟨cells, rfl, hrow⟩, hrow.length_eq.symm⟩

/-!
## Rows behind the first one
-/

def rowOfWidth (width : Nat) (value : Document) : Except Fault (List Cell) := do
  let row <- rowOfDocument value
  if row.length = width then return row else throw (.grid .unequalRows)

theorem rowsOfDocuments_eq_mapM (width : Nat) (values : List Document) :
    rowsOfDocuments width values = values.mapM (rowOfWidth width) := by
  induction values with
  | nil => rfl
  | cons value rest ih =>
      rw [rowsOfDocuments, List.mapM_cons, rowOfWidth, bind_assoc, ih]
      refine bind_congr fun row => ?_
      split
      · rfl
      · rfl

theorem rowOfWidth_eq_ok_iff {width : Nat} {value : Document} {row : List Cell} :
    rowOfWidth width value = .ok row ↔ value.DescribesRow row ∧ row.length = width := by
  unfold rowOfWidth
  rw [Attempts.bind_eq_ok_iff]
  simp only [rowOfDocument_eq_ok_iff]
  constructor
  · rintro ⟨found, hfound, hrow⟩
    split at hrow
    · rename_i hwidth
      cases hrow
      exact ⟨hfound, hwidth⟩
    · cases hrow
  · rintro ⟨hrow, hwidth⟩
    exact ⟨row, hrow, if_pos hwidth⟩

theorem exists_rowOfWidth_iff {width : Nat} {value : Document} :
    (exists row, rowOfWidth width value = .ok row) ↔ value.IsRowOf IsCell width := by
  simp only [rowOfWidth_eq_ok_iff, exists_describesRow_iff]

theorem rowOfWidth_eq_error_iff {width : Nat} {value : Document} {fault : Fault} :
    rowOfWidth width value = .error fault ↔
      (exists cause, fault = .grid cause ∧ value.RefusedAsRow cause) ∨
        fault = .grid .unequalRows ∧ exists other, value.IsRowOf IsCell other ∧ other ≠ width := by
  unfold rowOfWidth
  rw [Attempts.bind_eq_error_iff]
  simp only [rowOfDocument_eq_error_iff, rowOfDocument_eq_ok_iff]
  refine or_congr Iff.rfl ?_
  constructor
  · rintro ⟨row, hrow, hfault⟩
    split at hfault
    · cases hfault
    · rename_i hother
      cases hfault
      exact ⟨rfl, row.length, exists_describesRow_iff.mp ⟨row, hrow, rfl⟩, hother⟩
  · rintro ⟨rfl, other, hrow, hother⟩
    rcases exists_describesRow_iff.mpr hrow with ⟨row, hdescribes, rfl⟩
    exact ⟨row, hdescribes, if_neg hother⟩

theorem rowsOfDocuments_eq_ok_iff {width : Nat} {values : List Document} {rows : Grid} :
    rowsOfDocuments width values = .ok rows ↔
      List.Forall₂ Document.DescribesRow values rows ∧ rows.IsRectangular width := by
  rw [rowsOfDocuments_eq_mapM, Attempts.mapM_eq_ok_iff]
  simp only [rowOfWidth_eq_ok_iff]
  exact Attempts.forall₂_and_right

theorem exists_rowsOfDocuments_iff {width : Nat} {values : List Document} :
    (exists rows, rowsOfDocuments width values = .ok rows) ↔
      forall value, value ∈ values -> value.IsRowOf IsCell width := by
  simp only [rowsOfDocuments_eq_mapM, Attempts.exists_mapM_eq_ok_iff, exists_rowOfWidth_iff]

/-!
## Whole grids
-/

theorem ofDocument_eq_ok_iff {value : Document} {grid : Grid} :
    ofDocument value = .ok grid ↔ value.DescribesGrid grid ∧ grid ≠ [] ∧ grid.IsEven := by
  unfold ofDocument Document.DescribesGrid
  split
  · rename_i first rest
    simp only [Attempts.bind_eq_ok_iff, Attempts.pure_eq_ok_iff, rowOfDocument_eq_ok_iff,
      rowsOfDocuments_eq_ok_iff, Document.list.injEq, exists_eq_left', List.forall₂_cons_left_iff]
    constructor
    · rintro ⟨row, hrow, rows, ⟨hrows, hwidth⟩, rfl⟩
      exact ⟨⟨row, rows, hrow, hrows, rfl⟩, List.cons_ne_nil row rows, row.length,
        List.forall_mem_cons.mpr ⟨rfl, hwidth⟩⟩
    · rintro ⟨⟨row, rows, hrow, hrows, rfl⟩, _, columns, hcolumns⟩
      rcases List.forall_mem_cons.mp hcolumns with ⟨rfl, hwidth⟩
      exact ⟨row, hrow, rows, ⟨hrows, hwidth⟩, rfl⟩
  · rename_i hother
    refine iff_of_false nofun ?_
    rintro ⟨⟨rows, rfl, hrows⟩, hsome, _⟩
    cases hrows with
    | nil => exact hsome rfl
    | @cons first row rest others => exact hother first rest rfl

theorem exists_ofDocument_iff {value : Document} :
    (exists grid, ofDocument value = .ok grid) ↔ value.IsTableOf IsCell := by
  unfold ofDocument Document.IsTableOf
  split
  · rename_i first rest
    simp only [Attempts.bind_eq_ok_iff, Attempts.pure_eq_ok_iff, rowOfDocument_eq_ok_iff]
    constructor
    · rintro ⟨grid, row, hrow, rows, hrows, rfl⟩
      exact ⟨first :: rest, row.length, rfl, List.cons_ne_nil first rest,
        List.forall_mem_cons.mpr ⟨exists_describesRow_iff.mp ⟨row, hrow, rfl⟩,
          exists_rowsOfDocuments_iff.mp ⟨rows, hrows⟩⟩⟩
    · rintro ⟨values, width, hvalues, _, hall⟩
      cases hvalues
      rcases List.forall_mem_cons.mp hall with ⟨hfirst, hrest⟩
      rcases exists_describesRow_iff.mpr hfirst with ⟨row, hrow, rfl⟩
      rcases exists_rowsOfDocuments_iff.mpr hrest with ⟨rows, hrows⟩
      exact ⟨row :: rows, row, hrow, rows, hrows, rfl⟩
  · rename_i hother
    refine iff_of_false nofun ?_
    rintro ⟨rows, width, rfl, hsome, _⟩
    rcases List.exists_cons_of_ne_nil hsome with ⟨first, rest, rfl⟩
    exact hother first rest rfl

/-- A value that is no grid is refused for the first thing in it that is out of order. -/
theorem ofDocument_eq_error_iff {value : Document} {fault : Fault} :
    ofDocument value = .error fault ↔
      exists cause, fault = .grid cause ∧ value.RefusedAsGrid cause := by
  unfold ofDocument
  split
  · rename_i first rest
    simp only [Attempts.bind_eq_error_iff, rowOfDocument_eq_error_iff, rowOfDocument_eq_ok_iff,
      rowsOfDocuments_eq_mapM, Attempts.mapM_eq_error_iff, exists_rowOfWidth_iff,
      rowOfWidth_eq_error_iff]
    constructor
    · rintro (⟨cause, rfl, hfirst⟩ |
        ⟨row, hrow, ⟨before, item, after, rfl, hbefore, hitem⟩ | ⟨_, _, hpure⟩⟩)
      · exact ⟨cause, rfl, .first hfirst⟩
      · have hall := List.forall_mem_cons.mpr
          ⟨exists_describesRow_iff.mp ⟨row, hrow, rfl⟩, hbefore⟩
        rcases hitem with ⟨cause, rfl, hcause⟩ | ⟨rfl, other, hother, hwidth⟩
        · exact ⟨cause, rfl, .later hall hcause⟩
        · exact ⟨_, rfl, .width hall hother hwidth⟩
      · cases hpure
    · rintro ⟨cause, rfl, hrefused⟩
      cases hrefused with
      | notRows h => exact absurd rfl (h first rest)
      | first h => exact Or.inl ⟨cause, rfl, h⟩
      | @later _ item before after width _ hbefore h =>
          rcases List.forall_mem_cons.mp hbefore with ⟨hfirst, hbefore⟩
          rcases exists_describesRow_iff.mpr hfirst with ⟨row, hrow, rfl⟩
          exact Or.inr ⟨row, hrow, Or.inl ⟨before, item, after, rfl, hbefore,
            Or.inl ⟨cause, rfl, h⟩⟩⟩
      | @width _ item before after width other hbefore hitem h =>
          rcases List.forall_mem_cons.mp hbefore with ⟨hfirst, hbefore⟩
          rcases exists_describesRow_iff.mpr hfirst with ⟨row, hrow, rfl⟩
          exact Or.inr ⟨row, hrow, Or.inl ⟨before, item, after, rfl, hbefore,
            Or.inr ⟨rfl, other, hitem, h⟩⟩⟩
  · rename_i hother
    constructor
    · intro h
      cases h
      exact ⟨_, rfl, .notRows hother⟩
    · rintro ⟨cause, rfl, hrefused⟩
      cases hrefused with
      | notRows => rfl
      | first => exact absurd rfl (hother _ _)
      | later => exact absurd rfl (hother _ _)
      | width => exact absurd rfl (hother _ _)

/-!
## Written grids
-/

theorem describesRow_rowValue (row : List Cell) : (rowValue row).DescribesRow row :=
  ⟨_, rfl, List.forall₂_map_left_iff.mpr
    (List.forall₂_same.mpr fun cell _ => Cell.describesCell_toDocument cell)⟩

theorem describesGrid_toDocument (grid : Grid) : grid.toDocument.DescribesGrid grid :=
  ⟨grid.map rowValue, rfl, List.forall₂_map_left_iff.mpr
    (List.forall₂_same.mpr fun row _ => describesRow_rowValue row)⟩

theorem isTableOf_toDocument {grid : Grid} (hsome : grid ≠ []) (heven : grid.IsEven) :
    grid.toDocument.IsTableOf IsWrittenCell := by
  rcases heven with ⟨columns, hcolumns⟩
  refine ⟨grid.map rowValue, columns, rfl, fun h => hsome (List.map_eq_nil_iff.mp h), ?_⟩
  intro value hvalue
  rcases List.mem_map.mp hvalue with ⟨row, hrow, rfl⟩
  refine ⟨row.map Cell.toDocument, rfl, ?_, ?_⟩
  · rw [List.length_map, hcolumns row hrow]
  · intro cell hcell
    rcases List.mem_map.mp hcell with ⟨found, _, rfl⟩
    exact Cell.isWrittenCell_toDocument found

theorem eq_rowValue_of_describesRow {value : Document} {row : List Cell} {width : Nat}
    (h : value.DescribesRow row) (hwritten : value.IsRowOf IsWrittenCell width) :
    value = rowValue row := by
  rcases h with ⟨cells, rfl, hcells⟩
  rcases hwritten with ⟨others, hsame, _, hall⟩
  cases hsame
  have hread : cells.mapM Cell.ofDocument = .ok row :=
    Attempts.mapM_eq_ok_iff.mpr (hcells.imp fun _ _ => Cell.ofDocument_eq_ok_iff.mpr)
  refine congrArg Document.list (Attempts.eq_map_of_mapM_eq_ok hread fun item cell hitem hcell => ?_)
  exact Cell.eq_toDocument_of_describesCell (Cell.ofDocument_eq_ok_iff.mp hcell) (hall item hitem)

/-- A grid is written in one way only. -/
theorem eq_toDocument_of_describesGrid {value : Document} {grid : Grid}
    (h : value.DescribesGrid grid) (hwritten : value.IsTableOf IsWrittenCell) :
    value = grid.toDocument := by
  rcases h with ⟨rows, rfl, hrows⟩
  rcases hwritten with ⟨others, width, hsame, _, hall⟩
  cases hsame
  have hread : rows.mapM rowOfDocument = .ok grid :=
    Attempts.mapM_eq_ok_iff.mpr (hrows.imp fun _ _ => rowOfDocument_eq_ok_iff.mpr)
  refine congrArg Document.list (Attempts.eq_map_of_mapM_eq_ok hread fun item row hitem hrow => ?_)
  exact eq_rowValue_of_describesRow (rowOfDocument_eq_ok_iff.mp hrow) (hall item hitem)

theorem ofDocument_toDocument {grid : Grid} (hsome : grid ≠ []) (heven : grid.IsEven) :
    ofDocument grid.toDocument = .ok grid :=
  ofDocument_eq_ok_iff.mpr ⟨describesGrid_toDocument grid, hsome, heven⟩

/-!
## Measures of what was read
-/

theorem kind_of_ofDocument {value : Document} {fault : Fault} (h : ofDocument value = .error fault) :
    fault.kind = .value := by
  rcases ofDocument_eq_error_iff.mp h with ⟨cause, rfl, _⟩
  rfl

theorem code_le_of_mem_codes {grid : Grid} {row : List Nat} {code : Nat} (hrow : row ∈ grid.codes)
    (hcode : code ∈ row) : code ≤ 7 := by
  rcases List.mem_map.mp hrow with ⟨cells, _, rfl⟩
  rcases List.mem_map.mp hcode with ⟨cell, _, rfl⟩
  exact cell.code_le

theorem codes_toDocument_inj {grid other : Grid} (h : grid.IsEven) (hother : other.IsEven) :
    Loose.codes grid.toDocument = Loose.codes other.toDocument ↔ grid = other := by
  rw [Loose.codes_toDocument h, Loose.codes_toDocument hother]
  constructor
  · intro hcodes
    exact codes_injective (Except.ok.inj hcodes)
  · rintro rfl
    rfl

/-- Exactly the tables of cells are read, and anything else is refused for its value.  What was read is
the grid that the value describes; it is written as a table of null and capital letters, which is the
value itself if that is such a table, and reading it again changes nothing.  Its codes and its number
of lit cells can always be taken, each code fits into a byte, and grids that were read have the same
codes only if they are the same. -/
theorem ofDocument_normalizes (value : Document) :
    ((exists grid, ofDocument value = .ok grid) ↔ value.IsTableOf IsCell) ∧
    (Not (value.IsTableOf IsCell) ->
      exists fault, ofDocument value = .error fault ∧ fault.kind = .value) ∧
    forall grid, ofDocument value = .ok grid ->
      value.DescribesGrid grid ∧ grid.toDocument.IsTableOf IsWrittenCell ∧
      (value.IsTableOf IsWrittenCell ↔ value = grid.toDocument) ∧
      ofDocument grid.toDocument = .ok grid ∧
      Loose.codes grid.toDocument = .ok grid.codes ∧
      (forall row, row ∈ grid.codes -> forall code, code ∈ row -> code ≤ 7) ∧
      Loose.litCells grid.toDocument = .ok grid.litCells ∧
      forall other known, ofDocument other = .ok known ->
        (Loose.codes known.toDocument = Loose.codes grid.toDocument ↔ known = grid) := by
  refine ⟨exists_ofDocument_iff, fun hnot => ?_, fun grid hgrid => ?_⟩
  · cases hread : ofDocument value with
    | ok grid => exact absurd (exists_ofDocument_iff.mp ⟨grid, hread⟩) hnot
    | error fault => exact ⟨fault, rfl, kind_of_ofDocument hread⟩
  · rcases ofDocument_eq_ok_iff.mp hgrid with ⟨hdescribes, hsome, heven⟩
    have hwritten := isTableOf_toDocument hsome heven
    refine ⟨hdescribes, hwritten, ⟨eq_toDocument_of_describesGrid hdescribes, fun h => ?_⟩,
      ofDocument_toDocument hsome heven, Loose.codes_toDocument heven,
      fun row hrow code hcode => code_le_of_mem_codes hrow hcode,
      Loose.litCells_valueOf (evenIfAny_some heven), fun other known hknown => ?_⟩
    · rw [h]
      exact hwritten
    · exact codes_toDocument_inj (ofDocument_eq_ok_iff.mp hknown).right.right heven

/-- Two rows in small and capital letters, with both ways of leaving a cell unlit; two others, which
have other codes; and rows of unequal width. -/
theorem ofDocument_normalizes_two_rows :
    exists value other ragged grid known,
      ofDocument value = .ok grid ∧ grid = [[some .red, none], [none, some .white]] ∧
      ofDocument other = .ok known ∧ known = [[some .red, none], [none, some .yellow]] ∧
      value.IsTableOf IsCell ∧ Not (value.IsTableOf IsWrittenCell) ∧
      ofDocument grid.toDocument = .ok grid ∧ Loose.codes grid.toDocument = .ok [[1, 0], [0, 4]] ∧
      Loose.litCells grid.toDocument = .ok 2 ∧
      Loose.codes known.toDocument ≠ Loose.codes grid.toDocument ∧
      Not (ragged.IsTableOf IsCell) ∧
      exists fault, ofDocument ragged = .error fault ∧ fault.kind = .value := by
  let value : Document := .list [.list [.text "r", .null], .list [.text "", .text "W"]]
  let other : Document := .list [.list [.text "R", .text ""], .list [.null, .text "y"]]
  let ragged : Document := .list [.list [.text "r"], .list []]
  have hread : ofDocument value = .ok [[some .red, none], [none, some .white]] := rfl
  have hother : ofDocument other = .ok [[some .red, none], [none, some .yellow]] := rfl
  have hragged : ofDocument ragged = .error (.grid .unequalRows) := rfl
  rcases ofDocument_normalizes value with ⟨haccepted, _, hgrid⟩
  rcases hgrid _ hread with ⟨_, _, hwritten, hagain, hcodes, _, hlit, hsame⟩
  rcases ofDocument_normalizes ragged with ⟨hfits, hrefused, _⟩
  have hsmall : Not (value.IsTableOf IsWrittenCell) := by
    intro h
    have hletter : Document.text "r" = Cell.toDocument (some .red) := by
      injection hwritten.mp h with hrows
      injection hrows with hrow
      injection hrow with hcells
      injection hcells
    exact absurd (Document.text.inj hletter) (by decide)
  have hnot : Not (ragged.IsTableOf IsCell) := by
    rw [← hfits]
    rintro ⟨grid, hgrid⟩
    rw [hragged] at hgrid
    cases hgrid
  refine ⟨value, other, ragged, _, _, hread, rfl, hother, rfl, haccepted.mp ⟨_, hread⟩, hsmall, hagain,
    hcodes, hlit, ?_, hnot, hrefused hnot⟩
  intro h
  cases (hsame other _ hother).mp h

end Grid
end Mosaic
