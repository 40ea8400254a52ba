import Mosaic.Fault

/-!
# Tables of codes

Grids are compared by the codes of their cells, and their codes are kept in arrays.  An array is made
of rows of one width, two arrays of one shape are gone through together, cell by cell, and cells are
counted.  These operations stand here, with what is expected of them; codes and scores use no others.
-/

namespace Mosaic

/-- Rows of codes, from the top. -/
abbrev CodeTable := List (List Nat)

namespace CodeTable

def IsEven (rows : List (List Nat)) : Prop := exists width, forall row, row ∈ rows -> row.length = width

/-- Rows as a table, which rows of unequal width are not. -/
def ofRows (rows : List (List Nat)) : Except Fault CodeTable :=
  match rows with
  | [] => .ok []
  | first :: rest =>
      if rest.all fun row => row.length == first.length then .ok rows
      else .error (.grid .ragged)

def shape (table : CodeTable) : Nat × Nat := (table.length, (table.head?.map List.length).getD 0)

/-- Two tables put together cell by cell, if they have one shape. -/
def paired? (left right : CodeTable) : Option (List (Nat × Nat)) :=
  if left.map List.length = right.map List.length then some (left.flatten.zip right.flatten)
  else none

def countNonzero (table : CodeTable) : Nat := table.flatten.countP (· != 0)

/-!
## Rows of one width
-/

theorem isEven_cons_iff {first : List Nat} {rest : List (List Nat)} :
    IsEven (first :: rest) ↔ forall row, row ∈ rest -> row.length = first.length := by
  constructor
  · rintro ⟨width, hwidth⟩ row hrow
    rw [hwidth row (List.mem_cons_of_mem first hrow), hwidth first List.mem_cons_self]
  · intro h
    exact ⟨first.length, List.forall_mem_cons.mpr ⟨rfl, h⟩⟩

theorem ofRows_of_isEven {rows : List (List Nat)} (h : IsEven rows) : ofRows rows = .ok rows := by
  cases rows with
  | nil => rfl
  | cons first rest =>
      have hrest := isEven_cons_iff.mp h
      have hall : (rest.all fun row => row.length == first.length) = true :=
        List.all_eq_true.mpr fun row hrow => beq_iff_eq.mpr (hrest row hrow)
      rw [ofRows, if_pos hall]

theorem ofRows_of_not_isEven {rows : List (List Nat)} (h : Not (IsEven rows)) :
    ofRows rows = .error (.grid .ragged) := by
  cases rows with
  | nil => exact absurd ⟨0, nofun⟩ h
  | cons first rest =>
      have hragged : Not ((rest.all fun row => row.length == first.length) = true) := by
        intro hall
        exact h (isEven_cons_iff.mpr fun row hrow =>
          beq_iff_eq.mp (List.all_eq_true.mp hall row hrow))
      rw [ofRows, if_neg hragged]

/-!
## Shapes
-/

theorem map_length_of_isEven {table : CodeTable} (h : IsEven table) :
    table.map List.length = List.replicate table.shape.1 table.shape.2 := by
  cases table with
  | nil => rfl
  | cons first rest =>
      have hrest := isEven_cons_iff.mp h
      rw [List.eq_replicate_iff]
      refine ⟨List.length_map _, fun width hwidth => ?_⟩
      rcases List.mem_map.mp hwidth with ⟨row, hrow, rfl⟩
      rcases List.mem_cons.mp hrow with rfl | hlater
      · rfl
      · exact hrest row hlater

/-- Tables have one shape if their rows have the same widths, one by one. -/
theorem shape_eq_iff {left right : CodeTable} (hleft : IsEven left) (hright : IsEven right) :
    left.shape = right.shape ↔ left.map List.length = right.map List.length := by
  constructor
  · intro h
    rw [map_length_of_isEven hleft, map_length_of_isEven hright, h]
  · intro h
    have hheads := congrArg List.head? h
    have hcount := congrArg List.length h
    rw [List.head?_map, List.head?_map] at hheads
    rw [List.length_map, List.length_map] at hcount
    unfold shape
    rw [hcount, hheads]

/-!
## Cells of two tables
-/

section

variable {left right : CodeTable}

theorem paired?_of_widths (h : left.map List.length = right.map List.length) :
    paired? left right = some (left.flatten.zip right.flatten) := if_pos h

theorem paired?_of_widths_ne (h : left.map List.length ≠ right.map List.length) :
    paired? left right = none := if_neg h

theorem paired?_self (table : CodeTable) :
    paired? table table = some (table.flatten.zip table.flatten) := if_pos rfl

theorem isSome_paired?_iff (hleft : IsEven left) (hright : IsEven right) :
    (paired? left right).isSome = true ↔ left.shape = right.shape := by
  rw [shape_eq_iff hleft hright]
  by_cases h : left.map List.length = right.map List.length
  · rw [paired?_of_widths h]
    exact iff_of_true rfl h
  · rw [paired?_of_widths_ne h]
    exact iff_of_false nofun h

end

theorem countNonzero_cons (row : List Nat) (rest : CodeTable) :
    countNonzero (row :: rest) = row.countP (· != 0) + countNonzero rest :=
  List.countP_append

end CodeTable
end Mosaic
