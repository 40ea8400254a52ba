import Mosaic.Maze.Carving

/-!
# Cells of a rectangle

A step from a cell to a neighbour stays inside the rectangle and can be taken back, and with such
steps every cell is reached from every other one.
-/

namespace Mosaic
namespace Position

def Inside (rows columns : Nat) (place : Position) : Prop :=
  place.row < rows ∧ place.column < columns

instance (rows columns : Nat) (place : Position) : Decidable (place.Inside rows columns) :=
  inferInstanceAs (Decidable (_ ∧ _))

variable {rows columns : Nat}

theorem beyond?_top (row column : Nat) :
    Position.beyond? rows columns ⟨row + 1, column⟩ .top = some ⟨row, column⟩ := rfl

theorem beyond?_left (row column : Nat) :
    Position.beyond? rows columns ⟨row, column + 1⟩ .left = some ⟨row, column⟩ := rfl

theorem beyond?_right (row : Nat) {column : Nat} (h : column + 1 < columns) :
    Position.beyond? rows columns ⟨row, column⟩ .right = some ⟨row, column + 1⟩ := if_pos h

theorem beyond?_bottom {row : Nat} (column : Nat) (h : row + 1 < rows) :
    Position.beyond? rows columns ⟨row, column⟩ .bottom = some ⟨row + 1, column⟩ := if_pos h

theorem beyond?_eq_some {place next : Position} {side : Side}
    (h : place.beyond? rows columns side = some next) :
    (side = .top ∧ place.row = next.row + 1 ∧ next.column = place.column) ∨
      (side = .right ∧ next.column = place.column + 1 ∧ next.column < columns ∧
        next.row = place.row) ∨
      (side = .bottom ∧ next.row = place.row + 1 ∧ next.row < rows ∧
        next.column = place.column) ∨
      (side = .left ∧ place.column = next.column + 1 ∧ next.row = place.row) := by
  unfold beyond? at h
  cases side with
  | top =>
      simp only at h
      split at h
      · cases h
      · cases h
        exact Or.inl ⟨rfl, by simp only; omega, rfl⟩
  | right =>
      simp only at h
      split at h
      · rename_i hinside
        cases h
        exact Or.inr (Or.inl ⟨rfl, rfl, hinside, rfl⟩)
      · cases h
  | bottom =>
      simp only at h
      split at h
      · rename_i hinside
        cases h
        exact Or.inr (Or.inr (Or.inl ⟨rfl, rfl, hinside, rfl⟩))
      · cases h
  | left =>
      simp only at h
      split at h
      · cases h
      · cases h
        exact Or.inr (Or.inr (Or.inr ⟨rfl, by simp only; omega, rfl⟩))

theorem inside_of_beyond? {place next : Position} {side : Side}
    (hplace : place.Inside rows columns) (h : place.beyond? rows columns side = some next) :
    next.Inside rows columns := by
  unfold Inside at hplace ⊢
  rcases beyond?_eq_some h with ⟨_, hrow, hcolumn⟩ | ⟨_, _, hcolumn, hrow⟩ |
    ⟨_, _, hrow, hcolumn⟩ | ⟨_, hcolumn, hrow⟩
  · omega
  · omega
  · omega
  · omega

theorem beyond?_opposite {place next : Position} {side : Side}
    (hplace : place.Inside rows columns) (h : place.beyond? rows columns side = some next) :
    next.beyond? rows columns side.opposite = some place := by
  rcases place with ⟨row, column⟩
  rcases next with ⟨nextRow, nextColumn⟩
  unfold Inside at hplace
  rcases beyond?_eq_some h with ⟨rfl, hrow, hcolumn⟩ | ⟨rfl, hstep, hcolumn, hrow⟩ |
    ⟨rfl, hstep, hrow, hcolumn⟩ | ⟨rfl, hcolumn, hrow⟩
  · simp only at hrow hcolumn hplace
    subst hrow hcolumn
    exact beyond?_bottom _ hplace.left
  · simp only at hrow hstep
    subst hrow hstep
    exact beyond?_left nextRow column
  · simp only at hcolumn hstep
    subst hcolumn hstep
    exact beyond?_top row nextColumn
  · simp only at hcolumn hrow hplace
    subst hcolumn hrow
    exact beyond?_right _ hplace.right

/-!
## Getting around
-/

theorem along_row {P : Position -> Prop}
    (hnext : forall place side next, place.Inside rows columns -> P place ->
      place.beyond? rows columns side = some next -> P next)
    {row column : Nat} (hrow : row < rows) (hcolumn : column < columns) (h : P ⟨row, column⟩)
    {other : Nat} (hother : other < columns) : P ⟨row, other⟩ := by
  have hstart : P ⟨row, 0⟩ := by
    clear hother
    induction column with
    | zero => exact h
    | succ column ih =>
        exact ih (by omega) (hnext _ .left _ ⟨hrow, hcolumn⟩ h (beyond?_left row column))
  clear h hcolumn
  induction other with
  | zero => exact hstart
  | succ other ih =>
      exact hnext _ .right _ ⟨hrow, Nat.lt_of_succ_lt hother⟩ (ih (by omega))
        (beyond?_right row hother)

theorem along_column {P : Position -> Prop}
    (hnext : forall place side next, place.Inside rows columns -> P place ->
      place.beyond? rows columns side = some next -> P next)
    {row column : Nat} (hrow : row < rows) (hcolumn : column < columns) (h : P ⟨row, column⟩)
    {other : Nat} (hother : other < rows) : P ⟨other, column⟩ := by
  have hstart : P ⟨0, column⟩ := by
    clear hother
    induction row with
    | zero => exact h
    | succ row ih =>
        exact ih (by omega) (hnext _ .top _ ⟨hrow, hcolumn⟩ h (beyond?_top row column))
  clear h hrow
  induction other with
  | zero => exact hstart
  | succ other ih =>
      exact hnext _ .bottom _ ⟨Nat.lt_of_succ_lt hother, hcolumn⟩ (ih (by omega))
        (beyond?_bottom column hother)

/-- What passes from every cell to its neighbours holds everywhere once it holds somewhere. -/
theorem everywhere_of_somewhere {P : Position -> Prop}
    (hnext : forall place side next, place.Inside rows columns -> P place ->
      place.beyond? rows columns side = some next -> P next)
    {start : Position} (hstart : start.Inside rows columns) (h : P start) {place : Position}
    (hplace : place.Inside rows columns) : P place :=
  along_column hnext hstart.left hplace.right (along_row hnext hstart.left hstart.right h hplace.right)
    hplace.left

end Position

/-!
## All cells
-/

namespace Maze

theorem mem_positions {rows columns : Nat} {place : Position} :
    place ∈ positions rows columns ↔ place.Inside rows columns := by
  rcases place with ⟨row, column⟩
  unfold positions Position.Inside
  simp only [List.mem_flatMap, List.mem_map, List.mem_range]
  constructor
  · intro hgiven
    rcases hgiven with ⟨_, hrow, _, hcolumn, heq⟩
    cases heq
    exact ⟨hrow, hcolumn⟩
  · intro hgiven
    rcases hgiven with ⟨hrow, hcolumn⟩
    exact ⟨row, hrow, column, hcolumn, rfl⟩

theorem nodup_positions (rows columns : Nat) : (positions rows columns).Nodup := by
  unfold positions
  rw [List.nodup_iff_pairwise_ne, List.pairwise_flatMap]
  constructor
  · intro row _
    refine List.Pairwise.map _ ?_ (@List.nodup_range columns)
    intro column other hne heq
    cases heq
    exact hne rfl
  · apply (@List.nodup_range rows).imp
    intro row other hne place hplace next hnext heq
    rcases List.mem_map.mp hplace with ⟨_, _, rfl⟩
    rcases List.mem_map.mp hnext with ⟨_, _, rfl⟩
    cases heq
    exact hne rfl

theorem length_positions (rows columns : Nat) :
    (positions rows columns).length = rows * columns := by
  unfold positions
  rw [List.length_flatMap]
  simp only [List.length_map, List.length_range, List.map_const', List.sum_replicate_nat]

end Maze
end Mosaic
