import Mosaic.Proofs.Maze.Cells

/-!
# Passages

There is a passage between two neighbours if neither has a wall towards the other.  Opening walls
closes no passage, and a wall opened on both sides is a new one.
-/

namespace Mosaic
namespace Maze

/-- A cell without a wall on a side; the plan tells the walls of cells. -/
def IsOpen (plan : Position -> Option Walls) (place : Position) (side : Side) : Prop :=
  exists walls, plan place = some walls ∧ walls.has side = false

def Passage (rows columns : Nat) (plan : Position -> Option Walls) (place next : Position) :
    Prop :=
  exists side, place.beyond? rows columns side = some next ∧ IsOpen plan place side ∧
    IsOpen plan next side.opposite

/-- A way through passages, from a cell to the last one. -/
inductive Way (rows columns : Nat) (plan : Position -> Option Walls) (place : Position) :
    Position -> Prop
  | here : Way rows columns plan place place
  | step {last next : Position} (way : Way rows columns plan place last)
      (passage : Passage rows columns plan last next) : Way rows columns plan place next

variable {rows columns : Nat} {plan others : Position -> Option Walls}

theorem isOpen_iff {place : Position} {side : Side} {walls : Walls} (h : plan place = some walls) :
    IsOpen plan place side ↔ walls.has side = false := by
  unfold IsOpen
  rw [h]
  simp

theorem opposite_opposite (side : Side) : side.opposite.opposite = side := by
  cases side with
  | top => rfl
  | right => rfl
  | bottom => rfl
  | left => rfl

theorem Passage.inside {place next : Position} (h : Passage rows columns plan place next)
    (hplace : place.Inside rows columns) : next.Inside rows columns := by
  rcases h with ⟨side, hbeyond, _, _⟩
  exact Position.inside_of_beyond? hplace hbeyond

theorem Passage.symm {place next : Position} (h : Passage rows columns plan place next)
    (hplace : place.Inside rows columns) : Passage rows columns plan next place := by
  rcases h with ⟨side, hbeyond, hplaceOpen, hnextOpen⟩
  refine ⟨side.opposite, Position.beyond?_opposite hplace hbeyond, hnextOpen, ?_⟩
  rwa [opposite_opposite]

theorem Passage.imp {place next : Position}
    (hopen : forall cell side, IsOpen plan cell side -> IsOpen others cell side)
    (h : Passage rows columns plan place next) : Passage rows columns others place next := by
  rcases h with ⟨side, hbeyond, hplaceOpen, hnextOpen⟩
  exact ⟨side, hbeyond, hopen place side hplaceOpen, hopen next side.opposite hnextOpen⟩

theorem Way.inside {place last : Position} (h : Way rows columns plan place last)
    (hplace : place.Inside rows columns) : last.Inside rows columns := by
  induction h with
  | here => exact hplace
  | step _ hpassage ih => exact hpassage.inside ih

theorem Way.append {place middle last : Position} (h : Way rows columns plan place middle)
    (g : Way rows columns plan middle last) : Way rows columns plan place last := by
  induction g with
  | here => exact h
  | step _ hpassage ih => exact Way.step ih hpassage

theorem Way.back {place last : Position} (h : Way rows columns plan place last)
    (hplace : place.Inside rows columns) : Way rows columns plan last place := by
  induction h with
  | here => exact Way.here
  | step hway hpassage ih =>
      exact (Way.step Way.here (hpassage.symm (hway.inside hplace))).append ih

theorem Way.imp {place last : Position}
    (hopen : forall cell side, IsOpen plan cell side -> IsOpen others cell side)
    (h : Way rows columns plan place last) : Way rows columns others place last := by
  induction h with
  | here => exact Way.here
  | step _ hpassage ih => exact Way.step ih (hpassage.imp hopen)

/-!
## Boards
-/

namespace Board

def wallsAt? (board : Board) (place : Position) : Option Walls :=
  board.walls[place.row]? >>= (·[place.column]?)

def markAt? (board : Board) (place : Position) : Option Bool :=
  board.seen[place.row]? >>= (·[place.column]?)

theorem hasSeen_iff {board : Board} {place : Position} :
    board.hasSeen place = true ↔ board.markAt? place = some true := by
  show (board.markAt? place).getD false = true ↔ _
  cases hmark : board.markAt? place with
  | none => simp
  | some mark => simp

theorem wallsAt?_withOpen (board : Board) (place other : Position) (side : Side) :
    (board.withOpen place side).wallsAt? other =
      if other = place then (board.wallsAt? other).map fun walls => walls.opened side
      else board.wallsAt? other := by
  rcases place with ⟨row, column⟩
  rcases other with ⟨otherRow, otherColumn⟩
  unfold wallsAt? withOpen
  simp only [Array.getElem?_modify, Position.mk.injEq]
  by_cases hrow : row = otherRow
  · subst hrow
    cases board.walls[row]? with
    | none => simp
    | some line =>
        by_cases hcolumn : column = otherColumn
        · simp [Array.getElem?_modify, hcolumn]
        · simp [Array.getElem?_modify, hcolumn, Ne.symm hcolumn]
  · simp [hrow, Ne.symm hrow]

theorem markAt?_withSeen (board : Board) (place other : Position) :
    (board.withSeen place).markAt? other =
      if other = place then (board.markAt? other).map fun _ => true
      else board.markAt? other := by
  rcases place with ⟨row, column⟩
  rcases other with ⟨otherRow, otherColumn⟩
  unfold markAt? withSeen
  simp only [Array.getElem?_modify, Position.mk.injEq]
  by_cases hrow : row = otherRow
  · subst hrow
    cases board.seen[row]? with
    | none => simp
    | some line =>
        by_cases hcolumn : column = otherColumn
        · subst hcolumn
          by_cases hsize : column < line.size
          · simp [hsize]
          · simp [hsize]
        · simp [hcolumn, Ne.symm hcolumn]
  · simp [hrow, Ne.symm hrow]

def IsFull (board : Board) : Prop :=
  forall place : Position, place.Inside board.rows board.columns ->
    (board.wallsAt? place).isSome = true ∧ (board.markAt? place).isSome = true

theorem isFull_withOpen {board : Board} (h : board.IsFull) (place : Position) (side : Side) :
    (board.withOpen place side).IsFull := by
  intro other hother
  refine ⟨?_, (h other hother).right⟩
  rw [wallsAt?_withOpen]
  split
  · rw [Option.isSome_map]
    exact (h other hother).left
  · exact (h other hother).left

theorem isFull_withSeen {board : Board} (h : board.IsFull) (place : Position) :
    (board.withSeen place).IsFull := by
  intro other hother
  refine ⟨(h other hother).left, ?_⟩
  rw [markAt?_withSeen]
  split
  · rw [Option.isSome_map]
    exact (h other hother).right
  · exact (h other hother).right

theorem isFull_closed (rows columns : Nat) : (closed rows columns).IsFull := by
  intro place hplace
  have hrow : place.row < rows := hplace.left
  have hcolumn : place.column < columns := hplace.right
  unfold wallsAt? markAt? closed
  simp [hrow, hcolumn]

theorem hasSeen_closed (rows columns : Nat) (place : Position) :
    (closed rows columns).hasSeen place = false := by
  rw [Bool.eq_false_iff, ne_eq, hasSeen_iff]
  unfold markAt? closed
  intro h
  rcases Option.bind_eq_some_iff.mp h with ⟨line, hline, hmark⟩
  rw [Array.getElem?_eq_some_iff] at hline hmark
  rcases hline with ⟨_, rfl⟩
  rcases hmark with ⟨_, hmark⟩
  simp at hmark

theorem hasSeen_withSeen {board : Board} {place : Position}
    (hmark : (board.markAt? place).isSome = true) (other : Position) :
    (board.withSeen place).hasSeen other = true ↔
      board.hasSeen other = true ∨ other = place := by
  rw [hasSeen_iff, hasSeen_iff, markAt?_withSeen]
  rcases Option.isSome_iff_exists.mp hmark with ⟨mark, hplace⟩
  by_cases hsame : other = place
  · subst hsame
    simp [hplace]
  · simp [hsame]

theorem isOpen_withOpen_of_isOpen {board : Board} {other : Position} {face : Side}
    (h : IsOpen board.wallsAt? other face) (place : Position) (side : Side) :
    IsOpen (board.withOpen place side).wallsAt? other face := by
  rcases h with ⟨walls, hwalls, hopen⟩
  unfold IsOpen
  rw [wallsAt?_withOpen, hwalls]
  split
  · refine ⟨walls.opened side, rfl, ?_⟩
    rw [Walls.has_opened]
    split
    · rfl
    · exact hopen
  · exact ⟨walls, rfl, hopen⟩

/-- An opening was there before, or is the new one. -/
theorem isOpen_withOpen_cases {board : Board} {place other : Position} {side face : Side}
    (h : IsOpen (board.withOpen place side).wallsAt? other face) :
    IsOpen board.wallsAt? other face ∨ other = place ∧ face = side := by
  rcases h with ⟨walls, hwalls, hopen⟩
  rw [wallsAt?_withOpen] at hwalls
  split at hwalls
  · rename_i hplace
    rcases Option.map_eq_some_iff.mp hwalls with ⟨before, hbefore, rfl⟩
    rw [Walls.has_opened] at hopen
    split at hopen
    · rename_i hside
      exact Or.inr ⟨hplace, hside⟩
    · exact Or.inl ⟨before, hbefore, hopen⟩
  · exact Or.inl ⟨walls, hwalls, hopen⟩

theorem isOpen_withOpen {board : Board} {place : Position}
    (h : (board.wallsAt? place).isSome = true) (side : Side) :
    IsOpen (board.withOpen place side).wallsAt? place side := by
  rcases Option.isSome_iff_exists.mp h with ⟨walls, hwalls⟩
  refine ⟨walls.opened side, ?_, ?_⟩
  · rw [wallsAt?_withOpen, if_pos rfl, hwalls]
    rfl
  · rw [Walls.has_opened, if_pos rfl]

/-!
## The shape of a board
-/

def IsRectangle (board : Board) : Prop :=
  board.walls.size = board.rows ∧
    forall (row : Nat) (line : Array Walls), board.walls[row]? = some line ->
      line.size = board.columns

theorem isRectangle_closed (rows columns : Nat) : (closed rows columns).IsRectangle := by
  refine ⟨Array.size_replicate, ?_⟩
  intro row line hline
  rcases Array.getElem?_eq_some_iff.mp hline with ⟨hrow, rfl⟩
  simp [closed]

theorem isRectangle_withOpen {board : Board} (h : board.IsRectangle) (place : Position)
    (side : Side) : (board.withOpen place side).IsRectangle := by
  refine ⟨Array.size_modify.trans h.left, ?_⟩
  intro row line hline
  change (board.walls.modify _ _)[row]? = _ at hline
  rw [Array.getElem?_modify] at hline
  split at hline
  · rcases Option.map_eq_some_iff.mp hline with ⟨before, hbefore, rfl⟩
    exact Array.size_modify.trans (h.right row before hbefore)
  · exact h.right row line hline

theorem rowsOfWalls_of_isRectangle {board : Board} (h : board.IsRectangle) :
    board.rowsOfWalls.length = board.rows ∧
      forall line, line ∈ board.rowsOfWalls -> line.length = board.columns := by
  unfold rowsOfWalls
  constructor
  · rw [List.length_map, Array.length_toList]
    exact h.left
  · intro line hline
    rcases List.mem_map.mp hline with ⟨cells, hcells, rfl⟩
    rcases List.mem_iff_getElem?.mp hcells with ⟨row, hrow⟩
    rw [Array.getElem?_toList] at hrow
    rw [Array.length_toList]
    exact h.right row cells hrow

/-- A board whose openings all lead to a neighbour that is open as well. -/
def IsOutlined (board : Board) : Prop :=
  forall place side, IsOpen board.wallsAt? place side ->
    exists next, place.beyond? board.rows board.columns side = some next ∧
      IsOpen board.wallsAt? next side.opposite

theorem not_isOpen_closed {rows columns : Nat} {place : Position} {side : Side} :
    Not (IsOpen (closed rows columns).wallsAt? place side) := by
  intro hopen
  rcases hopen with ⟨walls, hwalls, hhas⟩
  have hclosed : walls = Walls.closed := by
    unfold wallsAt? closed at hwalls
    rcases Option.bind_eq_some_iff.mp hwalls with ⟨line, hline, hcell⟩
    rcases Array.getElem?_eq_some_iff.mp hline with ⟨_, rfl⟩
    rcases Array.getElem?_eq_some_iff.mp hcell with ⟨_, rfl⟩
    simp
  subst hclosed
  cases side with
  | _ => cases hhas

theorem isOutlined_closed (rows columns : Nat) : (closed rows columns).IsOutlined :=
  fun _ _ hopen => absurd hopen not_isOpen_closed

end Board
end Maze
end Mosaic
