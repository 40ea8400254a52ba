import Mosaic.Proofs.Maze.Reading

/-!
# What a description says of a maze

The numbers of a description may be any whole numbers and its names any texts.  What passes the
checks has only numbers, kinds and headings that a maze can have, and the maze that is made of it is
the one described.
-/

namespace Mosaic

theorem Heading.degrees_of_ofDegrees? {degrees : Int} {heading : Heading}
    (h : Heading.ofDegrees? degrees = some heading) : degrees = heading.degrees := by
  unfold Heading.ofDegrees? at h
  split at h
  · cases h
    rfl
  · cases h
    rfl
  · cases h
    rfl
  · cases h
    rfl
  · cases h

theorem ItemKind.name_of_ofName? {name : String} {kind : ItemKind}
    (h : ItemKind.ofName? name = some kind) : name = kind.name := by
  unfold ItemKind.ofName? at h
  split at h
  · cases h
    rfl
  · cases h
    rfl
  · cases h

def Position.numbers (place : Position) : Int × Int := (place.row, place.column)

namespace Maze

/-- A maze that is as it is described.  What the description leaves out is filled in. -/
structure Draft.Describes (draft : Draft) (maze : Maze) : Prop where
  rows : draft.rows = maze.rows
  columns : draft.columns = maze.columns
  walls : draft.walls = maze.walls
  items : draft.items = maze.items.map itemDraft
  exit : draft.exit = maze.exit.map Position.numbers
  visited : forall place, place ∈ draft.visitedPlaces ↔
    exists cell, cell ∈ maze.visited ∧ place = Position.numbers cell
  turtle : draft.turtlePlace = ((maze.turtle.place.row : Int), (maze.turtle.place.column : Int),
    (maze.turtle.heading.degrees : Int))

theorem numbers_position {place : Int × Int} (hrow : 0 ≤ place.1) (hcolumn : 0 ≤ place.2) :
    Position.numbers (Draft.position place.1 place.2) = place := by
  unfold Position.numbers Draft.position
  simp only [Int.toNat_of_nonneg hrow, Int.toNat_of_nonneg hcolumn]

theorem eq_itemDraft_of_item {described : ItemDraft} {item : Item}
    (h : Draft.item described = .ok item) (hrow : 0 ≤ described.row)
    (hcolumn : 0 ≤ described.column) : described = itemDraft item := by
  rcases described with ⟨row, column, name, collected⟩
  unfold Draft.item at h
  split at h
  · rename_i kind hkind
    cases h
    unfold itemDraft Draft.position
    simp only at hrow hcolumn hkind ⊢
    rw [Int.toNat_of_nonneg hrow, Int.toNat_of_nonneg hcolumn, ItemKind.name_of_ofName? hkind]
  · cases h

theorem describes_of_toMaze {draft : Draft} {maze : Maze} (h : draft.toMaze = .ok maze) :
    draft.Describes maze := by
  rcases toMaze_eq_ok h with ⟨_, hplaces, items, heading, hitems, hheading, rfl⟩
  have hturtle := held_of_find? hplaces (turtle_mem_places draft)
  have hvisited : forall place, place ∈ draft.visitedPlaces ->
      Position.numbers (Draft.position place.1 place.2) = place := by
    intro place hplace
    have hheld := held_of_find? hplaces (visited_mem_places hplace)
    exact numbers_position hheld.left hheld.right.right.left
  constructor
  · show draft.rows = (draft.rows.toNat : Int)
    omega
  · show draft.columns = (draft.columns.toNat : Int)
    omega
  · rfl
  · refine Attempts.eq_map_of_mapM_eq_ok hitems fun described item hmem hread => ?_
    have hheld := held_of_find? hplaces (item_mem_places hmem)
    exact eq_itemDraft_of_item hread hheld.left hheld.right.right.left
  · show draft.exit = (draft.exit.map fun place => Draft.position place.1 place.2).map _
    cases hexit : draft.exit with
    | none => rfl
    | some place =>
        have hheld := held_of_find? hplaces (exit_mem_places hexit)
        exact congrArg some (numbers_position hheld.left hheld.right.right.left).symm
  · intro place
    simp only [Position.mem_sorted, List.mem_map]
    constructor
    · intro hplace
      exact ⟨_, ⟨place, hplace, rfl⟩, (hvisited place hplace).symm⟩
    · intro hgiven
      rcases hgiven with ⟨cell, ⟨other, hother, rfl⟩, rfl⟩
      rwa [hvisited other hother]
  · have hnumbers := @numbers_position (draft.turtlePlace.1, draft.turtlePlace.2.1) hturtle.left
      hturtle.right.right.left
    have hdegrees := Heading.degrees_of_ofDegrees? hheading
    unfold Position.numbers at hnumbers
    rw [Prod.mk.injEq] at hnumbers
    simp only at hnumbers ⊢
    rw [hnumbers.left, hnumbers.right, ← hdegrees]

/-- Every maze that is read is as it is described, with known kinds and a heading along an axis.  It
has a cell, everything in it lies inside, and it is read again from its own document. -/
theorem ofDocument_accepts {value : Document} {maze : Maze} (h : ofDocument value = .ok maze) :
    1 ≤ maze.rows ∧ 1 ≤ maze.columns ∧ maze.WellFormed ∧ ofDocument maze.toDocument = .ok maze ∧
      exists draft, draftOf value = .ok draft ∧ draft.Describes maze ∧
        (forall item, item ∈ draft.items -> item.kind = "leaf" ∨ item.kind = "carrot") ∧
        draft.turtlePlace.2.2 ∈ [0, 90, 180, 270] := by
  have hwell := wellFormed_of_ofDocument h
  rcases Attempts.bind_eq_ok_iff.mp h with ⟨draft, hdraft, hchecked⟩
  have hdescribes := describes_of_toMaze hchecked
  refine ⟨Nat.zero_lt_of_lt hwell.turtle.left, Nat.zero_lt_of_lt hwell.turtle.right, hwell,
    ofDocument_toDocument hwell, draft, hdraft, hdescribes, ?_, ?_⟩
  · intro described hmem
    rw [hdescribes.items] at hmem
    rcases List.mem_map.mp hmem with ⟨item, _, rfl⟩
    unfold itemDraft
    cases item.kind with
    | leaf => exact Or.inl rfl
    | carrot => exact Or.inr rfl
  · rw [hdescribes.turtle]
    show (maze.turtle.heading.degrees : Int) ∈ [0, 90, 180, 270]
    cases maze.turtle.heading with
    | _ => decide

/-- Two cells described with a text, a flag and fractions for numbers, the visited cells from the right
to the left, and a heading of less than zero. -/
def twoCellsDescription : Document := .record [
  ("rows", .text "1"), ("cols", .real (.finite false 5 (-1))),
  ("cells", .list [.list [wallsDocument (Walls.closed.opened .right),
    wallsDocument (Walls.closed.opened .left)]]),
  ("items", .list [
    .record [("r", .bool false), ("c", .whole 1), ("type", .text "carrot"), ("collected", .whole 2)],
    .record [("r", .whole 0), ("c", .bool true), ("type", .text "leaf")]]),
  ("exit", .record [("r", .whole 0), ("c", .real (.finite false 1 (-1)))]),
  ("visited", .list [.list [.whole 0, .whole 1], .list [.whole 0, .whole 0]]),
  ("turtle", .record [("r", .whole 0), ("c", .text "0"), ("heading", .whole (-90))])]

def twoCellsDraft : Draft where
  rows := 1
  columns := 2
  walls := [[Walls.closed.opened .right, Walls.closed.opened .left]]
  items := [⟨0, 1, "carrot", true⟩, ⟨0, 1, "leaf", false⟩]
  exit := some (0, 0)
  visited := [(0, 1), (0, 0)]
  turtle := some (0, 0, 270)

theorem visitedPlaces_twoCellsDraft : twoCellsDraft.visitedPlaces = [(0, 0), (0, 1)] := by
  simp [Draft.visitedPlaces, twoCellsDraft, List.mergeSort, pairAtMost]

theorem toMaze_twoCellsDraft : exists maze, twoCellsDraft.toMaze = .ok maze ∧
    maze.items = [⟨⟨0, 1⟩, .carrot, true⟩, ⟨⟨0, 1⟩, .leaf, false⟩] ∧ maze.exit = some ⟨0, 0⟩ ∧
    maze.visited = [⟨0, 0⟩, ⟨0, 1⟩] ∧ maze.turtle = ⟨⟨0, 0⟩, .south⟩ := by
  unfold Draft.toMaze Draft.places
  rw [visitedPlaces_twoCellsDraft]
  exact ⟨_, rfl, rfl, rfl, rfl, rfl⟩

/-- Two cells with two items, an exit and a turtle that has been on both of them. -/
theorem ofDocument_accepts_two_cells :
    exists maze, ofDocument twoCellsDescription = .ok maze ∧
      maze.items = [⟨⟨0, 1⟩, .carrot, true⟩, ⟨⟨0, 1⟩, .leaf, false⟩] ∧ maze.exit = some ⟨0, 0⟩ ∧
      maze.visited = [⟨0, 0⟩, ⟨0, 1⟩] ∧ maze.turtle = ⟨⟨0, 0⟩, .south⟩ ∧
      1 ≤ maze.rows ∧ 1 ≤ maze.columns ∧ maze.WellFormed ∧
      ofDocument maze.toDocument = .ok maze ∧ twoCellsDraft.Describes maze := by
  have hdraft : draftOf twoCellsDescription = .ok twoCellsDraft := rfl
  rcases toMaze_twoCellsDraft with ⟨maze, hchecked, hitems, hexit, hvisited, hturtle⟩
  have hmaze : ofDocument twoCellsDescription = .ok maze := by
    unfold ofDocument
    rw [hdraft]
    exact hchecked
  rcases ofDocument_accepts hmaze with
    ⟨hrows, hcolumns, hwell, hagain, draft, hread, hdescribes, _⟩
  cases hdraft.symm.trans hread
  exact ⟨maze, hmaze, hitems, hexit, hvisited, hturtle, hrows, hcolumns, hwell, hagain, hdescribes⟩

end Maze
end Mosaic
