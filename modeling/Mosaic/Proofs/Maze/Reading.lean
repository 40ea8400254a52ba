import Mosaic.Maze.Session
import Mosaic.Proofs.Attempts
import Mosaic.Proofs.Maze.Ascending
import Mosaic.Proofs.Maze.Cells

/-!
# Mazes and their documents

A maze in which everything lies inside is described by its document, and it is read from it again
just as it is.  Whatever maze is read from any document is of this kind.
-/

namespace Mosaic

namespace Maze

/-- A maze with a full rectangle of cells in which everything lies inside. -/
structure WellFormed (maze : Maze) : Prop where
  height : maze.walls.length = maze.rows
  width : forall line, line ∈ maze.walls -> line.length = maze.columns
  items : forall item, item ∈ maze.items -> item.place.Inside maze.rows maze.columns
  exit : forall place, maze.exit = some place -> place.Inside maze.rows maze.columns
  begun : maze.visited ≠ []
  visited : forall place, place ∈ maze.visited -> place.Inside maze.rows maze.columns
  ascending : Position.Ascending maze.visited
  turtle : maze.turtle.place.Inside maze.rows maze.columns

/-!
## Parts
-/

theorem wallsOf_wallsDocument (walls : Walls) : wallsOf (wallsDocument walls) = .ok walls := rfl

def itemDraft (item : Item) : ItemDraft where
  row := item.place.row
  column := item.place.column
  kind := item.kind.name
  collected := item.collected

theorem itemOf_itemDocument (item : Item) : itemOf (itemDocument item) = .ok (itemDraft item) := rfl

theorem pairOf_pairDocument (place : Position) :
    pairOf (pairDocument place) = .ok (place.row, place.column) := rfl

theorem turtleOf_turtleDocument (turtle : Turtle) :
    turtleOf (turtleDocument turtle) =
      .ok (turtle.place.row, turtle.place.column, turtle.heading.degrees) := by
  have hdegrees : (turtle.heading.degrees : Int) % 360 = turtle.heading.degrees := by
    cases turtle.heading with
    | _ => rfl
  show Except.ok ((turtle.place.row : Int), (turtle.place.column : Int),
    (turtle.heading.degrees : Int) % 360) = _
  rw [hdegrees]

/-!
## Descriptions
-/

def draft (maze : Maze) : Draft where
  rows := maze.rows
  columns := maze.columns
  walls := maze.walls
  items := maze.items.map itemDraft
  exit := maze.exit.map fun place => (place.row, place.column)
  visited := maze.visited.map fun place => (place.row, place.column)
  turtle := some (maze.turtle.place.row, maze.turtle.place.column, maze.turtle.heading.degrees)

theorem rowOf_document (line : List Walls) : rowOf (.list (line.map wallsDocument)) = .ok line := by
  have hline := Attempts.mapM_map_of_ok wallsDocument id line
    fun walls _ => wallsOf_wallsDocument walls
  rwa [List.map_id] at hline

theorem draftOf_toDocument (maze : Maze) : draftOf maze.toDocument = .ok maze.draft := by
  have hrows : wholePart maze.toDocument "rows" = .ok (maze.rows : Int) := rfl
  have hcolumns : wholePart maze.toDocument "cols" = .ok (maze.columns : Int) := rfl
  have hcells : part maze.toDocument "cells" =
      .ok (.list (maze.walls.map fun row => .list (row.map wallsDocument))) := rfl
  have hitems : partOr maze.toDocument "items" (.list []) =
      .ok (.list (maze.items.map itemDocument)) := rfl
  have hexit : partOr maze.toDocument "exit" .null = .ok (maze.exit.elim .null placeDocument) := rfl
  have hvisited : partOr maze.toDocument "visited" (.list []) =
      .ok (.list (maze.visited.map pairDocument)) := rfl
  have hturtle : partOr maze.toDocument "turtle" .null = .ok (turtleDocument maze.turtle) := rfl
  have hwalls := Attempts.mapM_map_of_ok (fun line => Document.list (line.map wallsDocument)) id
    maze.walls fun line _ => rowOf_document line
  have hdrafts := Attempts.mapM_map_of_ok itemDocument itemDraft maze.items
    fun item _ => itemOf_itemDocument item
  have hpairs := Attempts.mapM_map_of_ok pairDocument
    (fun place => ((place.row : Int), (place.column : Int))) maze.visited
    fun place _ => pairOf_pairDocument place
  rw [List.map_id] at hwalls
  unfold draftOf
  rw [hrows, hcolumns, hcells, hitems, hexit, hvisited, hturtle]
  simp only [bind, Except.bind, members, Document.members?, hwalls, hdrafts, hpairs,
    turtleOf_turtleDocument]
  unfold draft
  cases maze.exit with
  | none => rfl
  | some place => rfl

/-!
## Checks
-/

section Checks

variable {maze : Maze}

theorem holds_draft {place : Position} (h : place.Inside maze.rows maze.columns) :
    maze.draft.holds place.row place.column = true := by
  unfold Position.Inside at h
  unfold Draft.holds draft
  simp only [Bool.and_eq_true, decide_eq_true_eq]
  omega

theorem fitsSize_draft (h : maze.WellFormed) : maze.draft.fitsSize = true := by
  unfold Draft.fitsSize draft
  rw [Bool.and_eq_true, beq_iff_eq, h.height, List.all_eq_true]
  refine ⟨rfl, fun line hline => ?_⟩
  rw [beq_iff_eq, h.width line hline]

theorem mapM_item_draft (maze : Maze) : maze.draft.items.mapM Draft.item = .ok maze.items := by
  have hitem : forall item, item ∈ maze.items -> Draft.item (itemDraft item) = .ok item := by
    intro item _
    rcases item with ⟨place, kind, collected⟩
    cases kind with
    | leaf => rfl
    | carrot => rfl
  have hitems := Attempts.mapM_map_of_ok itemDraft id maze.items hitem
  rwa [List.map_id] at hitems

theorem visitedPlaces_draft (h : maze.WellFormed) :
    maze.draft.visitedPlaces = maze.visited.map fun place => ((place.row : Int), (place.column : Int)) := by
  have hnot : (maze.visited.map fun place => ((place.row : Int), (place.column : Int))).isEmpty =
      false := by
    rw [List.isEmpty_map, List.isEmpty_eq_false_iff]
    exact h.begun
  unfold Draft.visitedPlaces draft
  rw [hnot, if_neg Bool.false_ne_true]
  refine List.mergeSort_of_pairwise (List.pairwise_map.mpr (h.ascending.imp ?_))
  intro place next hbefore
  rw [Position.isBefore_iff] at hbefore
  unfold pairAtMost
  simp only [Bool.or_eq_true, Bool.and_eq_true, decide_eq_true_eq, beq_iff_eq]
  omega

theorem find?_places_draft (h : maze.WellFormed) :
    maze.draft.places.find? (fun (_, row, column) => !maze.draft.holds row column) = none := by
  rw [List.find?_eq_none]
  intro entry hentry
  have hinside : maze.draft.holds entry.2.1 entry.2.2 = true := by
    unfold Draft.places at hentry
    rw [visitedPlaces_draft h] at hentry
    simp only [List.mem_append, List.mem_map, List.mem_singleton, Option.mem_toList] at hentry
    rcases hentry with ((⟨described, hitem, rfl⟩ | ⟨pair, ⟨place, hplace, rfl⟩, rfl⟩) | rfl) |
      ⟨pair, hexit, rfl⟩
    · rcases List.mem_map.mp hitem with ⟨item, hmem, rfl⟩
      exact holds_draft (h.items item hmem)
    · exact holds_draft (h.visited place hplace)
    · exact holds_draft h.turtle
    · rcases Option.map_eq_some_iff.mp hexit with ⟨place, hplace, rfl⟩
      exact holds_draft (h.exit place hplace)
  rcases entry with ⟨label, row, column⟩
  simp only at hinside ⊢
  rw [hinside]
  decide

theorem toMaze_draft (h : maze.WellFormed) : maze.draft.toMaze = .ok maze := by
  have hexit : (maze.exit.map fun place => ((place.row : Int), (place.column : Int))).map
      (fun place => Draft.position place.1 place.2) = maze.exit := by
    cases maze.exit with
    | none => rfl
    | some place => rfl
  have hvisited : Position.sorted ((maze.visited.map fun place =>
      ((place.row : Int), (place.column : Int))).map fun place => Draft.position place.1 place.2) =
        maze.visited := by
    rw [List.map_map]
    exact (congrArg Position.sorted (List.map_id maze.visited)).trans
      (Position.sorted_of_ascending h.ascending)
  unfold Draft.toMaze
  rw [fitsSize_draft h, mapM_item_draft, find?_places_draft h, visitedPlaces_draft h, hvisited]
  simp only [Bool.not_true, Bool.false_eq_true, if_false, bind, Except.bind]
  have hheading : Heading.ofDegrees? maze.draft.turtlePlace.2.2 = some maze.turtle.heading :=
    Heading.ofDegrees?_degrees maze.turtle.heading
  rw [hheading]
  exact congrArg (fun exit => Except.ok { maze with exit := exit }) hexit

end Checks

/-- A well-formed maze is read from its document. -/
theorem ofDocument_toDocument {maze : Maze} (h : maze.WellFormed) :
    ofDocument maze.toDocument = .ok maze := by
  unfold ofDocument
  rw [draftOf_toDocument]
  exact toMaze_draft h

/-!
## Mazes that are read
-/

theorem toMaze_eq_ok {draft : Draft} {maze : Maze} (h : draft.toMaze = .ok maze) :
    draft.fitsSize = true ∧
      draft.places.find? (fun (_, row, column) => !draft.holds row column) = none ∧
        exists items heading, draft.items.mapM Draft.item = .ok items ∧
          Heading.ofDegrees? draft.turtlePlace.2.2 = some heading ∧ maze = {
          rows := draft.rows.toNat
          columns := draft.columns.toNat
          walls := draft.walls
          items := items
          exit := draft.exit.map fun place => Draft.position place.1 place.2
          visited := Position.sorted
            (draft.visitedPlaces.map fun place => Draft.position place.1 place.2)
          turtle := ⟨Draft.position draft.turtlePlace.1 draft.turtlePlace.2.1, heading⟩ } := by
  unfold Draft.toMaze at h
  simp only at h
  split at h
  · cases h
  · rename_i hfits
    rcases Attempts.bind_eq_ok_iff.mp h with ⟨items, hitems, h⟩
    split at h
    · cases h
    · rename_i hinside
      split at h
      · cases h
      · rename_i heading hheading
        refine ⟨by simpa using hfits, hinside, items, heading, hitems, hheading, ?_⟩
        exact (Attempts.pure_eq_ok_iff.mp h).symm

section Places

variable {draft : Draft}

theorem item_mem_places {described : ItemDraft} (h : described ∈ draft.items) :
    ("item", described.row, described.column) ∈ draft.places :=
  List.mem_append_left _ (List.mem_append_left _ (List.mem_append_left _
    (List.mem_map.mpr ⟨described, h, rfl⟩)))

theorem visited_mem_places {place : Int × Int} (h : place ∈ draft.visitedPlaces) :
    ("visited cell", place.1, place.2) ∈ draft.places :=
  List.mem_append_left _ (List.mem_append_left _ (List.mem_append_right _
    (List.mem_map.mpr ⟨place, h, rfl⟩)))

theorem turtle_mem_places (draft : Draft) :
    ("turtle", draft.turtlePlace.1, draft.turtlePlace.2.1) ∈ draft.places :=
  List.mem_append_left _ (List.mem_append_right _ (List.mem_singleton.mpr rfl))

theorem exit_mem_places {place : Int × Int} (h : draft.exit = some place) :
    ("exit", place.1, place.2) ∈ draft.places :=
  List.mem_append_right _ (List.mem_map.mpr ⟨place, Option.mem_toList.mpr h, rfl⟩)

end Places

theorem held_of_find? {draft : Draft}
    (h : draft.places.find? (fun (_, row, column) => !draft.holds row column) = none)
    {label : String} {row column : Int} (hmem : (label, row, column) ∈ draft.places) :
    0 ≤ row ∧ row < draft.rows ∧ 0 ≤ column ∧ column < draft.columns := by
  have hheld := List.find?_eq_none.mp h _ hmem
  unfold Draft.holds at hheld
  simp only [Bool.not_eq_true, Bool.not_eq_false', Bool.and_eq_true, decide_eq_true_eq] at hheld
  omega

theorem place_of_item {described : ItemDraft} {item : Item}
    (h : Draft.item described = .ok item) :
    item.place = Draft.position described.row described.column := by
  unfold Draft.item at h
  split at h
  · cases h
    rfl
  · cases h

theorem visitedPlaces_ne_nil (draft : Draft) : draft.visitedPlaces ≠ [] := by
  unfold Draft.visitedPlaces
  split
  · exact List.cons_ne_nil _ _
  · rename_i hgiven
    intro hnil
    have hlength := congrArg List.length hnil
    rw [List.length_mergeSort] at hlength
    rw [List.length_eq_zero_iff.mp hlength] at hgiven
    exact hgiven rfl

/-- Every maze that is read is well formed. -/
theorem wellFormed_of_toMaze {draft : Draft} {maze : Maze} (h : draft.toMaze = .ok maze) :
    maze.WellFormed := by
  rcases toMaze_eq_ok h with ⟨hfits, hplaces, items, heading, hitems, _, rfl⟩
  have hinside : forall label row column, (label, row, column) ∈ draft.places ->
      (Draft.position row column).Inside draft.rows.toNat draft.columns.toNat := by
    intro label row column hmem
    have hheld := held_of_find? hplaces hmem
    unfold Position.Inside Draft.position
    simp only
    omega
  unfold Draft.fitsSize at hfits
  rw [Bool.and_eq_true, beq_iff_eq, List.all_eq_true] at hfits
  constructor
  · show draft.walls.length = draft.rows.toNat
    omega
  · intro line hline
    have hwidth := hfits.right line hline
    rw [beq_iff_eq] at hwidth
    show line.length = draft.columns.toNat
    omega
  · intro item hitem
    rcases Attempts.exists_of_mapM_eq_ok hitems hitem with ⟨described, hmem, hread⟩
    rw [place_of_item hread]
    exact hinside _ _ _ (item_mem_places hmem)
  · intro place hexit
    rcases Option.map_eq_some_iff.mp hexit with ⟨pair, hpair, rfl⟩
    exact hinside _ _ _ (exit_mem_places hpair)
  · rcases List.exists_mem_of_ne_nil _ (visitedPlaces_ne_nil draft) with ⟨pair, hpair⟩
    exact List.ne_nil_of_mem (Position.mem_sorted.mpr (List.mem_map.mpr ⟨pair, hpair, rfl⟩))
  · intro place hplace
    rcases List.mem_map.mp (Position.mem_sorted.mp hplace) with ⟨pair, hpair, rfl⟩
    exact hinside _ _ _ (visited_mem_places hpair)
  · exact Position.ascending_sorted _
  · exact hinside _ _ _ (turtle_mem_places draft)

theorem wellFormed_of_ofDocument {value : Document} {maze : Maze} (h : ofDocument value = .ok maze) :
    maze.WellFormed := by
  rcases Attempts.bind_eq_ok_iff.mp h with ⟨draft, _, hdraft⟩
  exact wellFormed_of_toMaze hdraft

theorem wellFormed_of_loadSession {text code : String} {maze : Maze}
    (h : loadSession text = .ok (code, maze)) : maze.WellFormed := by
  unfold loadSession at h
  split at h
  · cases h
  · cases h
  · split at h
    · rcases Attempts.bind_eq_ok_iff.mp h with ⟨found, hfound, hpure⟩
      cases Attempts.pure_eq_ok_iff.mp hpure
      exact wellFormed_of_ofDocument hfound
    · cases h
  · cases h

end Maze
end Mosaic
