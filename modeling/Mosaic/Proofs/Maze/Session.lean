import Mosaic.Proofs.Document.RoundTrip
import Mosaic.Proofs.Maze.Reading

/-!
# Sessions that are saved and loaded

A program text and a maze are saved together, and loading gives both again.  Nothing can go wrong but
a size of more digits than are written, and no maze has that many cells in a row.
-/

namespace Mosaic
namespace Maze

open Document (Exact exact_record rejoined_of_isPlainName)

/-!
## The document of a maze
-/

theorem exact_wallsDocument (walls : Walls) : Exact (wallsDocument walls) := by
  refine exact_record ["top", "right", "bottom", "left"] rfl (by decide) (by decide) ?_
  simp only [List.map_cons, List.map_nil, List.forall_mem_cons]
  exact ⟨.bool _, .bool _, .bool _, .bool _, nofun⟩

theorem exact_itemDocument (item : Item) : Exact (itemDocument item) := by
  refine exact_record ["r", "c", "type", "collected"] rfl (by decide) (by decide) ?_
  simp only [List.map_cons, List.map_nil, List.forall_mem_cons]
  refine ⟨.whole _, .whole _, .text ?_, .bool _, nofun⟩
  cases item.kind with
  | leaf => exact rejoined_of_isPlainName (by decide)
  | carrot => exact rejoined_of_isPlainName (by decide)

theorem exact_placeDocument (place : Position) : Exact (placeDocument place) := by
  refine exact_record ["r", "c"] rfl (by decide) (by decide) ?_
  simp only [List.map_cons, List.map_nil, List.forall_mem_cons]
  exact ⟨.whole _, .whole _, nofun⟩

theorem exact_pairDocument (place : Position) : Exact (pairDocument place) := by
  refine Exact.list ?_
  simp only [List.forall_mem_cons]
  exact ⟨.whole _, .whole _, nofun⟩

theorem exact_turtleDocument (turtle : Turtle) : Exact (turtleDocument turtle) := by
  refine exact_record ["r", "c", "heading"] rfl (by decide) (by decide) ?_
  simp only [List.map_cons, List.map_nil, List.forall_mem_cons]
  exact ⟨.whole _, .whole _, .whole _, nofun⟩

theorem exact_list_map {α : Type} {document : α -> Document} (h : forall item, Exact (document item))
    (items : List α) : Exact (.list (items.map document)) := by
  refine Exact.list fun value hvalue => ?_
  rcases List.mem_map.mp hvalue with ⟨item, _, rfl⟩
  exact h item

theorem exact_toDocument (maze : Maze) : Exact maze.toDocument := by
  refine exact_record ["rows", "cols", "cells", "items", "exit", "visited", "turtle"] rfl (by decide)
    (by decide) ?_
  simp only [List.map_cons, List.map_nil, List.forall_mem_cons]
  refine ⟨.whole _, .whole _, ?_, exact_list_map exact_itemDocument _, ?_,
    exact_list_map exact_pairDocument _, exact_turtleDocument _, nofun⟩
  · exact exact_list_map (fun line => exact_list_map exact_wallsDocument line) _
  · cases maze.exit with
    | none => exact Exact.null
    | some place => exact exact_placeDocument place

/-!
## Numbers that can be written
-/

/-- A maze whose numbers of rows and of columns are short enough to be written.  Every maze that
has a place in some memory is one: no list has a number of members with thousands of digits. -/
def HasWritableSize (maze : Maze) : Prop :=
  maze.rows < Nat.pow 10 Text.digitLimit ∧ maze.columns < Nat.pow 10 Text.digitLimit

open Document (isWritable_record_iff isWritable_list_iff)

theorem isWritable_count {n : Nat} (h : n < Nat.pow 10 Text.digitLimit) :
    (count n).isWritable = true := by
  unfold count
  rw [Document.isWritable, decide_eq_true_eq, Int.natAbs_natCast]
  exact h

theorem isWritable_wallsDocument (walls : Walls) : (wallsDocument walls).isWritable = true := by
  refine isWritable_record_iff.mpr ?_
  simp only [List.forall_mem_cons]
  exact ⟨rfl, rfl, rfl, rfl, nofun⟩

theorem isWritable_list_map {α : Type} {document : α -> Document} {items : List α}
    (h : forall item, item ∈ items -> (document item).isWritable = true) :
    (Document.list (items.map document)).isWritable = true := by
  refine isWritable_list_iff.mpr fun value hvalue => ?_
  rcases List.mem_map.mp hvalue with ⟨item, hitem, rfl⟩
  exact h item hitem

section Writable

variable {maze : Maze}

theorem HasWritableSize.place (h : maze.HasWritableSize) {place : Position}
    (hplace : place.Inside maze.rows maze.columns) :
    (count place.row).isWritable = true ∧ (count place.column).isWritable = true :=
  ⟨isWritable_count (Nat.lt_trans hplace.left h.left),
    isWritable_count (Nat.lt_trans hplace.right h.right)⟩

theorem hasWritableSize_of_lt_ten (hrows : maze.rows < 10) (hcolumns : maze.columns < 10) :
    maze.HasWritableSize := by
  have hsize := @Text.pow_ten_le 1 Text.digitLimit (by decide)
  exact ⟨Nat.lt_of_lt_of_le hrows hsize, Nat.lt_of_lt_of_le hcolumns hsize⟩

theorem isWritable_toDocument (hwell : maze.WellFormed) (h : maze.HasWritableSize) :
    maze.toDocument.isWritable = true := by
  have hdegrees : (count maze.turtle.heading.degrees).isWritable = true := by
    refine isWritable_count (Nat.lt_of_lt_of_le ?_ (@Text.pow_ten_le 3 _ (by decide)))
    cases maze.turtle.heading with
    | _ => decide
  refine isWritable_record_iff.mpr ?_
  simp only [List.forall_mem_cons]
  refine ⟨isWritable_count h.left, isWritable_count h.right, ?_, ?_, ?_, ?_, ?_, nofun⟩
  · refine isWritable_list_map fun line _ => isWritable_list_map fun walls _ => ?_
    exact isWritable_wallsDocument walls
  · refine isWritable_list_map fun item hitem => isWritable_record_iff.mpr ?_
    rcases h.place (hwell.items item hitem) with ⟨hrow, hcolumn⟩
    simp only [List.forall_mem_cons]
    exact ⟨hrow, hcolumn, rfl, rfl, nofun⟩
  · cases hexit : maze.exit with
    | none => rfl
    | some place =>
        rcases h.place (hwell.exit place hexit) with ⟨hrow, hcolumn⟩
        refine isWritable_record_iff.mpr ?_
        simp only [List.forall_mem_cons]
        exact ⟨hrow, hcolumn, nofun⟩
  · refine isWritable_list_map fun place hplace => isWritable_list_iff.mpr ?_
    rcases h.place (hwell.visited place hplace) with ⟨hrow, hcolumn⟩
    simp only [List.forall_mem_cons]
    exact ⟨hrow, hcolumn, nofun⟩
  · rcases h.place hwell.turtle with ⟨hrow, hcolumn⟩
    refine isWritable_record_iff.mpr ?_
    simp only [List.forall_mem_cons]
    exact ⟨hrow, hcolumn, hdegrees, nofun⟩

end Writable

/-!
## Saving and loading
-/

def sessionDocument (code : String) (maze : Maze) : Document :=
  .record [("code", .text code), ("maze", maze.toDocument)]

theorem saveSession_rejoined (code : String) (maze : Maze) :
    saveSession (Text.rejoined code) maze = saveSession code maze := by
  unfold saveSession Document.write
  simp only [Document.written, Document.writtenText_rejoined]

theorem exact_sessionDocument {code : String} (h : Text.rejoined code = code) (maze : Maze) :
    Exact (sessionDocument code maze) := by
  refine exact_record ["code", "maze"] rfl (by decide) (by decide) ?_
  simp only [List.map_cons, List.map_nil, List.forall_mem_cons]
  exact ⟨.text h, exact_toDocument maze, nofun⟩

theorem isWritable_sessionDocument (code : String) {maze : Maze}
    (h : maze.toDocument.isWritable = true) : (sessionDocument code maze).isWritable = true := by
  refine isWritable_record_iff.mpr ?_
  simp only [List.forall_mem_cons]
  exact ⟨rfl, h, nofun⟩

theorem loadSession_of_read {text code : String} {maze : Maze} (hwell : maze.WellFormed)
    (h : Document.read text = .ok (sessionDocument code maze)) :
    loadSession text = .ok (code, maze) := by
  unfold loadSession
  rw [h]
  show (ofDocument maze.toDocument >>= fun found => pure (code, found)) = _
  rw [ofDocument_toDocument hwell]
  rfl

theorem loadSession_of_numeral {text : String} {fault : Text.NumeralFault}
    (h : Document.read text = .error (.numeral fault)) :
    loadSession text = .error (.numeral fault) := by
  unfold loadSession
  rw [h]

/-- What is loaded from a saved session is what was saved, if anything is loaded. -/
theorem eq_of_loadSession {code found : String} {maze other : Maze} (hwell : maze.WellFormed)
    (h : loadSession (saveSession code maze) = .ok (found, other)) :
    found = Text.rejoined code ∧ other = maze := by
  rw [← saveSession_rejoined] at h
  have hexact := exact_sessionDocument (Text.rejoined_rejoined code) maze
  rcases Document.read_write hexact with hread | ⟨_, fault, hfault⟩
  · have hload : loadSession (saveSession (Text.rejoined code) maze) = _ :=
      loadSession_of_read hwell hread
    rw [hload] at h
    cases h
    exact ⟨rfl, rfl⟩
  · have hload : loadSession (saveSession (Text.rejoined code) maze) = _ :=
      loadSession_of_numeral hfault
    rw [hload] at h
    cases h

theorem loadSession_of_rejoined {code : String} {maze : Maze} (hcode : Text.rejoined code = code)
    (hwell : maze.WellFormed) (hsize : maze.HasWritableSize) :
    loadSession (saveSession code maze) = .ok (code, maze) := by
  have hexact := exact_sessionDocument hcode maze
  have hwritable := isWritable_sessionDocument code (isWritable_toDocument hwell hsize)
  rcases Document.read_write hexact with hread | ⟨hlong, _⟩
  · exact loadSession_of_read hwell hread
  · rw [hwritable] at hlong
    cases hlong

/-- Saving a text and a maze in which everything lies inside, and loading them again, gives both as
they were. -/
theorem loadSession_saveSession (text : String) {maze : Maze} (hwell : maze.WellFormed)
    (hsize : maze.HasWritableSize) :
    loadSession (saveSession (Text.held text) maze) = .ok (Text.held text, maze) :=
  loadSession_of_rejoined (Text.rejoined_held text) hwell hsize

/-!
## Two cells
-/

/-- Two cells side by side, with the exit on the left and a carrot that has been collected on the
right. -/
def twoCells : Maze where
  rows := 1
  columns := 2
  walls := [[Walls.closed.opened .right, Walls.closed.opened .left]]
  items := [⟨⟨0, 1⟩, .carrot, true⟩]
  exit := some ⟨0, 0⟩
  visited := [⟨0, 0⟩, ⟨0, 1⟩]
  turtle := ⟨⟨0, 1⟩, .west⟩

theorem wellFormed_twoCells : twoCells.WellFormed := by
  refine ⟨rfl, by decide, by decide, ?_, by decide, by decide, ?_, by decide⟩
  · intro place hexit
    cases hexit
    decide
  · unfold Position.Ascending
    decide

theorem hasWritableSize_twoCells : twoCells.HasWritableSize :=
  hasWritableSize_of_lt_ten (by decide) (by decide)

/-- Two cells, the exit in the corner and the only item collected, and a text with a quote, a line
feed and a character beyond U+10000. -/
theorem loadSession_saveSession_two_cells :
    exists maze : Maze, maze.exit = some ⟨0, 0⟩ ∧ maze.items = [⟨⟨0, 1⟩, .carrot, true⟩] ∧
      maze.visited = [⟨0, 0⟩, ⟨0, 1⟩] ∧
      loadSession (saveSession (Text.held "ruota 2\n\"🐢") maze) =
        .ok (Text.held "ruota 2\n\"🐢", maze) :=
  ⟨twoCells, rfl, rfl, rfl,
    loadSession_saveSession _ wellFormed_twoCells hasWritableSize_twoCells⟩

end Maze
end Mosaic
