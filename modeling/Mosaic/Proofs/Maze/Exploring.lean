import Mosaic.Proofs.Maze.Progress

/-!
# Exploring a maze

The cells that a turtle has been on hang together: from the start each of them is reached through
passages between visited cells.  A turtle that can leave the maze stands at the exit and looks at the
gap in the outer wall, because a maze that is generated has no other gap.
-/

namespace Mosaic
namespace Maze

def visitedWalls? (maze : Maze) (place : Position) : Option Walls :=
  if place ∈ maze.visited then maze.wallsAt? place else none

theorem isOpen_visitedWalls? {maze : Maze} {place : Position} {side : Side} :
    IsOpen maze.visitedWalls? place side ↔
      place ∈ maze.visited ∧ IsOpen maze.wallsAt? place side := by
  unfold IsOpen visitedWalls?
  by_cases hvisited : place ∈ maze.visited
  · simp [hvisited]
  · simp [hvisited]

structure Explored (maze : Maze) : Prop extends Walked maze where
  begun : maze.startCell ∈ maze.visited
  joined : forall place, place ∈ maze.visited ->
    Way maze.rows maze.columns maze.visitedWalls? maze.startCell place

/-- The turtle stands at the exit and looks at the gap in the outer wall. -/
structure Leaving (maze : Maze) : Prop where
  atExit : maze.exit = some maze.turtle.place
  gap : IsOpen maze.wallsAt? maze.turtle.place maze.turtle.heading.side
  outside : maze.beyond? maze.turtle.place maze.turtle.heading.side = none

/-!
## One step of the turtle
-/

theorem isOpen_of_walk {maze : Maze} (hknown : Run.walk maze ≠ .unknown)
    (hfree : Run.walk maze ≠ .blocked) :
    IsOpen maze.wallsAt? maze.turtle.place maze.turtle.heading.side := by
  unfold Run.walk at hknown hfree
  simp only at hknown hfree
  cases hwalls : maze.wallsAt? maze.turtle.place with
  | none =>
      rw [hwalls] at hknown
      exact absurd rfl hknown
  | some walls =>
      refine ⟨walls, hwalls, ?_⟩
      rw [hwalls] at hfree
      cases hside : walls.has maze.turtle.heading.side with
      | false => rfl
      | true => exact absurd (if_pos hside) hfree

theorem beyond?_of_left {maze : Maze} (h : Run.walk maze = .left) :
    maze.beyond? maze.turtle.place maze.turtle.heading.side = none := by
  unfold Run.walk at h
  simp only at h
  split at h
  · cases h
  · split at h
    · cases h
    · split at h
      · assumption
      · cases h

theorem outlined_of_layout {maze other : Maze} (h : maze.layout = other.layout)
    (hother : other.Outlined) : maze.Outlined := by
  have hexit : maze.exit = other.exit := congrArg Layout.exit h
  unfold Outlined at hother ⊢
  rwa [rows_of_layout h, columns_of_layout h, wallsAt?_of_layout h, hexit]

theorem leaving_of_left {maze : Maze} (houtlined : maze.Outlined) (h : Run.walk maze = .left) :
    maze.Leaving := by
  have hgap := isOpen_of_walk (by rw [h]; nofun) (by rw [h]; nofun)
  have houtside := beyond?_of_left h
  rcases houtlined _ _ hgap with ⟨next, hnext, _⟩ | ⟨hexit, _⟩
  · unfold beyond? at houtside
    rw [houtside] at hnext
    cases hnext
  · exact ⟨hexit, hgap, houtside⟩

theorem passage_of_moved {maze next : Maze} {points : Nat} (houtlined : maze.Outlined)
    (h : Run.walk maze = .moved next points) :
    Passage maze.rows maze.columns maze.wallsAt? maze.turtle.place next.turtle.place := by
  have hopen := isOpen_of_walk (by rw [h]; nofun) (by rw [h]; nofun)
  rcases moved_cases h with ⟨place, hbeyond, rfl, _⟩
  exact houtlined.passage hbeyond hopen

/-!
## Along a walk
-/

theorem explored_fresh {maze : Maze} (h : maze.Playable) : maze.fresh.Explored := by
  have hstart : maze.fresh.startCell = maze.startCell := rfl
  refine ⟨walked_fresh h, by simp [fresh, startCell], ?_⟩
  intro place hplace
  rw [hstart, List.mem_singleton.mp (show place ∈ [maze.startCell] from hplace)]
  exact Way.here

theorem explored_turned {maze : Maze} (h : maze.Explored) (quarters : Nat) :
    (maze.turned quarters).Explored :=
  ⟨⟨h.inside, h.here, h.picked⟩, h.begun, h.joined⟩

theorem explored_of_moved {maze next : Maze} {points : Nat} (h : maze.Explored)
    (houtlined : maze.Outlined) (hapart : (maze.items.map Item.place).Nodup)
    (hmoved : Run.walk maze = .moved next points) : next.Explored := by
  have hwalked := walked_of_moved h.toWalked hapart hmoved
  have hpassage := passage_of_moved houtlined hmoved
  rcases moved_cases hmoved with ⟨place, _, rfl, _⟩
  have hkept : forall cell, cell ∈ maze.visited -> cell ∈ (maze.entered place).visited :=
    fun cell hcell => Position.mem_insert.mpr (Or.inr hcell)
  have hopen : forall cell side, IsOpen maze.visitedWalls? cell side ->
      IsOpen (maze.entered place).visitedWalls? cell side := by
    intro cell side hcell
    rcases isOpen_visitedWalls?.mp hcell with ⟨hvisited, hside⟩
    exact isOpen_visitedWalls?.mpr ⟨hkept cell hvisited, hside⟩
  refine ⟨hwalked, hkept _ h.begun, ?_⟩
  intro cell hcell
  rcases Position.mem_insert.mp hcell with rfl | hbefore
  · rcases hpassage with ⟨side, hbeyond, hhere, hthere⟩
    have hway := (h.joined maze.turtle.place h.here).imp hopen
    refine hway.step ⟨side, hbeyond, ?_, ?_⟩
    · exact isOpen_visitedWalls?.mpr ⟨hkept _ h.here, hhere⟩
    · exact isOpen_visitedWalls?.mpr ⟨hwalked.here, hthere⟩
  · exact (h.joined cell hbefore).imp hopen

end Maze
end Mosaic
