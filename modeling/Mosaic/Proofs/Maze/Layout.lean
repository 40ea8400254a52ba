import Mosaic.Run.Execution

/-!
# The layout of a maze

A turtle on its way turns, moves, visits cells and collects items.  What it never changes is the
layout: the size, the walls, the exit, and where items of which kind were put.
-/

namespace Mosaic
namespace Maze

/-- A maze without the progress made in it. -/
structure Layout where
  rows : Nat
  columns : Nat
  walls : List (List Walls)
  items : List (Position × ItemKind)
  exit : Option Position
  deriving DecidableEq, Repr

def layout (maze : Maze) : Layout where
  rows := maze.rows
  columns := maze.columns
  walls := maze.walls
  items := maze.items.map fun item => (item.place, item.kind)
  exit := maze.exit

@[simp] theorem layout_fresh (maze : Maze) : maze.fresh.layout = maze.layout := by
  unfold layout fresh
  rw [List.map_map]
  rfl

@[simp] theorem layout_turned (maze : Maze) (quarters : Nat) :
    (maze.turned quarters).layout = maze.layout := rfl

theorem map_collectAt (place : Position) (items : List Item) :
    (collectAt place items).map (fun item => (item.place, item.kind)) =
      items.map fun item => (item.place, item.kind) := by
  induction items with
  | nil => rfl
  | cons item rest ih =>
      rw [collectAt]
      split
      · rfl
      · rw [List.map_cons, List.map_cons, ih]

@[simp] theorem layout_entered (maze : Maze) (place : Position) :
    (maze.entered place).layout = maze.layout := by
  unfold layout entered
  rw [map_collectAt]

/-!
## One step of the turtle
-/

theorem moved_cases {maze next : Maze} {points : Nat} (h : Run.walk maze = .moved next points) :
    exists place, maze.beyond? maze.turtle.place maze.turtle.heading.side = some place ∧
      next = maze.entered place ∧
      points = (maze.itemAt? place).elim 0 fun item => item.kind.value := by
  unfold Run.walk at h
  simp only at h
  split at h
  · cases h
  · split at h
    · cases h
    · split at h
      · cases h
      · rename_i place hbeyond
        cases h
        exact ⟨place, hbeyond, rfl, rfl⟩

theorem walk_eq_moved {maze : Maze} {walls : Walls} {next : Position}
    (hwalls : maze.wallsAt? maze.turtle.place = some walls)
    (hopen : walls.has maze.turtle.heading.side = false)
    (hbeyond : maze.beyond? maze.turtle.place maze.turtle.heading.side = some next) :
    Run.walk maze = .moved (maze.entered next)
      ((maze.itemAt? next).elim 0 fun item => item.kind.value) := by
  unfold Run.walk
  simp only [hwalls, hopen, hbeyond]
  rfl

theorem walk_eq_left {maze : Maze} {walls : Walls}
    (hwalls : maze.wallsAt? maze.turtle.place = some walls)
    (hopen : walls.has maze.turtle.heading.side = false)
    (hbeyond : maze.beyond? maze.turtle.place maze.turtle.heading.side = none) :
    Run.walk maze = .left := by
  unfold Run.walk
  simp only [hwalls, hopen, hbeyond]
  rfl

theorem layout_of_moved {maze next : Maze} {points : Nat}
    (h : Run.walk maze = .moved next points) : next.layout = maze.layout := by
  rcases moved_cases h with ⟨place, _, rfl, _⟩
  exact layout_entered maze place

/-!
## Equal layouts
-/

theorem rows_of_layout {maze other : Maze} (h : maze.layout = other.layout) :
    maze.rows = other.rows := congrArg Layout.rows h

theorem columns_of_layout {maze other : Maze} (h : maze.layout = other.layout) :
    maze.columns = other.columns := congrArg Layout.columns h

theorem wallsAt?_of_layout {maze other : Maze} (h : maze.layout = other.layout) :
    maze.wallsAt? = other.wallsAt? := by
  have hwalls : maze.walls = other.walls := congrArg Layout.walls h
  funext place
  unfold wallsAt?
  rw [hwalls]

theorem beyond?_of_layout {maze other : Maze} (h : maze.layout = other.layout) :
    maze.beyond? = other.beyond? := by
  funext place side
  unfold beyond?
  rw [rows_of_layout h, columns_of_layout h]

theorem places_of_layout {maze other : Maze} (h : maze.layout = other.layout) :
    maze.items.map Item.place = other.items.map Item.place := by
  have hitems := congrArg (fun layout => layout.items.map Prod.fst) h
  unfold layout at hitems
  simpa only [List.map_map, Function.comp_def] using hitems

theorem kinds_of_layout {maze other : Maze} (h : maze.layout = other.layout) :
    maze.items.map Item.kind = other.items.map Item.kind := by
  have hitems := congrArg (fun layout => layout.items.map Prod.snd) h
  unfold layout at hitems
  simpa only [List.map_map, Function.comp_def] using hitems

theorem maxScore_eq_kinds (maze : Maze) :
    maze.maxScore = ((maze.items.map Item.kind).map ItemKind.value).foldr (· + ·) 0 := by
  unfold maxScore
  rw [List.map_map]
  rfl

theorem maxScore_of_layout {maze other : Maze} (h : maze.layout = other.layout) :
    maze.maxScore = other.maxScore := by
  rw [maxScore_eq_kinds, maxScore_eq_kinds, kinds_of_layout h]

end Maze
end Mosaic
