import Mosaic.Proofs.Maze.Reading
import Mosaic.Proofs.Run.Playing

/-!
# Runs in mazes that keep their order

Wherever a turtle goes it stays inside, and so does all else in its maze: nothing that is done with a
run puts a cell, an item or the turtle outside.  A run in a maze has no target besides the maze.
-/

namespace Mosaic
namespace Maze

variable {maze other : Maze}

theorem WellFormed.of_layout (h : maze.WellFormed) (hlayout : other.layout = maze.layout)
    (hbegun : other.visited ≠ [])
    (hvisited : forall place, place ∈ other.visited -> place.Inside maze.rows maze.columns)
    (hascending : Position.Ascending other.visited)
    (hturtle : other.turtle.place.Inside maze.rows maze.columns) : other.WellFormed := by
  have hwalls : other.walls = maze.walls := congrArg Layout.walls hlayout
  have hexit : other.exit = maze.exit := congrArg Layout.exit hlayout
  have hrows := rows_of_layout hlayout
  have hcolumns := columns_of_layout hlayout
  constructor
  · rw [hwalls, hrows]
    exact h.height
  · rw [hwalls, hcolumns]
    exact h.width
  · intro item hitem
    have hplace : item.place ∈ maze.items.map Item.place := by
      rw [← places_of_layout hlayout]
      exact List.mem_map_of_mem hitem
    rcases List.mem_map.mp hplace with ⟨there, hthere, hsame⟩
    rw [hrows, hcolumns, ← hsame]
    exact h.items there hthere
  · rw [hexit, hrows, hcolumns]
    exact h.exit
  · exact hbegun
  · rw [hrows, hcolumns]
    exact hvisited
  · exact hascending
  · rw [hrows, hcolumns]
    exact hturtle

theorem wellFormed_turned (h : maze.WellFormed) (quarters : Nat) : (maze.turned quarters).WellFormed :=
  h.of_layout (layout_turned maze quarters) h.begun h.visited h.ascending h.turtle

theorem wellFormed_of_moved {points : Nat} (h : maze.WellFormed)
    (hmoved : Run.walk maze = .moved other points) : other.WellFormed := by
  rcases moved_cases hmoved with ⟨place, hbeyond, rfl, _⟩
  have hinside := Position.inside_of_beyond? h.turtle hbeyond
  refine h.of_layout (layout_entered maze place) ?_ ?_ (Position.ascending_insert h.ascending) hinside
  · exact List.ne_nil_of_mem (Position.mem_insert.mpr (Or.inl rfl))
  · intro cell hcell
    rcases Position.mem_insert.mp hcell with rfl | hbefore
    · exact hinside
    · exact h.visited cell hbefore

theorem wellFormed_fresh (hheight : maze.walls.length = maze.rows)
    (hwidth : forall line, line ∈ maze.walls -> line.length = maze.columns)
    (hitems : forall item, item ∈ maze.items -> item.place.Inside maze.rows maze.columns)
    (hexit : forall place, maze.exit = some place -> place.Inside maze.rows maze.columns)
    (hstart : maze.startCell.Inside maze.rows maze.columns) : maze.fresh.WellFormed := by
  constructor
  · exact hheight
  · exact hwidth
  · intro item hitem
    rcases List.mem_map.mp hitem with ⟨before, hbefore, rfl⟩
    exact hitems before hbefore
  · exact hexit
  · exact List.cons_ne_nil _ _
  · intro place hplace
    rw [List.mem_singleton.mp hplace]
    exact hstart
  · exact List.pairwise_singleton _ _
  · exact hstart

theorem WellFormed.startInside (h : maze.WellFormed) :
    maze.startCell.Inside maze.rows maze.columns := by
  rcases h.turtle with ⟨hrow, hcolumn⟩
  constructor
  · exact Nat.div_lt_self (Nat.zero_lt_of_lt hrow) (by decide)
  · exact Nat.div_lt_self (Nat.zero_lt_of_lt hcolumn) (by decide)

theorem WellFormed.fresh (h : maze.WellFormed) : maze.fresh.WellFormed :=
  wellFormed_fresh h.height h.width h.items h.exit h.startInside

theorem Playable.wellFormed_fresh (h : maze.Playable) : maze.fresh.WellFormed := by
  refine Maze.wellFormed_fresh h.height h.width (fun item hitem => (h.placed item hitem).left) ?_ h.start
  intro place hplace
  rcases h.exit with ⟨there, _, hthere, hinside, _⟩
  rw [hplace] at hthere
  cases hthere
  exact hinside

end Maze

namespace Run

theorem lasting_wellFormed : Lasting Maze.WellFormed fun _ => True where
  turned quarters h := Maze.wellFormed_turned h quarters
  moved h hmoved := Maze.wellFormed_of_moved h hmoved
  fresh h := h.fresh
  left _ _ := trivial

/-- A run in a maze in which everything lies inside, with the score of what is collected and without
a target. -/
structure Orderly (run : Run) : Prop extends Playing Maze.WellFormed (fun _ => True) run where
  target : run.target = none
  targetCode : run.targetCode = none

theorem steady_orderly : Steady Orderly where
  command {run} command hgoing h := by
    have hframe := frame_applyCommand run command
    exact ⟨playing_applyCommand lasting_wellFormed command hgoing h.toPlaying,
      hframe.target.trans h.target, hframe.targetCode.trans h.targetCode⟩
  counted _ h := ⟨⟨h.mode, h.now⟩, h.target, h.targetCode⟩
  entered _ h := ⟨⟨h.mode, h.now⟩, h.target, h.targetCode⟩
  flagged _ h := ⟨⟨h.mode, h.now⟩, h.target, h.targetCode⟩
  failed problem h := ⟨(steady_playing lasting_wellFormed).failed problem h.toPlaying, h.target,
    h.targetCode⟩
  finished h := ⟨(steady_playing lasting_wellFormed).finished h.toPlaying, h.target, h.targetCode⟩

def Tidy (run : Run) : Prop := run.mode = .maze -> run.Orderly

theorem steady_tidy : Steady Tidy := steady_orderly.inMode .maze

section Tidy

variable {run after : Run} {maze : Maze}

theorem tidy_of_mode (h : run.mode ≠ .maze) : run.Tidy := fun hmode => absurd hmode h

theorem tidy_start (h : maze.fresh.WellFormed) : (start .maze (some maze)).Tidy := by
  intro _
  exact ⟨playing_start h, rfl, rfl⟩

theorem tidy_load {source : String} {asTarget : Bool} (h : run.Tidy)
    (hload : run.load source asTarget = .ok after) : after.Tidy := by
  rcases load_cases hload with ⟨problem, _, rfl⟩ | ⟨program, _, rfl | ⟨hother, target, rfl⟩⟩
  · intro hmode
    have horderly := h hmode
    exact ⟨⟨horderly.mode, horderly.now⟩, horderly.target, horderly.targetCode⟩
  · intro hmode
    have horderly := h hmode
    exact ⟨playing_load lasting_wellFormed horderly.toPlaying hload, horderly.target,
      horderly.targetCode⟩
  · exact tidy_of_mode hother

theorem tidy_reset_none (h : run.Tidy) : (run.reset none).Tidy := by
  intro hmode
  have horderly := h hmode
  exact ⟨playing_reset_none lasting_wellFormed horderly.toPlaying, horderly.target,
    horderly.targetCode⟩

theorem tidy_reset_some (h : run.Tidy) (hmaze : maze.fresh.WellFormed) :
    (run.reset (some maze)).Tidy := by
  intro hmode
  have horderly := h hmode
  exact ⟨playing_reset_some hmode hmaze, horderly.target, horderly.targetCode⟩

theorem tidy_with_maze (h : run.Tidy) (hmaze : maze.WellFormed) :
    Tidy { run with maze := some maze, mazeScore := maze.collectedValue } := by
  intro hmode
  have horderly := h hmode
  exact ⟨⟨hmode, maze, rfl, hmaze, rfl, fun _ => trivial⟩, horderly.target, horderly.targetCode⟩

theorem tidy_event {event : Event} (h : run.Tidy)
    (hmaze : forall maze, event = .reset (some maze) -> maze.fresh.WellFormed)
    (hafter : event.on run = .ok after) : after.Tidy := by
  refine steady_tidy.enduring.event h (fun _ _ _ hload => tidy_load h hload) ?_ hafter
  rintro (_ | maze) rfl
  · exact tidy_reset_none h
  · exact tidy_reset_some h (hmaze maze rfl)

end Tidy

end Run
end Mosaic
