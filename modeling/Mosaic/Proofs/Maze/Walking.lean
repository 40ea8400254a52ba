import Mosaic.Proofs.Maze.Progress

/-!
# Walks through a maze

A turtle that turns and moves one cell at a time gets wherever a way through passages leads.  What it
visits stays visited, and it collects the items of the cells that it visits and no others.  So from
its start it gets to see any cells of a maze that can be played.
-/

namespace Mosaic

/-- What the turtle does on a walk: a quarter turn to the left, or a move to the next cell. -/
inductive Stride
  | turn
  | advance
  deriving DecidableEq, Repr

namespace Maze

/-- A walk that stays in a maze and never runs into a wall. -/
inductive Walks : Maze -> List Stride -> Maze -> Prop
  | stay (maze : Maze) : Walks maze [] maze
  | turn {maze last : Maze} {strides : List Stride} (rest : Walks (maze.turned 1) strides last) :
      Walks maze (.turn :: strides) last
  | advance {maze next last : Maze} {points : Nat} {strides : List Stride}
      (free : Run.walk maze = .moved next points) (rest : Walks next strides last) :
      Walks maze (.advance :: strides) last

theorem Walks.append {first middle last : Maze} {front back : List Stride}
    (h : Walks first front middle) (g : Walks middle back last) :
    Walks first (front ++ back) last := by
  induction h with
  | stay => exact g
  | turn _ ih => exact Walks.turn (ih g)
  | advance hfree _ ih => exact Walks.advance hfree (ih g)

theorem Walks.layout {maze last : Maze} {strides : List Stride} (h : Walks maze strides last) :
    last.layout = maze.layout := by
  induction h with
  | stay => rfl
  | turn _ ih => rw [ih, layout_turned]
  | advance hfree _ ih => rw [ih, layout_of_moved hfree]

theorem Walks.walked {maze last : Maze} {strides : List Stride} (h : Walks maze strides last)
    (hapart : (maze.items.map Item.place).Nodup) (hwalked : maze.Walked) : last.Walked := by
  induction h with
  | stay => exact hwalked
  | turn _ ih => exact ih hapart ⟨hwalked.inside, hwalked.here, hwalked.picked⟩
  | advance hfree _ ih =>
      refine ih ?_ (walked_of_moved hwalked hapart hfree)
      rwa [places_of_layout (layout_of_moved hfree)]

theorem Walks.visited {maze last : Maze} {strides : List Stride} (h : Walks maze strides last)
    {place : Position} (hplace : place ∈ maze.visited) : place ∈ last.visited := by
  induction h with
  | stay => exact hplace
  | turn _ ih => exact ih hplace
  | advance hfree _ ih =>
      rcases moved_cases hfree with ⟨next, _, rfl, _⟩
      exact ih (Position.mem_insert.mpr (Or.inr hplace))

/-!
## Finding the way
-/

theorem exists_quarters (heading : Heading) (side : Side) :
    exists quarters, (heading.turned quarters).side = side := by
  have hsides : side ∈ [(heading.turned 0).side, (heading.turned 1).side,
      (heading.turned 2).side, (heading.turned 3).side] := by
    cases heading <;> cases side <;> decide
  simp only [List.mem_cons, List.not_mem_nil, or_false] at hsides
  rcases hsides with hside | hside | hside | hside
  · exact ⟨0, hside.symm⟩
  · exact ⟨1, hside.symm⟩
  · exact ⟨2, hside.symm⟩
  · exact ⟨3, hside.symm⟩

theorem walks_turned (maze : Maze) (quarters : Nat) :
    Walks maze (List.replicate quarters .turn) (maze.turned quarters) := by
  induction quarters with
  | zero => exact Walks.stay maze
  | succ quarters ih =>
      rw [List.replicate_succ']
      exact ih.append (Walks.turn (Walks.stay _))

theorem exists_walks_facing (maze : Maze) (side : Side) :
    exists strides last, Walks maze strides last ∧ last.turtle.place = maze.turtle.place ∧
      last.turtle.heading.side = side := by
  rcases exists_quarters maze.turtle.heading side with ⟨quarters, hside⟩
  exact ⟨_, _, walks_turned maze quarters, rfl, hside⟩

theorem exists_walks_of_passage {maze : Maze} {next : Position}
    (h : Passage maze.rows maze.columns maze.wallsAt? maze.turtle.place next) :
    exists strides last, Walks maze strides last ∧ last.turtle.place = next := by
  rcases h with ⟨side, hbeyond, ⟨walls, hwalls, hopen⟩, _⟩
  rcases exists_walks_facing maze side with ⟨strides, faced, hwalks, hplace, rfl⟩
  have hlayout := hwalks.layout
  have hfacedWalls : faced.wallsAt? faced.turtle.place = some walls := by
    rwa [wallsAt?_of_layout hlayout, hplace]
  have hfacedBeyond : faced.beyond? faced.turtle.place faced.turtle.heading.side = some next := by
    rwa [beyond?_of_layout hlayout, hplace]
  have hfree := walk_eq_moved hfacedWalls hopen hfacedBeyond
  exact ⟨_, _, hwalks.append (Walks.advance hfree (Walks.stay _)), rfl⟩

theorem exists_walks_of_way {maze : Maze} {target : Position}
    (h : Way maze.rows maze.columns maze.wallsAt? maze.turtle.place target) :
    exists strides last, Walks maze strides last ∧ last.turtle.place = target := by
  induction h with
  | here => exact ⟨[], maze, Walks.stay maze, rfl⟩
  | step _ hpassage ih =>
      rcases ih with ⟨front, middle, hfront, hplace⟩
      have hlayout := hfront.layout
      have hback := @exists_walks_of_passage middle _ (by
        rw [rows_of_layout hlayout, columns_of_layout hlayout, wallsAt?_of_layout hlayout, hplace]
        exact hpassage)
      rcases hback with ⟨back, last, hback, hlast⟩
      exact ⟨front ++ back, last, hfront.append hback, hlast⟩

/-!
## Tours
-/

def Joined (maze : Maze) : Prop :=
  forall place target : Position, place.Inside maze.rows maze.columns ->
    target.Inside maze.rows maze.columns ->
      Way maze.rows maze.columns maze.wallsAt? place target

theorem joined_of_playable {maze : Maze} (h : maze.Playable) : maze.Joined := by
  intro place target hplace htarget
  exact ((h.joined place hplace).back h.start).append (h.joined target htarget)

theorem joined_of_layout {maze other : Maze} (h : maze.layout = other.layout)
    (hother : other.Joined) : maze.Joined := by
  unfold Joined at hother ⊢
  rwa [rows_of_layout h, columns_of_layout h, wallsAt?_of_layout h]

theorem exists_walks_to {maze : Maze} (hjoined : maze.Joined) (hwalked : maze.Walked)
    {target : Position} (htarget : target.Inside maze.rows maze.columns) :
    exists strides last, Walks maze strides last ∧ last.turtle.place = target :=
  exists_walks_of_way (hjoined maze.turtle.place target hwalked.inside htarget)

/-- The turtle can visit any cells, one after the other. -/
theorem exists_tour {maze : Maze} (hjoined : maze.Joined)
    (hapart : (maze.items.map Item.place).Nodup) (hwalked : maze.Walked) (places : List Position)
    (hplaces : forall place, place ∈ places -> place.Inside maze.rows maze.columns) :
    exists strides last, Walks maze strides last ∧
      forall place, place ∈ places -> place ∈ last.visited := by
  induction places with
  | nil => exact ⟨[], maze, Walks.stay maze, by simp⟩
  | cons target rest ih =>
      rcases ih (fun place hplace => hplaces place (List.mem_cons_of_mem target hplace)) with
        ⟨front, middle, hfront, hvisited⟩
      have hlayout := hfront.layout
      have hmiddle := hfront.walked hapart hwalked
      have htarget : target.Inside middle.rows middle.columns := by
        rw [rows_of_layout hlayout, columns_of_layout hlayout]
        exact hplaces target (by simp)
      rcases exists_walks_to (joined_of_layout hlayout hjoined) hmiddle htarget with
        ⟨back, last, hback, hlast⟩
      have hlastWalked := hback.walked (by rwa [places_of_layout hlayout]) hmiddle
      refine ⟨front ++ back, last, hfront.append hback, ?_⟩
      intro place hplace
      rcases List.mem_cons.mp hplace with rfl | hrest
      · rw [← hlast]
        exact hlastWalked.here
      · exact hback.visited (hvisited place hrest)

theorem exists_walks_leaving {maze : Maze} (hjoined : maze.Joined) (hwalked : maze.Walked)
    {exit : Position} {side : Side} (hexit : exit.Inside maze.rows maze.columns)
    (hgap : IsOpen maze.wallsAt? exit side) (houter : maze.beyond? exit side = none) :
    exists strides last, Walks maze strides last ∧ Run.walk last = .left := by
  rcases hgap with ⟨walls, hwalls, hopen⟩
  rcases exists_walks_to hjoined hwalked hexit with ⟨approach, arrived, happroach, rfl⟩
  rcases exists_walks_facing arrived side with ⟨turns, last, hturns, hstill, rfl⟩
  have hwhole := happroach.append hturns
  have hlayout := hwhole.layout
  have hlastWalls : last.wallsAt? last.turtle.place = some walls := by
    rwa [wallsAt?_of_layout hlayout, hstill]
  have hlastBeyond : last.beyond? last.turtle.place last.turtle.heading.side = none := by
    rwa [beyond?_of_layout hlayout, hstill]
  exact ⟨_, last, hwhole, walk_eq_left hlastWalls hopen hlastBeyond⟩

/-- In a maze that can be played, the turtle collects everything and then stands in front of the
gap in the outer wall. -/
theorem exists_walks_to_exit {maze : Maze} (h : maze.Playable) :
    exists strides last, Walks maze.fresh strides last ∧
      (forall item, item ∈ last.items -> item.collected = true) ∧ Run.walk last = .left := by
  have hfresh := layout_fresh maze
  have hapart : (maze.fresh.items.map Item.place).Nodup := by
    rw [places_of_layout hfresh]
    exact h.apart
  have hwalked := walked_fresh h
  have hjoined := joined_of_layout hfresh (joined_of_playable h)
  have hplaced : forall place, place ∈ maze.items.map Item.place ->
      place.Inside maze.rows maze.columns := by
    intro place hplace
    rcases List.mem_map.mp hplace with ⟨item, hitem, rfl⟩
    exact (h.placed item hitem).left
  rcases exists_tour hjoined hapart hwalked (maze.items.map Item.place) hplaced with
    ⟨tour, toured, htour, hvisited⟩
  have htoured := htour.walked hapart hwalked
  have hlayout : toured.layout = maze.layout := htour.layout.trans hfresh
  rcases h.exit with ⟨exit, side, _, hexit, hgap, houter⟩
  have hleave := @exists_walks_leaving toured (joined_of_layout htour.layout hjoined) htoured
    exit side (by rwa [rows_of_layout hlayout, columns_of_layout hlayout])
    (by rwa [wallsAt?_of_layout hlayout]) (by rwa [beyond?_of_layout hlayout])
  rcases hleave with ⟨approach, last, happroach, hleft⟩
  have hwhole := htour.append happroach
  have hlast := hwhole.walked hapart hwalked
  refine ⟨_, last, hwhole, ?_, hleft⟩
  intro item hitem
  rw [hlast.picked item hitem]
  refine happroach.visited (hvisited item.place ?_)
  rw [← places_of_layout hfresh, ← places_of_layout hwhole.layout]
  exact List.mem_map_of_mem hitem

end Maze
end Mosaic
