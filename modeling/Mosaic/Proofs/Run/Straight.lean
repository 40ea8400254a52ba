import Mosaic.Proofs.Maze.Exploring
import Mosaic.Proofs.Maze.Session
import Mosaic.Proofs.Maze.Walking
import Mosaic.Proofs.Run.Sturdy

/-!
# Moving straight on

A turtle that is to move over so many cells walks freely until it has done so, stands in front of a
wall, or leaves the maze.  So two moves in a row are one longer move unless the first one has ended
the run.  Every free step takes the turtle closer to the edge that it looks at, so no move goes
further than the maze is long.
-/

namespace Mosaic
namespace Maze

/-!
## Straight walks
-/

/-- A free walk over so many cells in one direction. -/
inductive Strolls : Maze -> Nat -> Maze -> Prop
  | stay (maze : Maze) : Strolls maze 0 maze
  | step {maze next last : Maze} {points count : Nat} (free : Run.walk maze = .moved next points)
      (rest : Strolls next count last) : Strolls maze (count + 1) last

section Strolling

variable {maze last : Maze} {count : Nat}

theorem Strolls.walks (h : Strolls maze count last) :
    Walks maze (List.replicate count .advance) last := by
  induction h with
  | stay => exact Walks.stay _
  | step hfree _ ih =>
      rw [List.replicate_succ]
      exact Walks.advance hfree ih

theorem Strolls.wellFormed (h : Strolls maze count last) (hwell : maze.WellFormed) :
    last.WellFormed := by
  induction h with
  | stay => exact hwell
  | step hfree _ ih => exact ih (wellFormed_of_moved hwell hfree)

theorem Strolls.heading (h : Strolls maze count last) :
    last.turtle.heading = maze.turtle.heading := by
  induction h with
  | stay => rfl
  | step hfree _ ih =>
      rcases moved_cases hfree with ⟨place, _, rfl, _⟩
      exact ih

theorem collected_of_mem_collectAt {item : Item} {items : List Item} (hitem : item ∈ items)
    (hcollected : item.collected = true) (place : Position) : item ∈ collectAt place items := by
  induction items with
  | nil => cases hitem
  | cons first rest ih =>
      rw [collectAt]
      rcases List.mem_cons.mp hitem with rfl | hrest
      · rw [if_neg (by simp [hcollected])]
        exact List.mem_cons_self
      · split
        · exact List.mem_cons_of_mem _ hrest
        · exact List.mem_cons_of_mem _ (ih hrest)

theorem Strolls.collected (h : Strolls maze count last) {item : Item} (hitem : item ∈ maze.items)
    (hcollected : item.collected = true) : item ∈ last.items := by
  induction h with
  | stay => exact hitem
  | step hfree _ ih =>
      rcases moved_cases hfree with ⟨place, _, rfl, _⟩
      exact ih (collected_of_mem_collectAt hitem hcollected place)

/-- A maze at a later moment: the turtle looks the same way, nothing has been moved, and what had been
visited or collected still is. -/
structure Precedes (before after : Maze) : Prop where
  layout : after.layout = before.layout
  heading : after.turtle.heading = before.turtle.heading
  visited : forall place, place ∈ before.visited -> place ∈ after.visited
  collected : forall item, item ∈ before.items -> item.collected = true -> item ∈ after.items

theorem Strolls.precedes (h : Strolls maze count last) : maze.Precedes last where
  layout := h.walks.layout
  heading := h.heading
  visited _ hplace := h.walks.visited hplace
  collected _ hitem hcollected := h.collected hitem hcollected

/-!
## The way to the edge
-/

def ahead (maze : Maze) : Nat :=
  match maze.turtle.heading with
  | .east => maze.columns - 1 - maze.turtle.place.column
  | .north => maze.turtle.place.row
  | .west => maze.turtle.place.column
  | .south => maze.rows - 1 - maze.turtle.place.row

theorem ahead_lt (h : maze.turtle.place.Inside maze.rows maze.columns) :
    maze.ahead < max maze.rows maze.columns := by
  unfold Position.Inside at h
  unfold ahead
  cases maze.turtle.heading with
  | _ => simp only; omega

theorem ahead_of_moved {next : Maze} {points : Nat} (h : Run.walk maze = .moved next points) :
    next.ahead + 1 = maze.ahead := by
  rcases moved_cases h with ⟨place, hbeyond, rfl, _⟩
  have hcases := Position.beyond?_eq_some hbeyond
  unfold ahead entered
  cases hheading : maze.turtle.heading with
  | _ =>
      simp only [hheading, Heading.side, reduceCtorEq, false_and, true_and, false_or, or_false]
        at hcases ⊢
      omega

theorem Strolls.ahead (h : Strolls maze count last) : last.ahead + count = maze.ahead := by
  induction h with
  | stay => rfl
  | step hfree _ ih =>
      have hstep := ahead_of_moved hfree
      omega

end Strolling

end Maze

namespace Run

/-!
## Moves
-/

def arrived (run : Run) (before after : Maze) : Run :=
  { run with
    maze := some after
    mazeScore := run.mazeScore + ((after.collectedValue : Int) - before.collectedValue) }

theorem arrived_self {run : Run} {maze : Maze} (h : run.maze = some maze) :
    run.arrived maze maze = run := by
  unfold arrived
  rw [Int.sub_self, Int.add_zero, ← h]

theorem arrived_of_moved {run : Run} {maze next : Maze} {points : Nat}
    (hfree : walk maze = .moved next points) (last : Maze) :
    Run.arrived { run with maze := some next, mazeScore := run.mazeScore + points } next last =
      run.arrived maze last := by
  rcases Maze.moved_cases hfree with ⟨place, _, hnext, hpoints⟩
  have hvalue := maze.collectedValue_entered place
  rw [← hnext, ← hpoints] at hvalue
  have hscore : run.mazeScore + points + ((last.collectedValue : Int) - next.collectedValue) =
      run.mazeScore + ((last.collectedValue : Int) - maze.collectedValue) := by omega
  unfold arrived
  simp only [hscore]

inductive MoveEnds (line : Int) (run : Run) (maze : Maze) (steps : Nat) : Carried -> Prop
  | done {last : Maze} (walk : maze.Strolls steps last) :
      MoveEnds line run maze steps (Run.done (run.arrived maze last))
  | blocked {last : Maze} {count : Nat} (early : count < steps) (walk : maze.Strolls count last)
      (wall : Run.walk last = .blocked) :
      MoveEnds line run maze steps ((run.arrived maze last).failed line
        (.wallAhead last.turtle.place.row last.turtle.place.column))
  | left {last : Maze} {count : Nat} (early : count < steps) (walk : maze.Strolls count last)
      (out : Run.walk last = .left) :
      MoveEnds line run maze steps
        (Run.done { run.arrived maze last with outcome := .success, isRunning := false })

theorem advanced_ends (line : Int) (steps : Nat) : forall (run : Run) (maze : Maze),
    maze.Grounded -> run.maze = some maze ->
      MoveEnds line run maze steps (run.advanced line maze steps) := by
  induction steps with
  | zero =>
      intro run maze _ hmaze
      have hdone : MoveEnds line run maze 0 (done (run.arrived maze maze)) := .done (.stay maze)
      rwa [arrived_self hmaze] at hdone
  | succ steps ih =>
      intro run maze hgrounded hmaze
      rw [advanced]
      cases hwalk : walk maze with
      | unknown => exact absurd hwalk (walk_ne_unknown hgrounded)
      | blocked =>
          have hblocked := @MoveEnds.blocked line run maze (steps + 1) maze 0 (Nat.succ_pos steps)
            (.stay maze) hwalk
          rwa [arrived_self hmaze] at hblocked
      | left =>
          have hleft := @MoveEnds.left line run maze (steps + 1) maze 0 (Nat.succ_pos steps)
            (.stay maze) hwalk
          rwa [arrived_self hmaze] at hleft
      | moved next points =>
          have hrest := ih { run with maze := some next, mazeScore := run.mazeScore + points } next
            (grounded_of_moved hgrounded hwalk) rfl
          simp only
          generalize Run.advanced _ line next steps = carried at hrest ⊢
          cases hrest with
          | done hlast =>
              rw [arrived_of_moved hwalk]
              exact .done (.step hwalk hlast)
          | blocked hearly hlast hwall =>
              rw [arrived_of_moved hwalk]
              exact .blocked (Nat.succ_lt_succ hearly) (.step hwalk hlast) hwall
          | left hearly hlast hout =>
              rw [arrived_of_moved hwalk]
              exact .left (Nat.succ_lt_succ hearly) (.step hwalk hlast) hout

theorem advanced_of_strolls {maze last : Maze} {count : Nat} (h : maze.Strolls count last) :
    forall (run : Run) (line : Int), run.maze = some maze ->
      run.advanced line maze count = done (run.arrived maze last) := by
  induction h with
  | stay =>
      intro run line hmaze
      rw [arrived_self hmaze]
      rfl
  | step hfree _ ih =>
      intro run line hmaze
      rw [advanced, hfree]
      simp only
      rw [ih _ line rfl, arrived_of_moved hfree]

/-!
## One move behind another
-/

/-- Another move on the same line, if the one before has neither failed nor led out of the maze. -/
def advanceOn (carried : Carried) (line : Int) (steps : Nat) : Carried :=
  carried.andThen fun after =>
    if after.outcome = .success then done after else after.apply line (.advance steps)

theorem advanced_add (line : Int) (first second : Nat) : forall (run : Run) (maze : Maze),
    run.maze = some maze -> run.outcome ≠ .success ->
      run.advanced line maze (first + second) =
        advanceOn (run.advanced line maze first) line second := by
  induction first with
  | zero =>
      intro run maze hmaze hgoing
      have happly : run.apply line (.advance second) = run.advanced line maze second := by
        unfold apply
        rw [hmaze]
      show _ = if run.outcome = .success then done run else run.apply line (.advance second)
      rw [if_neg hgoing, happly, Nat.zero_add]
  | succ first ih =>
      intro run maze hmaze hgoing
      rw [Nat.succ_add, advanced, advanced]
      cases walk maze with
      | unknown => rfl
      | blocked => rfl
      | left => rfl
      | moved next points =>
          exact ih { run with maze := some next, mazeScore := run.mazeScore + points } next rfl hgoing

theorem advanceOn_of_over {carried : Carried}
    (h : carried.fault ≠ none ∨ carried.run.outcome = .success) (line : Int) (steps : Nat) :
    advanceOn carried line steps = carried := by
  unfold advanceOn Carried.andThen
  split
  · rename_i hnone
    rcases h with hfault | hleft
    · exact absurd hnone hfault
    · refine (if_pos hleft).trans ?_
      unfold done
      rw [← hnone]
  · rfl

/-!
## Collisions and ways out
-/

section Ends

variable (line : Int) (run : Run) (maze : Maze) (steps : Nat) (last : Maze) (carried : Carried)

/-- A move that ends at a wall.  The turtle stands inside, on the cell with the wall ahead of it, and
the problem names this cell.  All else is as a shorter move without a collision leaves it, so whatever
was visited and collected still is. -/
structure Collides : Prop where
  result : carried = (run.arrived maze last).failed line
    (.wallAhead last.turtle.place.row last.turtle.place.column)
  shorter : exists count, count < steps ∧
    run.apply line (.advance count) = done (run.arrived maze last)
  inside : last.turtle.place.Inside last.rows last.columns
  wall : exists walls, last.wallsAt? last.turtle.place = some walls ∧
    walls.has last.turtle.heading.side = true
  kept : maze.Precedes last

/-- A move that ends outside.  The turtle stays where it was last inside, in front of an opening that
leads out. -/
structure Leaves : Prop where
  result : carried = done { run.arrived maze last with outcome := .success, isRunning := false }
  shorter : exists count, count < steps ∧
    run.apply line (.advance count) = done (run.arrived maze last)
  inside : last.turtle.place.Inside last.rows last.columns
  gap : Maze.IsOpen last.wallsAt? last.turtle.place last.turtle.heading.side
  outside : last.beyond? last.turtle.place last.turtle.heading.side = none
  kept : maze.Precedes last

end Ends

theorem wall_of_blocked {maze : Maze} (h : walk maze = .blocked) :
    exists walls, maze.wallsAt? maze.turtle.place = some walls ∧
      walls.has maze.turtle.heading.side = true := by
  unfold walk at h
  simp only at h
  split at h
  · cases h
  · rename_i walls hwalls
    split at h
    · rename_i hwall
      exact ⟨walls, hwalls, hwall⟩
    · split at h
      · cases h
      · cases h

section Moving

variable {run : Run} {maze : Maze} (hmaze : run.maze = some maze) (hwell : maze.WellFormed)
  (line : Int)

include hmaze

theorem apply_advance (steps : Nat) :
    run.apply line (.advance steps) = run.advanced line maze steps := by
  unfold apply
  rw [hmaze]

include hwell

/-- A move goes over all its cells, or it collides, or it leaves. -/
theorem advance_cases (steps : Nat) :
    (exists last, maze.Strolls steps last ∧
        run.apply line (.advance steps) = done (run.arrived maze last)) ∨
      (exists last, Collides line run maze steps last (run.apply line (.advance steps))) ∨
      exists last, Leaves line run maze steps last (run.apply line (.advance steps)) := by
  have hends := advanced_ends line steps run maze hwell.grounded hmaze
  rw [← apply_advance hmaze] at hends
  generalize run.apply line (.advance steps) = carried at hends ⊢
  have hshorter : forall {count : Nat} {last : Maze}, maze.Strolls count last ->
      run.apply line (.advance count) = done (run.arrived maze last) := by
    intro count last hwalk
    rw [apply_advance hmaze, advanced_of_strolls hwalk run line hmaze]
  cases hends with
  | done hwalk => exact Or.inl ⟨_, hwalk, rfl⟩
  | blocked hearly hwalk hwall =>
      exact Or.inr (Or.inl ⟨_, rfl, ⟨_, hearly, hshorter hwalk⟩, (hwalk.wellFormed hwell).turtle,
        wall_of_blocked hwall, hwalk.precedes⟩)
  | left hearly hwalk hout =>
      exact Or.inr (Or.inr ⟨_, rfl, ⟨_, hearly, hshorter hwalk⟩, (hwalk.wellFormed hwell).turtle,
        Maze.isOpen_of_walk (by rw [hout]; nofun) (by rw [hout]; nofun), Maze.beyond?_of_left hout,
        hwalk.precedes⟩)

theorem advance_ends_of_long {steps : Nat} (hlong : max maze.rows maze.columns ≤ steps) :
    (exists last, Collides line run maze steps last (run.apply line (.advance steps))) ∨
      exists last, Leaves line run maze steps last (run.apply line (.advance steps)) := by
  rcases advance_cases hmaze hwell line steps with ⟨last, hwalk, _⟩ | hends
  · have hahead := hwalk.ahead
    have hbound := Maze.ahead_lt hwell.turtle
    omega
  · exact hends

end Moving

/-- Two moves in a row are one longer move, unless the first has ended the run.  A move over as many
cells as the maze is long ends at a wall or outside, and a still longer one ends in the same way.  A
move fails at a wall only, with the turtle in front of it and nothing lost. -/
theorem advance_composes {run : Run} {maze : Maze} (hgoing : run.isHalted = false)
    (hmaze : run.maze = some maze) (hgiven : maze.Given) (line : Int) :
    (forall first second : Nat, run.apply line (.advance (first + second)) =
      advanceOn (run.apply line (.advance first)) line second) ∧
    (forall steps : Nat, max maze.rows maze.columns ≤ steps ->
      ((exists last, Collides line run maze steps last (run.apply line (.advance steps))) ∨
        exists last, Leaves line run maze steps last (run.apply line (.advance steps))) ∧
      run.apply line (.advance steps) =
        run.apply line (.advance (max maze.rows maze.columns))) ∧
    forall (steps : Nat) (fault : Fault), (run.apply line (.advance steps)).fault = some fault ->
      exists last, Collides line run maze steps last (run.apply line (.advance steps)) := by
  have hwell := Maze.given_iff.mp hgiven
  have hidle : run.outcome ≠ .success := by
    rw [(isHalted_eq_false.mp hgoing).right]
    nofun
  have hadd : forall first second : Nat, run.apply line (.advance (first + second)) =
      advanceOn (run.apply line (.advance first)) line second := by
    intro first second
    rw [apply_advance hmaze, apply_advance hmaze]
    exact advanced_add line first second run maze hmaze hidle
  refine ⟨hadd, ?_, ?_⟩
  · intro steps hlong
    refine ⟨advance_ends_of_long hmaze hwell line hlong, ?_⟩
    rcases Nat.exists_eq_add_of_le hlong with ⟨more, rfl⟩
    rw [hadd]
    apply advanceOn_of_over
    rcases advance_ends_of_long hmaze hwell line (Nat.le_refl _) with ⟨last, hend⟩ | ⟨last, hend⟩
    · rw [hend.result]
      exact Or.inl nofun
    · rw [hend.result]
      exact Or.inr rfl
  · intro steps fault hfault
    rcases advance_cases hmaze hwell line steps with ⟨last, _, hend⟩ | hend | ⟨last, hend⟩
    · rw [hend] at hfault
      cases hfault
    · exact hend
    · rw [hend.result] at hfault
      cases hfault

/-- In a row of two cells the turtle moves to the other one and then runs into the outer wall. -/
theorem advance_composes_two_cells :
    exists run maze, run.isHalted = false ∧ run.maze = some maze ∧ maze.Given ∧
      maze.turtle.place = ⟨0, 1⟩ ∧
      run.apply 4 (.advance (1 + 1)) = advanceOn (run.apply 4 (.advance 1)) 4 1 ∧
      run.apply 4 (.advance 1000) = run.apply 4 (.advance 2) ∧
      (run.apply 4 (.advance 1000)).fault = some (.program ⟨4, .wallAhead 0 0⟩) ∧
      exists last, Collides 4 run maze 1000 last (run.apply 4 (.advance 1000)) := by
  let run : Run := { start .maze none with maze := some Maze.twoCells }
  have hgiven : Maze.twoCells.Given := Maze.given_iff.mpr Maze.wellFormed_twoCells
  rcases @advance_composes run Maze.twoCells rfl rfl hgiven 4 with ⟨hadd, hlong, hfails⟩
  have hsame := (hlong 1000 (by decide)).right
  have hfault : (run.apply 4 (.advance 1000)).fault = some (.program ⟨4, .wallAhead 0 0⟩) := by
    rw [hsame]
    rfl
  exact ⟨run, Maze.twoCells, rfl, rfl, hgiven, rfl, hadd 1 1, hsame, hfault, hfails 1000 _ hfault⟩

end Run
end Mosaic
