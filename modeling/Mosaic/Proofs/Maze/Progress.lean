import Mosaic.Proofs.Maze.Ascending
import Mosaic.Proofs.Maze.Generation

/-!
# Progress in a maze

A turtle that moves to a cell visits it and collects the item there.  The value of what is collected
grows by as many points as the move scores, and at any moment the items of the visited cells, and no
others, are collected.
-/

namespace Mosaic
namespace Maze

/-!
## Collecting
-/

theorem collectAt_eq_map {place : Position} {items : List Item}
    (h : (items.map Item.place).Nodup) :
    collectAt place items =
      items.map fun item => if item.place = place then { item with collected := true } else item := by
  induction items with
  | nil => rfl
  | cons item rest ih =>
      rw [List.map_cons, List.nodup_cons] at h
      rw [collectAt, List.map_cons]
      by_cases hhere : item.place = place
      · have hothers : forall other, other ∈ rest -> other.place ≠ place := by
          intro other hother hsame
          exact h.left (List.mem_map.mpr ⟨other, hother, hsame.trans hhere.symm⟩)
        have hrest : (rest.map fun other =>
            if other.place = place then { other with collected := true } else other) = rest := by
          refine (List.map_congr_left fun other hother => ?_).trans (List.map_id rest)
          exact if_neg (hothers other hother)
        rw [if_pos hhere]
        split
        · rw [hrest]
        · rename_i hcollected
          have htaken : item.collected = true := by simpa [hhere] using hcollected
          rw [ih h.right, ← htaken]
      · rw [if_neg hhere, if_neg (by simp [hhere]), ih h.right]

theorem collectedValue_entered (maze : Maze) (place : Position) :
    (maze.entered place).collectedValue =
      maze.collectedValue + (maze.itemAt? place).elim 0 fun item => item.kind.value := by
  unfold collectedValue entered itemAt?
  simp only
  induction maze.items with
  | nil => rfl
  | cons item rest ih =>
      rw [collectAt]
      by_cases hfound : (item.place == place && !item.collected) = true
      · have hleft : Not (item.collected = true) := by
          simp only [Bool.and_eq_true, Bool.not_eq_true', Bool.eq_false_iff] at hfound
          exact hfound.right
        rw [if_pos hfound, List.find?_cons_of_pos (by exact hfound), List.filter_cons_of_pos rfl,
          List.filter_cons_of_neg hleft, List.map_cons, List.foldr_cons]
        exact Nat.add_comm _ _
      · rw [if_neg hfound, List.find?_cons_of_neg (by exact hfound), List.filter_cons, List.filter_cons]
        split
        · rw [List.map_cons, List.map_cons, List.foldr_cons, List.foldr_cons, ih, Nat.add_assoc]
        · exact ih

@[simp] theorem collectedValue_fresh (maze : Maze) : maze.fresh.collectedValue = 0 := by
  have hnone : maze.fresh.items.filter Item.collected = [] := by
    rw [List.filter_eq_nil_iff]
    intro item hitem
    rcases List.mem_map.mp hitem with ⟨before, _, rfl⟩
    simp
  unfold collectedValue
  rw [hnone]
  rfl

theorem collectedValue_of_all {maze : Maze}
    (h : forall item, item ∈ maze.items -> item.collected = true) :
    maze.collectedValue = maze.maxScore := by
  unfold collectedValue maxScore
  rw [List.filter_eq_self.mpr h]

/-!
## At any moment
-/

structure Walked (maze : Maze) : Prop where
  inside : maze.turtle.place.Inside maze.rows maze.columns
  here : maze.turtle.place ∈ maze.visited
  picked : forall item, item ∈ maze.items ->
    (item.collected = true ↔ item.place ∈ maze.visited)

theorem walked_fresh {maze : Maze} (h : maze.Playable) : maze.fresh.Walked := by
  refine ⟨h.start, by simp [fresh], ?_⟩
  intro item hitem
  rcases List.mem_map.mp hitem with ⟨before, hbefore, rfl⟩
  have hplace := (h.placed before hbefore).right.left
  show false = true ↔ before.place ∈ [maze.startCell]
  simp [hplace]

theorem walked_of_moved {maze next : Maze} {points : Nat} (h : maze.Walked)
    (hapart : (maze.items.map Item.place).Nodup) (hmoved : Run.walk maze = .moved next points) :
    next.Walked := by
  rcases moved_cases hmoved with ⟨place, hbeyond, rfl, _⟩
  refine ⟨Position.inside_of_beyond? h.inside hbeyond, Position.mem_insert.mpr (Or.inl rfl), ?_⟩
  intro item hitem
  change item ∈ collectAt place maze.items at hitem
  rw [collectAt_eq_map hapart] at hitem
  rcases List.mem_map.mp hitem with ⟨before, hbefore, rfl⟩
  have hpicked := h.picked before hbefore
  show _ ↔ _ ∈ Position.insert place maze.visited
  rw [Position.mem_insert]
  by_cases hhere : before.place = place
  · rw [if_pos hhere]
    simp [hhere]
  · rw [if_neg hhere]
    simp [hhere, hpicked]

end Maze
end Mosaic
