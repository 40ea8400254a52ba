import Mosaic.Proofs.Maze.Trees
import Mosaic.Proofs.Maze.Generation

/-!
# Counting openings

The openings of a maze on some sides are listed cell by cell, each once.  On the right and lower sides
inside the maze they are its passages, one for each edge of their graph; on the outermost sides they
are its gaps.
-/

namespace Mosaic
namespace Maze

theorem mem_cells {maze : Maze} {place : Position} {walls : Walls} :
    (place, walls) ∈ maze.cells ↔ maze.wallsAt? place = some walls := by
  rcases place with ⟨row, column⟩
  unfold cells wallsAt?
  simp only [List.mem_flatten, List.mem_mapIdx, Option.bind_eq_bind, Option.bind_eq_some_iff,
    List.getElem?_eq_some_iff]
  constructor
  · intro h
    rcases h with ⟨_, ⟨_, hrow, rfl⟩, hcell⟩
    rcases List.mem_mapIdx.mp hcell with ⟨_, hcolumn, hsame⟩
    cases hsame
    exact ⟨_, ⟨hrow, rfl⟩, hcolumn, rfl⟩
  · intro h
    rcases h with ⟨_, ⟨hrow, rfl⟩, hcolumn, rfl⟩
    exact ⟨_, ⟨row, hrow, rfl⟩, List.mem_mapIdx.mpr ⟨column, hcolumn, rfl⟩⟩

theorem pairwise_cells (maze : Maze) :
    maze.cells.Pairwise fun cell other => cell.1 ≠ other.1 := by
  unfold cells
  rw [List.pairwise_flatten]
  constructor
  · intro line hline
    rcases List.mem_mapIdx.mp hline with ⟨row, hrow, rfl⟩
    rw [List.pairwise_iff_getElem]
    intro column other hcolumn hother hbefore
    rw [List.getElem_mapIdx, List.getElem_mapIdx]
    intro hsame
    rw [Position.mk.injEq] at hsame
    omega
  · rw [List.pairwise_iff_getElem]
    intro row other hrow hother hbefore cell hcell next hnext hsame
    rw [List.getElem_mapIdx] at hcell hnext
    rcases List.mem_mapIdx.mp hcell with ⟨_, _, rfl⟩
    rcases List.mem_mapIdx.mp hnext with ⟨_, _, rfl⟩
    rw [Position.mk.injEq] at hsame
    omega

/-!
## Openings on some sides
-/

def openingsOn (maze : Maze) (sides : List Side) (chosen : Position -> Side -> Bool) :
    List (Position × Side) :=
  maze.cells.flatMap fun (place, walls) =>
    sides.flatMap fun side => if chosen place side && !walls.has side then [(place, side)] else []

theorem mem_openingsOn {maze : Maze} {sides : List Side} {chosen : Position -> Side -> Bool}
    {place : Position} {side : Side} :
    (place, side) ∈ maze.openingsOn sides chosen ↔
      side ∈ sides ∧ chosen place side = true ∧ IsOpen maze.wallsAt? place side := by
  unfold openingsOn IsOpen
  rw [List.mem_flatMap]
  constructor
  · intro h
    rcases h with ⟨⟨cell, walls⟩, hcell, hopening⟩
    rcases List.mem_flatMap.mp hopening with ⟨face, hface, hmem⟩
    split at hmem
    · rename_i hgiven
      cases List.mem_singleton.mp hmem
      rw [Bool.and_eq_true, Bool.not_eq_true'] at hgiven
      exact ⟨hface, hgiven.left, walls, mem_cells.mp hcell, hgiven.right⟩
    · cases hmem
  · intro h
    rcases h with ⟨hside, hchosen, walls, hwalls, hopen⟩
    refine ⟨(place, walls), mem_cells.mpr hwalls, List.mem_flatMap.mpr ⟨side, hside, ?_⟩⟩
    simp [hchosen, hopen]

theorem nodup_openingsOn (maze : Maze) {sides : List Side} (hsides : sides.Nodup)
    (chosen : Position -> Side -> Bool) : (maze.openingsOn sides chosen).Nodup := by
  -- a cell gives openings of its own only, and a side at most one
  have hplace : forall (place : Position) (walls : Walls) (side : Side) (opening : Position × Side),
      opening ∈ (if chosen place side && !walls.has side then [(place, side)] else []) ->
      opening = (place, side) := by
    intro place walls side opening hopening
    split at hopening
    · exact List.mem_singleton.mp hopening
    · cases hopening
  unfold openingsOn
  rw [List.nodup_iff_pairwise_ne, List.pairwise_flatMap]
  constructor
  · intro cell _
    rcases cell with ⟨place, walls⟩
    rw [List.pairwise_flatMap]
    constructor
    · intro side _
      split
      · exact List.pairwise_singleton _ _
      · exact List.Pairwise.nil
    · refine hsides.imp ?_
      intro side face hne opening hopening other hother hsame
      rw [hplace place walls side opening hopening, hplace place walls face other hother] at hsame
      exact hne (Prod.mk.inj hsame).right
  · refine maze.pairwise_cells.imp ?_
    intro cell next hne opening hopening other hother hsame
    rcases List.mem_flatMap.mp hopening with ⟨side, _, hfirst⟩
    rcases List.mem_flatMap.mp hother with ⟨face, _, hsecond⟩
    rw [hplace _ _ side opening hfirst, hplace _ _ face other hsecond] at hsame
    exact hne (Prod.mk.inj hsame).left

theorem inside_of_wallsAt? {maze : Maze} (hheight : maze.walls.length = maze.rows)
    (hwidth : forall line, line ∈ maze.walls -> line.length = maze.columns) {place : Position}
    {walls : Walls} (h : maze.wallsAt? place = some walls) :
    place.Inside maze.rows maze.columns := by
  unfold wallsAt? at h
  rcases Option.bind_eq_some_iff.mp h with ⟨line, hline, hcell⟩
  rcases List.getElem?_eq_some_iff.mp hline with ⟨hrow, _⟩
  rcases List.getElem?_eq_some_iff.mp hcell with ⟨hcolumn, _⟩
  rw [hheight] at hrow
  rw [hwidth line (List.mem_of_getElem? hline)] at hcolumn
  exact ⟨hrow, hcolumn⟩

/-!
## Gaps
-/

/-- A cell with nothing beyond one of its sides. -/
def isOutermost (maze : Maze) (place : Position) : Side -> Bool
  | .top => place.row = 0
  | .right => place.column + 1 = maze.columns
  | .bottom => place.row + 1 = maze.rows
  | .left => place.column = 0

theorem isOutermost_iff {maze : Maze} {place : Position} (side : Side)
    (h : place.Inside maze.rows maze.columns) :
    maze.isOutermost place side = true ↔ maze.beyond? place side = none := by
  unfold Position.Inside at h
  unfold beyond? Position.beyond?
  cases side with
  | top => simp [isOutermost]
  | right =>
      simp only [isOutermost, decide_eq_true_eq, ite_eq_right_iff, reduceCtorEq, imp_false, not_lt]
      omega
  | bottom =>
      simp only [isOutermost, decide_eq_true_eq, ite_eq_right_iff, reduceCtorEq, imp_false, not_lt]
      omega
  | left => simp [isOutermost]

theorem boundaryOpenings_eq (maze : Maze) :
    maze.boundaryOpenings = maze.openingsOn Board.sides maze.isOutermost := by
  unfold boundaryOpenings openingsOn
  congr
  funext cell
  rcases cell with ⟨place, walls⟩
  simp [Board.sides, isOutermost, Walls.has]

theorem mem_boundaryOpenings {maze : Maze} (hheight : maze.walls.length = maze.rows)
    (hwidth : forall line, line ∈ maze.walls -> line.length = maze.columns) {place : Position}
    {side : Side} :
    (place, side) ∈ maze.boundaryOpenings ↔
      IsOpen maze.wallsAt? place side ∧ maze.beyond? place side = none := by
  rw [boundaryOpenings_eq, mem_openingsOn]
  constructor
  · intro h
    rcases h with ⟨_, houter, walls, hwalls, hopen⟩
    have hinside := inside_of_wallsAt? hheight hwidth hwalls
    exact ⟨⟨walls, hwalls, hopen⟩, (isOutermost_iff side hinside).mp houter⟩
  · intro h
    rcases h with ⟨⟨walls, hwalls, hopen⟩, houter⟩
    have hinside := inside_of_wallsAt? hheight hwidth hwalls
    exact ⟨Board.mem_sides side, (isOutermost_iff side hinside).mpr houter, walls, hwalls, hopen⟩

theorem nodup_boundaryOpenings (maze : Maze) : maze.boundaryOpenings.Nodup := by
  rw [boundaryOpenings_eq]
  exact nodup_openingsOn maze (by decide) maze.isOutermost

/-!
## Passages
-/

/-- The openings that lead to the right or down to another cell. -/
def joints (maze : Maze) : List (Position × Side) :=
  maze.openingsOn [.right, .bottom] fun place side => (maze.beyond? place side).isSome

theorem openPassages_eq_length (maze : Maze) : maze.openPassages = maze.joints.length := by
  unfold openPassages joints openingsOn
  rw [List.length_flatMap, List.sum_eq_foldr]
  congr
  funext cell
  rcases cell with ⟨place, walls⟩
  have hlength : forall (given : Bool) (opening : Position × Side),
      (if given then [opening] else []).length = if given then 1 else 0 := by
    intro given opening
    cases given with
    | true => rfl
    | false => rfl
  have hright : (maze.beyond? place .right).isSome = decide (place.column + 1 < maze.columns) := by
    rw [Bool.eq_iff_iff, decide_eq_true_iff]
    simp [beyond?, Position.beyond?]
  have hbottom : (maze.beyond? place .bottom).isSome = decide (place.row + 1 < maze.rows) := by
    rw [Bool.eq_iff_iff, decide_eq_true_iff]
    simp [beyond?, Position.beyond?]
  simp only [List.flatMap_cons, List.flatMap_nil, List.length_append, List.length_nil, hlength,
    hright, hbottom, Walls.has, Nat.add_zero]

theorem mem_joints {maze : Maze} {place : Position} {side : Side} :
    (place, side) ∈ maze.joints ↔ (side = .right ∨ side = .bottom) ∧
      (exists next, maze.beyond? place side = some next) ∧ IsOpen maze.wallsAt? place side := by
  unfold joints
  rw [mem_openingsOn, Option.isSome_iff_exists, List.mem_cons, List.mem_singleton]

theorem nodup_joints (maze : Maze) : maze.joints.Nodup := nodup_openingsOn maze (by decide) _

def ends (maze : Maze) (joint : Position × Side) : Sym2 Position :=
  s(joint.1, (maze.beyond? joint.1 joint.2).getD joint.1)

theorem ends_eq {maze : Maze} {place next : Position} {side : Side}
    (h : maze.beyond? place side = some next) : maze.ends (place, side) = s(place, next) := by
  unfold ends
  rw [h, Option.getD_some]

theorem side_eq_of_beyond? {maze : Maze} {place next : Position} {side face : Side}
    (h : maze.beyond? place side = some next) (g : maze.beyond? place face = some next) :
    side = face := by
  rcases Position.beyond?_eq_some h with ⟨rfl, h⟩ | ⟨rfl, h⟩ | ⟨rfl, h⟩ | ⟨rfl, h⟩
  all_goals
    rcases Position.beyond?_eq_some g with ⟨rfl, g⟩ | ⟨rfl, g⟩ | ⟨rfl, g⟩ | ⟨rfl, g⟩
    all_goals first | rfl | omega

theorem sum_of_beyond? {maze : Maze} {place next : Position} {side : Side}
    (hside : side = .right ∨ side = .bottom) (h : maze.beyond? place side = some next) :
    next.row + next.column = place.row + place.column + 1 := by
  rcases Position.beyond?_eq_some h with ⟨rfl, _⟩ | ⟨rfl, _⟩ | ⟨rfl, _⟩ | ⟨rfl, _⟩
  · simp at hside
  · omega
  · omega
  · simp at hside

theorem joint_eq_of_ends {maze : Maze} {joint other : Position × Side} (h : joint ∈ maze.joints)
    (g : other ∈ maze.joints) (hends : maze.ends joint = maze.ends other) : joint = other := by
  rcases joint with ⟨place, side⟩
  rcases other with ⟨cell, face⟩
  rcases mem_joints.mp h with ⟨hside, ⟨next, hnext⟩, _⟩
  rcases mem_joints.mp g with ⟨hface, ⟨last, hlast⟩, _⟩
  rw [ends_eq hnext, ends_eq hlast, Sym2.eq_iff] at hends
  have hforward := sum_of_beyond? hside hnext
  have hfurther := sum_of_beyond? hface hlast
  rcases hends with ⟨rfl, rfl⟩ | ⟨rfl, rfl⟩
  · rw [side_eq_of_beyond? hnext hlast]
  · omega

def graph (maze : Maze) : SimpleGraph (Cell maze.rows maze.columns) :=
  passageGraph maze.rows maze.columns maze.wallsAt?

theorem mem_map_ends_joints {maze : Maze} (hheight : maze.walls.length = maze.rows)
    (hwidth : forall line, line ∈ maze.walls -> line.length = maze.columns)
    (houtlined : maze.Outlined) (pair : Sym2 Position) :
    pair ∈ maze.joints.map maze.ends ↔ pair ∈ Set.image (Sym2.map Subtype.val) maze.graph.edgeSet := by
  rw [List.mem_map, Set.mem_image]
  constructor
  · intro h
    rcases h with ⟨⟨place, side⟩, hjoint, rfl⟩
    rcases mem_joints.mp hjoint with ⟨_, ⟨next, hnext⟩, hopen⟩
    rcases hopen with ⟨walls, hwalls, hhas⟩
    have hplace := inside_of_wallsAt? hheight hwidth hwalls
    have hpassage := houtlined.passage hnext ⟨walls, hwalls, hhas⟩
    refine ⟨s(⟨place, hplace⟩, ⟨next, hpassage.inside hplace⟩), hpassage, ?_⟩
    rw [ends_eq hnext, Sym2.map_mk]
  · intro h
    rcases h with ⟨edge, hedge, rfl⟩
    induction edge using Sym2.ind with
    | _ cell other =>
        rcases passageGraph_adj.mp hedge with ⟨side, hbeyond, hcell, hother⟩
        have hback := Position.beyond?_opposite cell.property hbeyond
        rw [Sym2.map_mk]
        -- the joint is seen from the upper or left one of the two cells
        by_cases hside : side = .right ∨ side = .bottom
        · refine ⟨(cell.val, side), mem_joints.mpr ⟨hside, ⟨other.val, hbeyond⟩, hcell⟩, ?_⟩
          exact ends_eq hbeyond
        · have hopposite : side.opposite = .right ∨ side.opposite = .bottom := by
            cases side with
            | top => exact Or.inr rfl
            | right => simp at hside
            | bottom => simp at hside
            | left => exact Or.inl rfl
          refine ⟨(other.val, side.opposite), mem_joints.mpr ⟨hopposite, ⟨cell.val, hback⟩, hother⟩, ?_⟩
          rw [ends_eq hback, Sym2.eq_swap]

/-- Every passage is counted once. -/
theorem openPassages_eq_card {maze : Maze} (hheight : maze.walls.length = maze.rows)
    (hwidth : forall line, line ∈ maze.walls -> line.length = maze.columns)
    (houtlined : maze.Outlined) : maze.openPassages = Nat.card maze.graph.edgeSet := by
  have hnodup : (maze.joints.map maze.ends).Nodup :=
    List.Nodup.map_on (fun joint h other g => joint_eq_of_ends h g) maze.nodup_joints
  have hcard := card_of_nodup hnodup (mem_map_ends_joints hheight hwidth houtlined)
  rw [List.length_map] at hcard
  rw [openPassages_eq_length, ← hcard]
  exact Nat.card_image_of_injective (Sym2.map.injective Subtype.val_injective) _

end Maze
end Mosaic
