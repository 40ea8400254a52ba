import Mosaic.Proofs.Maze.Carving
import Mosaic.Proofs.Maze.Layout

/-!
# Generated mazes

Whatever the source of chance answers, a generated maze joins all its cells, has a gap in the outer
wall at its exit, and has its items on cells of their own.
-/

namespace Mosaic
namespace Maze

/-- A maze whose openings lead to a neighbour that is open as well, or out of the maze at its
exit. -/
def Outlined (maze : Maze) : Prop :=
  forall place side, IsOpen maze.wallsAt? place side ->
    (exists next, place.beyond? maze.rows maze.columns side = some next ∧
      IsOpen maze.wallsAt? next side.opposite) ∨
    maze.exit = some place ∧ place.beyond? maze.rows maze.columns side = none

theorem Outlined.back {maze : Maze} (h : maze.Outlined) {place next : Position} {side : Side}
    (hbeyond : maze.beyond? place side = some next) (hopen : IsOpen maze.wallsAt? place side) :
    IsOpen maze.wallsAt? next side.opposite := by
  unfold beyond? at hbeyond
  rcases h place side hopen with ⟨other, hother, hback⟩ | ⟨_, houtside⟩
  · rw [hbeyond] at hother
    cases hother
    exact hback
  · rw [hbeyond] at houtside
    cases houtside

theorem Outlined.passage {maze : Maze} (h : maze.Outlined) {place next : Position} {side : Side}
    (hbeyond : maze.beyond? place side = some next) (hopen : IsOpen maze.wallsAt? place side) :
    Passage maze.rows maze.columns maze.wallsAt? place next :=
  ⟨side, hbeyond, hopen, h.back hbeyond hopen⟩

/-- A maze that can be played to the full score. -/
structure Playable (maze : Maze) : Prop where
  height : maze.walls.length = maze.rows
  width : forall line, line ∈ maze.walls -> line.length = maze.columns
  start : maze.startCell.Inside maze.rows maze.columns
  joined : forall place : Position, place.Inside maze.rows maze.columns ->
    Way maze.rows maze.columns maze.wallsAt? maze.startCell place
  walled : forall place : Position, place.Inside maze.rows maze.columns ->
    (maze.wallsAt? place).isSome = true
  exit : exists place side, maze.exit = some place ∧ place.Inside maze.rows maze.columns ∧
    IsOpen maze.wallsAt? place side ∧ place.beyond? maze.rows maze.columns side = none
  outlined : maze.Outlined
  apart : (maze.items.map Item.place).Nodup
  placed : forall item, item ∈ maze.items ->
    item.place.Inside maze.rows maze.columns ∧ item.place ≠ maze.startCell ∧
      some item.place ≠ maze.exit
  kinds : maze.items.map Item.kind =
    List.replicate leafCount .leaf ++ List.replicate carrotCount .carrot

/-!
## Items
-/

theorem places_itemsOn (places : List Position) :
    (itemsOn places).map Item.place = places.reverse.take (leafCount + carrotCount) := by
  unfold itemsOn
  rw [List.take_add, List.map_append, List.map_map, List.map_map]
  simp only [Function.comp_def, List.map_id']

theorem kinds_itemsOn {places : List Position} (h : leafCount + carrotCount ≤ places.length) :
    (itemsOn places).map Item.kind =
      List.replicate leafCount .leaf ++ List.replicate carrotCount .carrot := by
  unfold itemsOn
  rw [List.map_append, List.map_map, List.map_map]
  simp only [Function.comp_def, List.map_const', List.length_take, List.length_drop,
    List.length_reverse]
  rw [Nat.min_eq_left (by omega), Nat.min_eq_left (by omega)]

theorem place_mem_of_mem_itemsOn {places : List Position} {item : Item}
    (h : item ∈ itemsOn places) : item.place ∈ places := by
  have hmem : item.place ∈ places.reverse.take (leafCount + carrotCount) := by
    rw [← places_itemsOn]
    exact List.mem_map_of_mem h
  exact List.mem_reverse.mp (List.mem_of_mem_take hmem)

theorem Playable.maxScore {maze : Maze} (h : maze.Playable) : maze.maxScore = 8 := by
  rw [maxScore_eq_kinds, h.kinds]
  rfl

theorem length_filter_positions (rows columns : Nat) (start exit : Position) :
    rows * columns - 2 ≤
      ((positions rows columns).filter fun place => place != start && place != exit).length := by
  have hnodup := nodup_positions rows columns
  have hexit := @List.le_length_erase _ _ _ exit (positions rows columns)
  have hstart := @List.le_length_erase _ _ _ start ((positions rows columns).erase exit)
  rw [length_positions] at hexit
  rw [← List.filter_filter, ← hnodup.erase_eq_filter,
    ← (hnodup.erase exit).erase_eq_filter]
  omega

section Places

variable {rows columns : Nat} {start exit : Position} {places : List Position}

theorem apart_itemsOn
    (h : places.Perm ((positions rows columns).filter fun place => place != start && place != exit)) :
    ((itemsOn places).map Item.place).Nodup := by
  have hdrawn : places.Nodup :=
    h.nodup_iff.mpr (List.Pairwise.filter _ (nodup_positions rows columns))
  rw [places_itemsOn]
  exact (places.reverse_perm.nodup_iff.mpr hdrawn).sublist (List.take_sublist _ _)

theorem free_itemsOn
    (h : places.Perm ((positions rows columns).filter fun place => place != start && place != exit))
    {item : Item} (hitem : item ∈ itemsOn places) :
    item.place.Inside rows columns ∧ item.place ≠ start ∧ item.place ≠ exit := by
  have hfree := h.mem_iff.mp (place_mem_of_mem_itemsOn hitem)
  rw [List.mem_filter, mem_positions, Bool.and_eq_true, bne_iff_ne, bne_iff_ne] at hfree
  exact hfree

theorem kinds_itemsOn_of_room
    (h : places.Perm ((positions rows columns).filter fun place => place != start && place != exit))
    (hroom : 8 ≤ rows * columns) :
    (itemsOn places).map Item.kind =
      List.replicate leafCount .leaf ++ List.replicate carrotCount .carrot := by
  have hlength := length_filter_positions rows columns start exit
  apply kinds_itemsOn
  rw [h.length_eq]
  show 6 ≤ _
  omega

end Places

/-!
## Walls
-/

theorem wallsAt?_rowsOfWalls {maze : Maze} {board : Board} (h : maze.walls = board.rowsOfWalls) :
    maze.wallsAt? = board.wallsAt? := by
  funext place
  unfold wallsAt? Board.wallsAt?
  rw [h]
  unfold Board.rowsOfWalls
  rw [List.getElem?_map, Array.getElem?_toList]
  cases board.walls[place.row]? with
  | none => rfl
  | some line => exact Array.getElem?_toList

theorem outlined_of_withOpen {maze : Maze} {board : Board} {exit : Position} {side : Side}
    (houtlined : board.IsOutlined) (hrows : board.rows = maze.rows)
    (hcolumns : board.columns = maze.columns)
    (hwalls : maze.wallsAt? = (board.withOpen exit side).wallsAt?) (hexit : maze.exit = some exit)
    (houter : exit.beyond? maze.rows maze.columns side = none) : maze.Outlined := by
  intro place face hopen
  rw [hwalls] at hopen ⊢
  rcases Board.isOpen_withOpen_cases hopen with hbefore | ⟨rfl, rfl⟩
  · rcases houtlined place face hbefore with ⟨next, hnext, hback⟩
    rw [hrows, hcolumns] at hnext
    exact Or.inl ⟨next, hnext, Board.isOpen_withOpen_of_isOpen hback exit side⟩
  · exact Or.inr ⟨hexit, houter⟩

theorem exit_outside {rows columns : Nat} (hrows : 0 < rows) (hcolumns : 0 < columns)
    {exit : Position} {side : Side}
    (h : (exit, side) ∈ topExit columns :: otherExits rows columns) :
    exit.Inside rows columns ∧ exit.beyond? rows columns side = none := by
  unfold topExit otherExits at h
  simp only [List.mem_cons, List.not_mem_nil, or_false, Prod.mk.injEq] at h
  unfold Position.Inside
  rcases h with ⟨rfl, rfl⟩ | ⟨rfl, rfl⟩ | ⟨rfl, rfl⟩ | ⟨rfl, rfl⟩
  · exact ⟨⟨hrows, Nat.div_lt_self hcolumns (by omega)⟩, rfl⟩
  · exact ⟨⟨Nat.sub_lt hrows (by omega), Nat.div_lt_self hcolumns (by omega)⟩,
      if_neg (by simp only; omega)⟩
  · exact ⟨⟨Nat.div_lt_self hrows (by omega), hcolumns⟩, rfl⟩
  · exact ⟨⟨Nat.div_lt_self hrows (by omega), Nat.sub_lt hcolumns (by omega)⟩,
      if_neg (by simp only; omega)⟩

/-!
## Mazes
-/

variable {σ : Type} [RandomSource σ]

/-- A maze that shows a board carved to its end, with a gap in an outer wall and items on the last of
the places that are free. -/
structure BuiltFrom (maze : Maze) (source : σ) (board : Board) (exit : Position) (side : Side)
    (places : List Position) : Prop where
  carves : exists later, Carves ((Board.closed maze.rows maze.columns).withSeen maze.startCell)
    [maze.startCell] source board later
  outer : (exit, side) ∈ topExit maze.columns :: otherExits maze.rows maze.columns
  free : places.Perm ((positions maze.rows maze.columns).filter fun place =>
    place != maze.startCell && place != exit)
  walls : maze.walls = (board.withOpen exit side).rowsOfWalls
  items : maze.items = itemsOn places
  exit : maze.exit = some exit
  visited : maze.visited = [maze.startCell]
  turtle : maze.turtle = ⟨maze.startCell, .east⟩

theorem middle_inside {rows columns : Nat} (hrows : 0 < rows) (hcolumns : 0 < columns) :
    Position.Inside rows columns ⟨rows / 2, columns / 2⟩ :=
  ⟨Nat.div_lt_self hrows (by omega), Nat.div_lt_self hcolumns (by omega)⟩

/-- Every maze that is generated is built in this way, whatever its source answers. -/
theorem builtFrom_generateWithin {rows columns : Nat} (hrows : 0 < rows) (hcolumns : 0 < columns)
    (source : σ) :
    exists board exit side places,
      (generateWithin rows columns source).1.BuiltFrom source board exit side places := by
  have hwalk := carves_closed (middle_inside hrows hcolumns) source
  exact ⟨_, _, _, _, ⟨_, hwalk⟩, Draw.always_choose _ _ _, Draw.always_shuffled _ _, rfl, rfl, rfl,
    rfl, rfl⟩

section Built

variable {maze : Maze} {source : σ} {board : Board} {exit : Position} {side : Side}
  {places : List Position}

theorem BuiltFrom.carved (h : maze.BuiltFrom source board exit side places)
    (hstart : maze.startCell.Inside maze.rows maze.columns) :
    Board.Carved maze.startCell board [] ∧ board.rows = maze.rows ∧
      board.columns = maze.columns := by
  rcases h.carves with ⟨_, walk⟩
  exact walk.carved (Board.carved_start hstart)

theorem BuiltFrom.wallsAt? (h : maze.BuiltFrom source board exit side places) :
    maze.wallsAt? = (board.withOpen exit side).wallsAt? := wallsAt?_rowsOfWalls h.walls

theorem BuiltFrom.playable (h : maze.BuiltFrom source board exit side places)
    (hrows : 0 < maze.rows) (hcolumns : 0 < maze.columns)
    (hroom : 8 ≤ maze.rows * maze.columns) : maze.Playable := by
  have hstart : maze.startCell.Inside maze.rows maze.columns := middle_inside hrows hcolumns
  rcases h.carved hstart with ⟨hcarved, hboardRows, hboardColumns⟩
  rcases exit_outside hrows hcolumns h.outer with ⟨hinside, houter⟩
  rcases Board.rowsOfWalls_of_isRectangle (Board.isRectangle_withOpen hcarved.shape exit side) with
    ⟨hheight, hwidth⟩
  rw [← h.walls] at hheight hwidth
  have hbefore : forall place : Position, place.Inside maze.rows maze.columns ->
      place.Inside board.rows board.columns := by
    intro place hplace
    rwa [hboardRows, hboardColumns]
  constructor
  · exact hheight.trans hboardRows
  · exact fun line hline => (hwidth line hline).trans hboardColumns
  · exact hstart
  · intro place hplace
    have hway := hcarved.joined place (hcarved.hasSeen_of_inside (hbefore place hplace))
    rw [hboardRows, hboardColumns] at hway
    rw [h.wallsAt?]
    exact hway.imp fun cell face hcell => Board.isOpen_withOpen_of_isOpen hcell exit side
  · intro place hplace
    rw [h.wallsAt?]
    exact (Board.isFull_withOpen hcarved.full exit side place (hbefore place hplace)).left
  · refine ⟨exit, side, h.exit, hinside, ?_, houter⟩
    rw [h.wallsAt?]
    exact Board.isOpen_withOpen (hcarved.full exit (hbefore exit hinside)).left side
  · exact outlined_of_withOpen hcarved.outlined hboardRows hboardColumns h.wallsAt? h.exit houter
  · rw [h.items]
    exact apart_itemsOn h.free
  · intro item hitem
    rw [h.items] at hitem
    rcases free_itemsOn h.free hitem with ⟨hcell, hnotStart, hnotExit⟩
    rw [h.exit]
    exact ⟨hcell, hnotStart, fun hsame => hnotExit (Option.some.inj hsame)⟩
  · rw [h.items]
    exact kinds_itemsOn_of_room h.free hroom

end Built

theorem always_generateWithin {rows columns : Nat} (hrows : 0 < rows) (hcolumns : 0 < columns)
    (hroom : 8 ≤ rows * columns) :
    Draw.Always (generateWithin rows columns : Draw σ Maze) Playable := by
  intro source
  rcases builtFrom_generateWithin hrows hcolumns source with ⟨board, exit, side, places, h⟩
  exact h.playable hrows hcolumns hroom

theorem room_toNat {rows columns : Int} (hrows : 2 ≤ rows) (hcolumns : 2 ≤ columns)
    (hroom : 8 ≤ rows * columns) : 8 ≤ rows.toNat * columns.toNat := by
  have hproduct : ((rows.toNat * columns.toNat : Nat) : Int) = rows * columns := by
    rw [Int.natCast_mul, Int.toNat_of_nonneg (by omega), Int.toNat_of_nonneg (by omega)]
  omega

theorem generate_eq_ok {rows columns : Int} (hrows : 2 ≤ rows) (hcolumns : 2 ≤ columns)
    (hroom : 8 ≤ rows * columns) (source : σ) :
    (generate rows columns source).1 =
      .ok (generateWithin rows.toNat columns.toNat source).1 := by
  have hflat : (decide (rows < 2) || decide (columns < 2)) = false := by
    simp only [Bool.or_eq_false_iff, decide_eq_false_iff_not]
    omega
  have hsmall : Not (rows * columns - 2 < ((leafCount + carrotCount : Nat) : Int)) := by
    show Not (rows * columns - 2 < 6)
    omega
  unfold generate
  rw [if_neg (by rw [hflat]; simp), if_neg hsmall]
  rfl

theorem always_generate {rows columns : Int} (hrows : 2 ≤ rows) (hcolumns : 2 ≤ columns)
    (hroom : 8 ≤ rows * columns) :
    Draw.Always (generate rows columns : Draw σ (Except Fault Maze)) fun result =>
      exists maze, result = .ok maze ∧ maze.Playable := by
  intro source
  rw [generate_eq_ok hrows hcolumns hroom]
  have hplayable := @always_generateWithin σ _ rows.toNat columns.toNat (by omega) (by omega)
    (room_toNat hrows hcolumns hroom) source
  exact ⟨_, rfl, hplayable⟩

theorem always_generateUsual : Draw.Always (generateUsual : Draw σ Maze) Playable :=
  always_generateWithin (by decide) (by decide) (by decide)

theorem size_of_generate {rows columns : Int} {source : σ} {maze : Maze}
    (h : (generate rows columns source).1 = .ok maze) :
    2 ≤ rows ∧ 2 ≤ columns ∧ 8 ≤ rows * columns := by
  unfold generate at h
  split at h
  · cases h
  · rename_i hflat
    split at h
    · cases h
    · rename_i hsmall
      change Not (rows * columns - 2 < 6) at hsmall
      simp only [Bool.or_eq_true, decide_eq_true_eq] at hflat
      omega

/-- Whatever size was asked for, a maze that is generated can be played. -/
theorem playable_of_generate {rows columns : Int} {source : σ} {maze : Maze}
    (h : (generate rows columns source).1 = .ok maze) : maze.Playable := by
  rcases size_of_generate h with ⟨hrows, hcolumns, hroom⟩
  rcases @always_generate σ _ rows columns hrows hcolumns hroom source with
    ⟨other, hother, hplayable⟩
  rw [h] at hother
  cases hother
  exact hplayable

end Maze
end Mosaic
