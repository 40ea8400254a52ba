import Mosaic.Proofs.Maze.Openings
import Mosaic.Random.Twister

/-!
# Perfect mazes

Any two cells of a perfect maze are joined by exactly one way, and one gap leads out of it.  Every
maze that is generated is perfect, whatever its source of chance answers.
-/

namespace Mosaic
namespace Maze

/-- A maze whose passages are a tree that joins all its cells, with one gap in its outer wall, items
on cells of their own and the turtle at its start. -/
structure Perfect (maze : Maze) : Prop where
  height : maze.walls.length = maze.rows
  width : forall line, line ∈ maze.walls -> line.length = maze.columns
  agree : forall place side next walls others, maze.beyond? place side = some next ->
    maze.wallsAt? place = some walls -> maze.wallsAt? next = some others ->
      walls.has side = others.has side.opposite
  tree : maze.graph.IsTree
  passages : maze.openPassages + 1 = maze.rows * maze.columns
  gap : exists exit side, maze.exit = some exit ∧ maze.boundaryOpenings = [(exit, side)]
  apart : (maze.items.map Item.place).Nodup
  placed : forall item, item ∈ maze.items ->
    item.place.Inside maze.rows maze.columns ∧ item.place ≠ maze.startCell ∧
      some item.place ≠ maze.exit
  kinds : maze.items.map Item.kind =
    List.replicate leafCount .leaf ++ List.replicate carrotCount .carrot
  turtle : maze.turtle = ⟨maze.startCell, .east⟩
  visited : maze.visited = [maze.startCell]

theorem Playable.agree {maze : Maze} (h : maze.Playable) {place next : Position} {side : Side}
    {walls others : Walls} (hbeyond : maze.beyond? place side = some next)
    (hwalls : maze.wallsAt? place = some walls) (hothers : maze.wallsAt? next = some others) :
    walls.has side = others.has side.opposite := by
  have hplace := inside_of_wallsAt? h.height h.width hwalls
  have hback := Position.beyond?_opposite hplace hbeyond
  have hopen : walls.has side = false ↔ others.has side.opposite = false := by
    rw [← isOpen_iff hwalls, ← isOpen_iff hothers]
    constructor
    · exact h.outlined.back hbeyond
    · intro hnext
      have hhere := h.outlined.back hback hnext
      rwa [opposite_opposite] at hhere
  rwa [← Bool.not_inj_iff, Bool.eq_iff_iff, Bool.not_eq_true', Bool.not_eq_true']

section Built

variable {σ : Type} [RandomSource σ] {maze : Maze} {source : σ} {board : Board} {exit : Position}
  {side : Side} {places : List Position}

/-- The gap of a maze changes none of the passages that were carved. -/
theorem BuiltFrom.isTree (h : maze.BuiltFrom source board exit side places)
    (hrows : 0 < maze.rows) (hcolumns : 0 < maze.columns) : maze.graph.IsTree := by
  have hstart : maze.startCell.Inside maze.rows maze.columns := middle_inside hrows hcolumns
  rcases h.carves with ⟨_, walk⟩
  rcases h.carved hstart with ⟨hcarved, hboardRows, hboardColumns⟩
  have htree := hcarved.isTree
    (walk.forest (Board.carved_start hstart) (Board.forest_closed _ _ maze.startCell))
  have houter := (exit_outside hrows hcolumns h.outer).right
  rw [← hboardRows, ← hboardColumns] at houter
  rw [← Board.passageGraph_withOpen houter, hboardRows, hboardColumns, ← h.wallsAt?] at htree
  exact htree

theorem BuiltFrom.gap (h : maze.BuiltFrom source board exit side places)
    (hplayable : maze.Playable) (hrows : 0 < maze.rows) (hcolumns : 0 < maze.columns) :
    maze.boundaryOpenings = [(exit, side)] := by
  have hstart : maze.startCell.Inside maze.rows maze.columns := middle_inside hrows hcolumns
  rcases h.carved hstart with ⟨hcarved, hboardRows, hboardColumns⟩
  rcases exit_outside hrows hcolumns h.outer with ⟨hinside, houter⟩
  have hmem : forall opening, opening ∈ maze.boundaryOpenings ↔ opening ∈ [(exit, side)] := by
    intro opening
    rcases opening with ⟨place, face⟩
    rw [mem_boundaryOpenings hplayable.height hplayable.width, List.mem_singleton, h.wallsAt?]
    constructor
    · intro hgiven
      rcases hgiven with ⟨hopen, houtside⟩
      rcases Board.isOpen_withOpen_cases hopen with hbefore | ⟨rfl, rfl⟩
      · rcases hcarved.outlined place face hbefore with ⟨next, hnext, _⟩
        rw [hboardRows, hboardColumns] at hnext
        rw [beyond?, hnext] at houtside
        cases houtside
      · rfl
    · intro hgiven
      cases hgiven
      refine ⟨Board.isOpen_withOpen (hcarved.full exit ?_).left side, houter⟩
      rwa [hboardRows, hboardColumns]
  have hperm := (List.perm_ext_iff_of_nodup maze.nodup_boundaryOpenings
    (List.nodup_singleton (exit, side))).mpr hmem
  exact List.perm_singleton.mp hperm

theorem BuiltFrom.perfect (h : maze.BuiltFrom source board exit side places)
    (hrows : 0 < maze.rows) (hcolumns : 0 < maze.columns)
    (hroom : 8 ≤ maze.rows * maze.columns) : maze.Perfect := by
  have hplayable := h.playable hrows hcolumns hroom
  have htree := h.isTree hrows hcolumns
  have hcount := (SimpleGraph.isTree_iff_connected_and_card.mp htree).right
  constructor
  · exact hplayable.height
  · exact hplayable.width
  · exact fun _ _ _ _ _ hbeyond hwalls hothers => hplayable.agree hbeyond hwalls hothers
  · exact htree
  · rw [openPassages_eq_card hplayable.height hplayable.width hplayable.outlined, hcount, card_cell]
  · exact ⟨exit, side, h.exit, h.gap hplayable hrows hcolumns⟩
  · exact hplayable.apart
  · exact hplayable.placed
  · exact hplayable.kinds
  · exact h.turtle
  · exact h.visited

end Built

/-- From two rows, two columns and eight cells on, the walk that carves comes to its end, and the maze
that shows its board is perfect. -/
theorem generate_perfect {σ : Type} [RandomSource σ] {rows columns : Int} (hrows : 2 ≤ rows)
    (hcolumns : 2 ≤ columns) (hroom : 8 ≤ rows * columns) (source : σ) :
    exists maze board later exit side, (generate rows columns source).1 = .ok maze ∧
      (maze.rows : Int) = rows ∧ (maze.columns : Int) = columns ∧
      Carves ((Board.closed maze.rows maze.columns).withSeen maze.startCell) [maze.startCell]
        source board later ∧
      maze.exit = some exit ∧ maze.walls = (board.withOpen exit side).rowsOfWalls ∧
      maze.Perfect := by
  have hheight : 0 < rows.toNat := by omega
  have hwidth : 0 < columns.toNat := by omega
  rcases builtFrom_generateWithin hheight hwidth source with ⟨board, exit, side, places, h⟩
  rcases h.carves with ⟨later, hcarves⟩
  refine ⟨_, board, later, exit, side, generate_eq_ok hrows hcolumns hroom source, ?_, ?_, hcarves,
    h.exit, h.walls, h.perfect hheight hwidth (room_toNat hrows hcolumns hroom)⟩
  · exact Int.toNat_of_nonneg (by omega)
  · exact Int.toNat_of_nonneg (by omega)

/-- In two rows of four cells the exit can be the start itself. -/
theorem generate_perfect_two_by_four :
    exists maze board later exit side, (generate 2 4 (Twister.ofSeed 7)).1 = .ok maze ∧
      (maze.rows : Int) = 2 ∧ (maze.columns : Int) = 4 ∧
      Carves ((Board.closed maze.rows maze.columns).withSeen maze.startCell) [maze.startCell]
        (Twister.ofSeed 7) board later ∧
      maze.exit = some exit ∧ maze.walls = (board.withOpen exit side).rowsOfWalls ∧
      maze.Perfect :=
  generate_perfect (by decide) (by decide) (by decide) (Twister.ofSeed 7)

end Maze
end Mosaic
