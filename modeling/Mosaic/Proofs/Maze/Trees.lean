import Mathlib.Combinatorics.SimpleGraph.Acyclic
import Mosaic.Proofs.Maze.Carving

/-!
# Trees of passages

The cells of a rectangle and the passages between them are a graph.  The walk that carves a maze
opens a wall only towards a cell that no passage leads to, so no passage closes a cycle.  As it also
joins every cell to its start, its passages are a tree in the end.
-/

namespace Mosaic
namespace Maze

abbrev Cell (rows columns : Nat) : Type := { place : Position // place.Inside rows columns }

theorem card_of_nodup {α : Type} {P : α -> Prop} {values : List α} (hnodup : values.Nodup)
    (hmem : forall value, value ∈ values ↔ P value) :
    Nat.card { value // P value } = values.length :=
  Nat.subtype_card ⟨(values : Multiset α), hnodup⟩ hmem

instance (rows columns : Nat) : Fintype (Cell rows columns) :=
  Fintype.subtype ⟨(positions rows columns : Multiset Position), nodup_positions rows columns⟩
    fun _ => mem_positions

theorem card_cell (rows columns : Nat) : Nat.card (Cell rows columns) = rows * columns :=
  (card_of_nodup (nodup_positions rows columns) fun _ => mem_positions).trans
    (length_positions rows columns)

section Passages

variable {rows columns : Nat} {plan : Position -> Option Walls}

theorem Passage.ne {place next : Position} (h : Passage rows columns plan place next) :
    place ≠ next := by
  rintro rfl
  rcases h with ⟨side, hbeyond, _⟩
  rcases Position.beyond?_eq_some hbeyond with ⟨_, hrow, _⟩ | ⟨_, hcolumn, _⟩ | ⟨_, hrow, _⟩ |
    ⟨_, hcolumn, _⟩
  · omega
  · omega
  · omega
  · omega

/-- The cells of a rectangle, with an edge for each passage. -/
def passageGraph (rows columns : Nat) (plan : Position -> Option Walls) :
    SimpleGraph (Cell rows columns) where
  Adj place next := Passage rows columns plan place.val next.val
  symm := ⟨fun place _ h => h.symm place.property⟩
  loopless := ⟨fun _ h => h.ne rfl⟩

theorem passageGraph_adj {place next : Cell rows columns} :
    (passageGraph rows columns plan).Adj place next ↔
      Passage rows columns plan place.val next.val := Iff.rfl

theorem Way.reachable {place last : Position} (h : Way rows columns plan place last)
    (hplace : place.Inside rows columns) (hlast : last.Inside rows columns) :
    (passageGraph rows columns plan).Reachable ⟨place, hplace⟩ ⟨last, hlast⟩ := by
  induction h with
  | here => exact SimpleGraph.Reachable.rfl
  | step hway hpassage ih =>
      rename_i middle next
      have hmiddle := hway.inside hplace
      have hedge : (passageGraph rows columns plan).Adj ⟨middle, hmiddle⟩ ⟨next, hlast⟩ := hpassage
      exact (ih hmiddle).trans hedge.reachable

theorem connected_of_ways {start : Position} (hstart : start.Inside rows columns)
    (hways : forall place : Position, place.Inside rows columns -> Way rows columns plan start place) :
    (passageGraph rows columns plan).Connected := by
  have hreach : forall place : Cell rows columns,
      (passageGraph rows columns plan).Reachable ⟨start, hstart⟩ place :=
    fun place => (hways place.val place.property).reachable hstart place.property
  have hnonempty : Nonempty (Cell rows columns) := ⟨⟨start, hstart⟩⟩
  exact ⟨fun place next => (hreach place).symm.trans (hreach next)⟩

end Passages

/-!
## One move
-/

namespace Board

theorem passage_joined_iff {board : Board} {place next cell other : Position} {side : Side}
    (hfull : board.IsFull) (houtlined : board.IsOutlined)
    (hplace : place.Inside board.rows board.columns)
    (hbeyond : place.beyond? board.rows board.columns side = some next) :
    Passage board.rows board.columns (board.joined place next side).wallsAt? cell other ↔
      Passage board.rows board.columns board.wallsAt? cell other ∨
        cell = place ∧ other = next ∨ cell = next ∧ other = place := by
  have hjoined := passage_joined hfull hplace hbeyond
  constructor
  · intro h
    rcases h with ⟨face, hother, hcell, _⟩
    rcases isOpen_joined_cases hcell with hbefore | ⟨rfl, rfl⟩ | ⟨rfl, rfl⟩
    · rcases houtlined cell face hbefore with ⟨neighbour, hneighbour, hback⟩
      rw [hother] at hneighbour
      cases hneighbour
      exact Or.inl ⟨face, hother, hbefore, hback⟩
    · rw [hbeyond] at hother
      cases hother
      exact Or.inr (Or.inl ⟨rfl, rfl⟩)
    · rw [Position.beyond?_opposite hplace hbeyond] at hother
      cases hother
      exact Or.inr (Or.inr ⟨rfl, rfl⟩)
  · intro h
    rcases h with hbefore | ⟨rfl, rfl⟩ | ⟨rfl, rfl⟩
    · exact hbefore.imp fun _ _ hopen => isOpen_joined hopen
    · exact hjoined
    · exact hjoined.symm hplace

theorem passageGraph_joined {board : Board} {place next : Position} {side : Side}
    (hfull : board.IsFull) (houtlined : board.IsOutlined)
    (hplace : place.Inside board.rows board.columns)
    (hbeyond : place.beyond? board.rows board.columns side = some next) :
    passageGraph board.rows board.columns (board.joined place next side).wallsAt? =
      passageGraph board.rows board.columns board.wallsAt? ⊔
        SimpleGraph.edge ⟨place, hplace⟩ ⟨next, Position.inside_of_beyond? hplace hbeyond⟩ := by
  have hjoined := passage_joined hfull hplace hbeyond
  ext cell other
  rw [SimpleGraph.sup_adj, SimpleGraph.edge_adj, passageGraph_adj, passageGraph_adj,
    passage_joined_iff hfull houtlined hplace hbeyond, Subtype.ext_iff, Subtype.ext_iff,
    Subtype.ext_iff, Subtype.ext_iff, ne_eq, Subtype.ext_iff]
  constructor
  · intro h
    rcases h with hbefore | hnew
    · exact Or.inl hbefore
    · refine Or.inr ⟨hnew, ?_⟩
      rcases hnew with ⟨hcell, hother⟩ | ⟨hcell, hother⟩
      · rw [hcell, hother]
        exact hjoined.ne
      · rw [hcell, hother]
        exact hjoined.ne.symm
  · intro h
    rcases h with hbefore | ⟨hnew, _⟩
    · exact Or.inl hbefore
    · exact Or.inr hnew

/-- A board whose passages close no cycle and lead to no unseen cell. -/
structure Forest (board : Board) : Prop where
  sealed : forall place side, IsOpen board.wallsAt? place side -> board.hasSeen place = true
  acyclic : (passageGraph board.rows board.columns board.wallsAt?).IsAcyclic

theorem forest_closed (rows columns : Nat) (start : Position) :
    ((closed rows columns).withSeen start).Forest := by
  constructor
  · exact fun _ _ hopen => absurd hopen not_isOpen_closed
  · have hnone : passageGraph rows columns (closed rows columns).wallsAt? = ⊥ := by
      ext cell other
      rw [passageGraph_adj, SimpleGraph.bot_adj, iff_false]
      intro h
      rcases h with ⟨_, _, hopen, _⟩
      exact not_isOpen_closed hopen
    show (passageGraph rows columns (closed rows columns).wallsAt?).IsAcyclic
    rw [hnone]
    exact SimpleGraph.isAcyclic_bot

theorem Forest.not_reachable {board : Board} (h : board.Forest)
    {place next : Cell board.rows board.columns} (hne : place ≠ next)
    (hfresh : board.hasSeen next.val = false) :
    Not ((passageGraph board.rows board.columns board.wallsAt?).Reachable place next) := by
  intro hreach
  rcases hreach.symm with ⟨walk⟩
  cases walk with
  | nil => exact hne rfl
  | cons hedge _ =>
      rcases passageGraph_adj.mp hedge with ⟨_, _, hopen, _⟩
      rw [h.sealed _ _ hopen] at hfresh
      cases hfresh

/-- A move to an unseen neighbour closes no cycle. -/
theorem Forest.forth {start place next : Position} {side : Side} {board : Board}
    {trail : List Position} (h : board.Forest) (hcarved : Carved start board (place :: trail))
    (hbeyond : place.beyond? board.rows board.columns side = some next)
    (hfresh : board.hasSeen next = false) : (board.joined place next side).Forest := by
  have hseen := hcarved.behind place (by simp)
  have hplace := hcarved.inside_of_hasSeen hseen
  have hjoined := passage_joined hcarved.full hplace hbeyond
  constructor
  · intro cell face hopen
    refine (hasSeen_joined hcarved.full (Position.inside_of_beyond? hplace hbeyond) cell).mpr ?_
    rcases isOpen_joined_cases hopen with hbefore | ⟨rfl, _⟩ | ⟨rfl, _⟩
    · exact Or.inl (h.sealed cell face hbefore)
    · exact Or.inl hseen
    · exact Or.inr rfl
  · show (passageGraph board.rows board.columns (board.joined place next side).wallsAt?).IsAcyclic
    rw [passageGraph_joined hcarved.full hcarved.outlined hplace hbeyond]
    refine SimpleGraph.IsAcyclic.sup_edge_of_not_reachable ?_ h.acyclic
    exact h.not_reachable (fun hsame => hjoined.ne (congrArg Subtype.val hsame)) hfresh

end Board

/-!
## The whole walk
-/

variable {σ : Type} [RandomSource σ]

theorem Carves.forest {start : Position} {board after : Board} {trail : List Position}
    {source later : σ} (walk : Carves board trail source after later)
    (hcarved : Board.Carved start board trail) (h : board.Forest) : after.Forest := by
  induction walk with
  | done => exact h
  | back hnone _ ih => exact ih (hcarved.back hnone) h
  | forth hsome hchosen _ ih =>
      rcases unseen_of_choose hsome hchosen with ⟨hbeyond, hfresh⟩
      exact ih (hcarved.forth hbeyond) (h.forth hcarved hbeyond hfresh)

namespace Board

/-- Once the walk is back at its start, the passages are a tree. -/
theorem Carved.isTree {start : Position} {board : Board} (h : Carved start board [])
    (hforest : board.Forest) :
    (passageGraph board.rows board.columns board.wallsAt?).IsTree := by
  refine ⟨connected_of_ways h.inside ?_, hforest.acyclic⟩
  exact fun place hplace => h.joined place (h.hasSeen_of_inside hplace)

theorem passageGraph_withOpen {board : Board} {exit : Position} {side : Side}
    (houter : exit.beyond? board.rows board.columns side = none) :
    passageGraph board.rows board.columns (board.withOpen exit side).wallsAt? =
      passageGraph board.rows board.columns board.wallsAt? := by
  -- both ends of a passage have a neighbour on its side, and the gap has none
  have hkept : forall (cell : Position) (face : Side) (other : Position),
      cell.beyond? board.rows board.columns face = some other ->
      IsOpen (board.withOpen exit side).wallsAt? cell face -> IsOpen board.wallsAt? cell face := by
    intro cell face other hother hopen
    rcases isOpen_withOpen_cases hopen with hbefore | ⟨rfl, rfl⟩
    · exact hbefore
    · rw [houter] at hother
      cases hother
  ext cell other
  rw [passageGraph_adj, passageGraph_adj]
  constructor
  · intro h
    rcases h with ⟨face, hother, hcellOpen, hotherOpen⟩
    have hback := Position.beyond?_opposite cell.property hother
    exact ⟨face, hother, hkept _ _ _ hother hcellOpen, hkept _ _ _ hback hotherOpen⟩
  · exact fun h => h.imp fun _ _ hopen => isOpen_withOpen_of_isOpen hopen exit side

end Board

end Maze
end Mosaic
