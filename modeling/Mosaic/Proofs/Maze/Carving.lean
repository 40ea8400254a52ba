import Mosaic.Proofs.Maze.Passages
import Mosaic.Proofs.Random.Draws

/-!
# The walk that carves a maze

All that the walk has seen is joined to its start, and a cell that it has left behind has no unseen
neighbour.  So when it is back at its start and has nowhere to go, it has seen every cell.  It gets
there in time: entering a cell uses up an unseen one, and going back a cell of its trail.
-/

namespace Mosaic
namespace Maze
namespace Board

theorem mem_sides (side : Side) : side ∈ sides := by
  cases side with
  | top => decide
  | right => decide
  | bottom => decide
  | left => decide

theorem mem_unseen {board : Board} {place next : Position} {side : Side} :
    (next, side) ∈ board.unseen place ↔
      place.beyond? board.rows board.columns side = some next ∧ board.hasSeen next = false := by
  unfold unseen
  rw [List.mem_filterMap]
  constructor
  · intro hgiven
    rcases hgiven with ⟨other, _, hother⟩
    split at hother
    · rename_i neighbour hbeyond
      split at hother
      · cases hother
      · rename_i hfresh
        cases hother
        exact ⟨hbeyond, by simpa using hfresh⟩
    · cases hother
  · intro hgiven
    rcases hgiven with ⟨hbeyond, hfresh⟩
    exact ⟨side, mem_sides side, by simp [hbeyond, hfresh]⟩

/-- A board on which a walk stands at the end of a trail from its start. -/
structure Carved (start : Position) (board : Board) (trail : List Position) : Prop where
  full : board.IsFull
  shape : board.IsRectangle
  outlined : board.IsOutlined
  inside : start.Inside board.rows board.columns
  begun : board.hasSeen start = true
  joined : forall place, board.hasSeen place = true ->
    Way board.rows board.columns board.wallsAt? start place
  behind : forall place, place ∈ trail -> board.hasSeen place = true
  settled : forall place, board.hasSeen place = true -> place ∉ trail -> forall side next,
    place.beyond? board.rows board.columns side = some next -> board.hasSeen next = true

theorem Carved.inside_of_hasSeen {start place : Position} {board : Board} {trail : List Position}
    (h : Carved start board trail) (hplace : board.hasSeen place = true) :
    place.Inside board.rows board.columns :=
  (h.joined place hplace).inside h.inside

theorem carved_start {rows columns : Nat} {start : Position}
    (hstart : start.Inside rows columns) :
    Carved start ((closed rows columns).withSeen start) [start] := by
  have hfull := isFull_closed rows columns
  have hseen : forall place,
      ((closed rows columns).withSeen start).hasSeen place = true ↔ place = start := by
    intro place
    rw [hasSeen_withSeen (hfull start hstart).right, hasSeen_closed]
    simp
  refine ⟨isFull_withSeen hfull start, isRectangle_closed rows columns,
    isOutlined_closed rows columns, hstart, (hseen start).mpr rfl, ?_, ?_, ?_⟩
  · intro place hplace
    rw [(hseen place).mp hplace]
    exact Way.here
  · intro place hplace
    exact (hseen place).mpr (List.mem_singleton.mp hplace)
  · intro place hplace houtside
    exact absurd (List.mem_singleton.mpr ((hseen place).mp hplace)) houtside

theorem Carved.back {start place : Position} {board : Board} {trail : List Position}
    (h : Carved start board (place :: trail)) (hnone : board.unseen place = []) :
    Carved start board trail := by
  refine ⟨h.full, h.shape, h.outlined, h.inside, h.begun, h.joined, ?_, ?_⟩
  · intro other hother
    exact h.behind other (List.mem_cons_of_mem place hother)
  · intro other hother houtside side next hbeyond
    by_cases hsame : other = place
    · subst hsame
      cases hseen : board.hasSeen next with
      | true => rfl
      | false =>
          have hmem := mem_unseen.mpr ⟨hbeyond, hseen⟩
          rw [hnone] at hmem
          cases hmem
    · exact h.settled other hother (by simp [hsame, houtside]) side next hbeyond

theorem hasSeen_joined {board : Board} {place next : Position} {side : Side}
    (hfull : board.IsFull) (hnext : next.Inside board.rows board.columns) (other : Position) :
    (board.joined place next side).hasSeen other = true ↔
      board.hasSeen other = true ∨ other = next :=
  hasSeen_withSeen (hfull next hnext).right other

theorem isOpen_joined {board : Board} {cell place next : Position} {face side : Side}
    (h : IsOpen board.wallsAt? cell face) :
    IsOpen (board.joined place next side).wallsAt? cell face :=
  isOpen_withOpen_of_isOpen (isOpen_withOpen_of_isOpen h place side) next side.opposite

theorem isOpen_joined_both {board : Board} {place next : Position} {side : Side}
    (hfull : board.IsFull) (hplace : place.Inside board.rows board.columns)
    (hbeyond : place.beyond? board.rows board.columns side = some next) :
    IsOpen (board.joined place next side).wallsAt? place side ∧
      IsOpen (board.joined place next side).wallsAt? next side.opposite := by
  have hnext := Position.inside_of_beyond? hplace hbeyond
  have hopened := isFull_withOpen hfull place side
  constructor
  · exact isOpen_withOpen_of_isOpen (isOpen_withOpen (hfull place hplace).left side) next
      side.opposite
  · exact isOpen_withOpen (hopened next hnext).left side.opposite

theorem passage_joined {board : Board} {place next : Position} {side : Side}
    (hfull : board.IsFull) (hplace : place.Inside board.rows board.columns)
    (hbeyond : place.beyond? board.rows board.columns side = some next) :
    Passage board.rows board.columns (board.joined place next side).wallsAt? place next :=
  ⟨side, hbeyond, isOpen_joined_both hfull hplace hbeyond⟩

theorem isOpen_joined_cases {board : Board} {cell place next : Position} {face side : Side}
    (h : IsOpen (board.joined place next side).wallsAt? cell face) :
    IsOpen board.wallsAt? cell face ∨ cell = place ∧ face = side ∨
      cell = next ∧ face = side.opposite := by
  rcases isOpen_withOpen_cases h with hbefore | hnext
  · rcases isOpen_withOpen_cases hbefore with hbefore | hplace
    · exact Or.inl hbefore
    · exact Or.inr (Or.inl hplace)
  · exact Or.inr (Or.inr hnext)

theorem isOutlined_joined {board : Board} {place next : Position} {side : Side}
    (hfull : board.IsFull) (houtlined : board.IsOutlined)
    (hplace : place.Inside board.rows board.columns)
    (hbeyond : place.beyond? board.rows board.columns side = some next) :
    (board.joined place next side).IsOutlined := by
  rcases isOpen_joined_both hfull hplace hbeyond with ⟨hthere, hback⟩
  intro cell face hopen
  rcases isOpen_joined_cases hopen with hbefore | ⟨rfl, rfl⟩ | ⟨rfl, rfl⟩
  · rcases houtlined cell face hbefore with ⟨neighbour, hneighbour, hopposite⟩
    exact ⟨neighbour, hneighbour, isOpen_joined hopposite⟩
  · exact ⟨next, hbeyond, hback⟩
  · refine ⟨place, Position.beyond?_opposite hplace hbeyond, ?_⟩
    rwa [opposite_opposite]

theorem Carved.forth {start place next : Position} {side : Side} {board : Board}
    {trail : List Position} (h : Carved start board (place :: trail))
    (hbeyond : place.beyond? board.rows board.columns side = some next) :
    Carved start (board.joined place next side) (next :: place :: trail) := by
  have hplace := h.behind place (by simp)
  have hinside := h.inside_of_hasSeen hplace
  have hseen := @hasSeen_joined board place next side h.full
    (Position.inside_of_beyond? hinside hbeyond)
  have hopen : forall cell face, IsOpen board.wallsAt? cell face ->
      IsOpen (board.joined place next side).wallsAt? cell face :=
    fun cell face hcell => isOpen_joined hcell
  refine ⟨?_, ?_, isOutlined_joined h.full h.outlined hinside hbeyond, h.inside,
    (hseen start).mpr (Or.inl h.begun), ?_, ?_, ?_⟩
  · exact isFull_withSeen (isFull_withOpen (isFull_withOpen h.full place side) next side.opposite)
      next
  · exact isRectangle_withOpen (isRectangle_withOpen h.shape place side) next side.opposite
  · intro other hother
    rcases (hseen other).mp hother with hbefore | rfl
    · exact (h.joined other hbefore).imp hopen
    · have hway : Way board.rows board.columns (board.joined place other side).wallsAt? start place :=
        (h.joined place hplace).imp hopen
      exact hway.step (passage_joined h.full hinside hbeyond)
  · intro other hother
    rcases List.mem_cons.mp hother with rfl | htrail
    · exact (hseen other).mpr (Or.inr rfl)
    · exact (hseen other).mpr (Or.inl (h.behind other htrail))
  · intro other hother houtside face neighbour hneighbour
    rw [List.mem_cons, not_or] at houtside
    rcases (hseen other).mp hother with hbefore | hnew
    · exact (hseen neighbour).mpr
        (Or.inl (h.settled other hbefore houtside.right face neighbour hneighbour))
    · exact absurd hnew houtside.left

/-!
## The end of the walk
-/

def unseenCount (board : Board) : Nat :=
  (positions board.rows board.columns).countP fun place => !board.hasSeen place

theorem unseenCount_joined {board : Board} {place next : Position} {side : Side}
    (hfull : board.IsFull) (hnext : next.Inside board.rows board.columns)
    (hfresh : board.hasSeen next = false) :
    (board.joined place next side).unseenCount < board.unseenCount := by
  have hseen := @hasSeen_joined board place next side hfull hnext
  have hnextSeen : (board.joined place next side).hasSeen next = true :=
    (hseen next).mpr (Or.inr rfl)
  have hperm := List.perm_cons_erase (mem_positions.mpr hnext)
  have hrest : List.countP (fun cell => !(board.joined place next side).hasSeen cell)
        ((positions board.rows board.columns).erase next) ≤
      List.countP (fun cell => !board.hasSeen cell)
        ((positions board.rows board.columns).erase next) := by
    refine List.countP_mono_left fun cell _ hcell => ?_
    simp only [Bool.not_eq_true', Bool.eq_false_iff, ne_eq] at hcell ⊢
    exact fun hbefore => hcell ((hseen cell).mpr (Or.inl hbefore))
  show List.countP _ (positions board.rows board.columns) < unseenCount board
  unfold unseenCount
  rw [hperm.countP_eq, hperm.countP_eq, List.countP_cons_of_neg (by simp [hnextSeen]),
    List.countP_cons_of_pos (by simp [hfresh])]
  omega

theorem unseenCount_start {rows columns : Nat} {start : Position}
    (hstart : start.Inside rows columns) :
    ((closed rows columns).withSeen start).unseenCount < rows * columns := by
  have hseen := (@carved_start rows columns start hstart).begun
  rw [← length_positions rows columns]
  unfold unseenCount
  rw [List.countP_eq_length_filter]
  refine List.length_filter_lt_length_iff_exists.mpr ⟨start, mem_positions.mpr hstart, ?_⟩
  rw [hseen]
  decide

/-- A walk that is back at its start has seen every cell. -/
theorem Carved.hasSeen_of_inside {start place : Position} {board : Board}
    (h : Carved start board []) (hplace : place.Inside board.rows board.columns) :
    board.hasSeen place = true :=
  Position.everywhere_of_somewhere
    (fun cell side next _ hcell hbeyond => h.settled cell hcell (by simp) side next hbeyond)
    h.inside h.begun hplace

end Board

/-!
## The whole walk
-/

variable {σ : Type} [RandomSource σ]

/-- A walk from the end of a trail until the trail is used up, however many moves that takes, with
the source of chance before and after it. -/
inductive Carves : Board -> List Position -> σ -> Board -> σ -> Prop
  | done {board : Board} {source : σ} : Carves board [] source board source
  | back {board after : Board} {place : Position} {trail : List Position} {source later : σ}
      (hnone : board.unseen place = []) (walk : Carves board trail source after later) :
      Carves board (place :: trail) source after later
  | forth {board after : Board} {place next : Position} {side : Side} {trail : List Position}
      {first : Position × Side} {others : List (Position × Side)} {source drawn later : σ}
      (hsome : board.unseen place = first :: others)
      (hchosen : Draw.choose first others source = ((next, side), drawn))
      (walk : Carves (board.joined place next side) (next :: place :: trail) drawn after later) :
      Carves board (place :: trail) source after later

theorem unseen_of_choose {board : Board} {place next : Position} {side : Side}
    {first : Position × Side} {others : List (Position × Side)} {source drawn : σ}
    (hsome : board.unseen place = first :: others)
    (hchosen : Draw.choose first others source = ((next, side), drawn)) :
    place.beyond? board.rows board.columns side = some next ∧ board.hasSeen next = false := by
  have hmem := Draw.always_choose first others source
  rw [hchosen, ← hsome] at hmem
  exact Board.mem_unseen.mp hmem

theorem carve_back {board : Board} {place : Position} (hnone : board.unseen place = [])
    (moves : Nat) (trail : List Position) :
    (carve (moves + 1) board (place :: trail) : Draw σ Board) = carve moves board trail := by
  rw [carve, hnone]

theorem carve_forth {board : Board} {place next : Position} {side : Side}
    {first : Position × Side} {others : List (Position × Side)} {source drawn : σ}
    (hsome : board.unseen place = first :: others)
    (hchosen : Draw.choose first others source = ((next, side), drawn))
    (moves : Nat) (trail : List Position) :
    carve (moves + 1) board (place :: trail) source =
      carve moves (board.joined place next side) (next :: place :: trail) drawn := by
  rw [carve, hsome]
  show (let chosen := Draw.choose first others source
    carve moves (board.joined place chosen.1.1 chosen.1.2) (chosen.1.1 :: place :: trail)
      chosen.2) = _
  rw [hchosen]

/-- A walk comes to its end: two moves for each unseen cell and one for each cell of the trail are
enough. -/
theorem carves_carve (moves : Nat) {start : Position} {board : Board} {trail : List Position}
    (h : Board.Carved start board trail)
    (hmoves : 2 * board.unseenCount + trail.length ≤ moves) (source : σ) :
    Carves board trail source (carve moves board trail source).1
      (carve moves board trail source).2 := by
  induction moves generalizing board trail source with
  | zero =>
      cases trail with
      | nil => exact Carves.done
      | cons place rest =>
          rw [List.length_cons] at hmoves
          omega
  | succ moves ih =>
      cases trail with
      | nil => exact Carves.done
      | cons place rest =>
          rw [List.length_cons] at hmoves
          cases hunseen : board.unseen place with
          | nil =>
              rw [carve_back hunseen]
              exact Carves.back hunseen (ih (h.back hunseen) (by omega) source)
          | cons first others =>
              rcases hchosen : Draw.choose first others source with ⟨⟨next, side⟩, drawn⟩
              rcases unseen_of_choose hunseen hchosen with ⟨hbeyond, hfresh⟩
              have hinside := h.inside_of_hasSeen (h.behind place (by simp))
              have hfewer := @Board.unseenCount_joined board place next side h.full
                (Position.inside_of_beyond? hinside hbeyond) hfresh
              -- a cell that is entered counts twice as unseen before, and once for the trail after
              have hlater := ih (h.forth hbeyond) (by
                rw [List.length_cons, List.length_cons]
                omega) drawn
              rw [carve_forth hunseen hchosen]
              exact Carves.forth hunseen hchosen hlater

theorem Carves.carved {start : Position} {board after : Board} {trail : List Position}
    {source later : σ} (walk : Carves board trail source after later)
    (h : Board.Carved start board trail) :
    Board.Carved start after [] ∧ after.rows = board.rows ∧ after.columns = board.columns := by
  induction walk with
  | done => exact ⟨h, rfl, rfl⟩
  | back hnone _ ih => exact ih (h.back hnone)
  | forth hsome hchosen _ ih => exact ih (h.forth (unseen_of_choose hsome hchosen).left)

theorem carves_closed {rows columns : Nat} {start : Position} (hstart : start.Inside rows columns)
    (source : σ) :
    Carves ((Board.closed rows columns).withSeen start) [start] source
      (carve (walkLength rows columns) ((Board.closed rows columns).withSeen start) [start] source).1
      (carve (walkLength rows columns) ((Board.closed rows columns).withSeen start) [start]
        source).2 := by
  have hcount := Board.unseenCount_start hstart
  refine carves_carve (walkLength rows columns) (Board.carved_start hstart) ?_ source
  unfold walkLength
  rw [List.length_singleton, Nat.mul_assoc]
  omega

end Maze
end Mosaic
