import Mosaic.Proofs.Run.Even
import Mosaic.Proofs.Scoring

/-!
# Grids measured as values

The measures of values that nobody has checked fail on values that are no grids.  On a grid with rows
of one width none of them fails, and each gives the same as the measure of the grid.
-/

namespace Mosaic

def Grid.valueOf (grid : Option Grid) : Document := grid.elim .null Grid.toDocument

def Grid.rowValue (row : List Cell) : Document := .list (row.map Cell.toDocument)

namespace Document

theorem same_toDocument (left right : Cell) :
    same left.toDocument right.toDocument = decide (left = right) := by
  cases left with
  | none =>
      cases right with
      | none => rfl
      | some color => rfl
  | some color =>
      cases right with
      | none => rfl
      | some other =>
          show (color.letter.toString == other.letter.toString) = decide (some color = some other)
          cases color <;> cases other <;> decide

theorem sameItems_toDocument (left right : List Cell) :
    sameItems (left.map Cell.toDocument) (right.map Cell.toDocument) = decide (left = right) := by
  induction left generalizing right with
  | nil =>
      cases right with
      | nil => rfl
      | cons cell rest => rfl
  | cons cell rest ih =>
      cases right with
      | nil => rfl
      | cons other others =>
          rw [List.map_cons, List.map_cons, sameItems, same_toDocument, ih]
          simp

end Document

namespace Loose

theorem members_toDocument (grid : Grid) :
    members grid.toDocument = .ok (grid.map Grid.rowValue) := rfl

theorem isGiven_toDocument (grid : Grid) : grid.toDocument.isGiven = !grid.isEmpty := by
  cases grid with
  | nil => rfl
  | cons row rest => rfl

theorem isGiven_valueOf (grid : Option Grid) :
    (Grid.valueOf grid).isGiven = !(grid.getD []).isEmpty := by
  cases grid with
  | none => rfl
  | some grid => exact isGiven_toDocument grid

/-!
## Rows
-/

theorem isEmptyRow_rowValue (row : List Cell) :
    isEmptyRow (Grid.rowValue row) = .ok (Grid.isEmptyRow row) := by
  show Except.ok ((row.map Cell.toDocument).all isNull) = _
  unfold Grid.isEmptyRow
  rw [List.all_map]
  congr 2
  funext cell
  cases cell with
  | none => rfl
  | some color => rfl

theorem memberAt_toDocument {grid : Grid} {index : Nat} (h : index < grid.length) :
    memberAt grid.toDocument index = .ok (Grid.rowValue grid[index]) := by
  have hmember : (grid.map Grid.rowValue)[index]? = some (Grid.rowValue grid[index]) := by
    rw [List.getElem?_map, List.getElem?_eq_getElem h]
    rfl
  have hlist : grid.toDocument = .list (grid.map Grid.rowValue) := rfl
  have hmembers : members (.list (grid.map Grid.rowValue)) = .ok (grid.map Grid.rowValue) := rfl
  rw [hlist]
  unfold memberAt
  simp only [bind, Except.bind, hmembers, hmember]
  rfl

theorem matchesAt_toDocument (current : Grid) (index : Nat) (wanted : List Cell) :
    matchesAt current.toDocument index (Grid.rowValue wanted) =
      .ok (!Grid.isEmptyRow wanted && decide (current[index]? = some wanted)) := by
  have hsize : size current.toDocument = .ok current.length := by
    show Except.ok (current.map Grid.rowValue).length = _
    rw [List.length_map]
  have hmembers : forall row, members (Grid.rowValue row) = .ok (row.map Cell.toDocument) :=
    fun row => rfl
  unfold matchesAt
  rw [isEmptyRow_rowValue]
  cases Grid.isEmptyRow wanted with
  | true => rfl
  | false =>
      simp only [bind, Except.bind, hsize, Bool.false_eq_true, if_false, Bool.not_false,
        Bool.true_and]
      by_cases hindex : index < current.length
      · simp only [Nat.not_le.mpr hindex, if_false, memberAt_toDocument hindex, hmembers,
          Document.sameItems_toDocument, List.getElem?_eq_getElem hindex, Option.some.injEq]
        rfl
      · simp only [Nat.le_of_not_lt hindex, if_true,
          List.getElem?_eq_none (Nat.le_of_not_lt hindex), reduceCtorEq, decide_false]
        rfl

theorem matchingRowsFrom_toDocument (target current : Grid) (index : Nat) :
    matchingRowsFrom current.toDocument index (target.map Grid.rowValue) =
      .ok (Score.matchingRows target (current.drop index)) := by
  induction target generalizing index with
  | nil => rfl
  | cons wanted rest ih =>
      rw [List.map_cons, matchingRowsFrom, matchesAt_toDocument, ih]
      refine congrArg Except.ok ?_
      by_cases hindex : index < current.length
      · rw [List.drop_eq_getElem_cons hindex, Score.matchingRows_cons, Nat.add_comm,
          List.getElem?_eq_getElem hindex]
        simp
      · have hbeyond := Nat.le_of_not_lt hindex
        rw [List.drop_of_length_le hbeyond, List.drop_of_length_le (Nat.le_succ_of_le hbeyond),
          Score.matchingRows_nil, Score.matchingRows_nil, List.getElem?_eq_none hbeyond]
        simp

theorem matchingRows_valueOf (target current : Option Grid) :
    matchingRows (Grid.valueOf target) (Grid.valueOf current) =
      .ok (Score.ofGrids Score.matchingRows target current) := by
  unfold matchingRows bothGiven Score.ofGrids
  rw [isGiven_valueOf, isGiven_valueOf]
  cases target with
  | none => rfl
  | some wanted =>
      cases current with
      | none => cases wanted <;> rfl
      | some shown =>
          cases wanted with
          | nil => rfl
          | cons first rest =>
              cases shown with
              | nil => rfl
              | cons row others =>
                  exact matchingRowsFrom_toDocument (first :: rest) (row :: others) 0

theorem bestRows_valueOf (target : Option Grid) :
    bestRows (Grid.valueOf target) = .ok (target.getD []).nonEmptyRows := by
  unfold bestRows
  rw [isGiven_valueOf]
  cases target with
  | none => rfl
  | some grid =>
      cases grid with
      | nil => rfl
      | cons row rest =>
          show nonEmptyRows (Grid.toDocument (row :: rest)) = _
          unfold nonEmptyRows
          rw [members_toDocument]
          have hrows : ((row :: rest).map Grid.rowValue).mapM isEmptyRow =
              .ok ((row :: rest).map Grid.isEmptyRow) :=
            Attempts.mapM_map_of_ok _ _ _ fun cells _ => isEmptyRow_rowValue cells
          simp only [bind, Except.bind, hrows]
          exact congrArg Except.ok (List.countP_map.trans rfl)

/-!
## Codes
-/

theorem cellCode_toDocument (cell : Cell) : cellCode cell.toDocument = .ok cell.code := by
  cases cell with
  | none => rfl
  | some color =>
      cases color with
      | _ => rfl

theorem rowCodes_rowValue (row : List Cell) :
    rowCodes (Grid.rowValue row) = .ok (row.map Cell.code) :=
  Attempts.mapM_map_of_ok Cell.toDocument Cell.code row fun cell _ => cellCode_toDocument cell

theorem isEven_codes {grid : Grid} (h : grid.IsEven) : CodeTable.IsEven grid.codes := by
  rcases h with ⟨columns, hcolumns⟩
  refine ⟨columns, fun row hrow => ?_⟩
  rcases List.mem_map.mp hrow with ⟨cells, hcells, rfl⟩
  rw [List.length_map, hcolumns cells hcells]

theorem codes_toDocument {grid : Grid} (h : grid.IsEven) :
    codes grid.toDocument = .ok grid.codes := by
  have hrows : (grid.map Grid.rowValue).mapM rowCodes = .ok grid.codes :=
    Attempts.mapM_map_of_ok _ _ _ fun row _ => rowCodes_rowValue row
  unfold codes
  rw [members_toDocument]
  simp only [bind, Except.bind, hrows]
  exact CodeTable.ofRows_of_isEven (isEven_codes h)

theorem ofCodes_valueOf (measure : CodeTable -> CodeTable -> Nat)
    {target current : Option Grid} (htarget : EvenIfAny target) (hcurrent : EvenIfAny current) :
    ofCodes measure (Grid.valueOf target) (Grid.valueOf current) =
      .ok (Score.ofGrids (fun wanted shown => measure wanted.codes shown.codes) target current) := by
  unfold ofCodes bothGiven Score.ofGrids
  rw [isGiven_valueOf, isGiven_valueOf]
  cases target with
  | none => rfl
  | some wanted =>
      cases current with
      | none => cases wanted <;> rfl
      | some shown =>
          cases wanted with
          | nil => rfl
          | cons first rest =>
              cases shown with
              | nil => rfl
              | cons row others =>
                  have hwanted := codes_toDocument (htarget _ rfl)
                  have hshown := codes_toDocument (hcurrent _ rfl)
                  show (codes (Grid.toDocument (first :: rest)) >>= fun wanted =>
                    codes (Grid.toDocument (row :: others)) >>= fun shown =>
                      pure (measure wanted shown)) = _
                  rw [hwanted, hshown]
                  rfl

theorem litCells_valueOf {target : Option Grid} (h : EvenIfAny target) :
    litCells (Grid.valueOf target) = .ok (target.getD []).litCells := by
  unfold litCells
  rw [isGiven_valueOf]
  cases target with
  | none => rfl
  | some grid =>
      cases grid with
      | nil => rfl
      | cons row rest =>
          show (codes (Grid.toDocument (row :: rest)) >>= fun table => pure table.countNonzero) = _
          rw [codes_toDocument (h _ rfl)]
          exact congrArg Except.ok (Score.countNonzero_codes _)

/-!
## Scores
-/

/-- The score of a run, with its grids taken as values that nobody has checked. -/
def scoreOfRun (run : Run) : Except Fault Score :=
  if run.mode = .maze then .ok (.points run.mazeScore)
  else score run.mode (Grid.valueOf run.target) (Grid.valueOf run.grid)

/-- The best score of a run, with its target taken as a value that nobody has checked. -/
def bestOfRun (run : Run) : Except Fault Score :=
  if run.mode = .maze then .ok (.points (run.maze.elim 0 fun maze => maze.maxScore))
  else best run.mode (Grid.valueOf run.target)

theorem scoreOfRun_of_even {run : Run} (h : run.Even) :
    scoreOfRun run = .ok (Score.ofRun run) := by
  unfold scoreOfRun score Score.ofRun
  cases run.mode with
  | maze => rfl
  | table =>
      simp only [reduceCtorEq, if_false, matchingRows_valueOf]
      rfl
  | grid =>
      simp only [reduceCtorEq, if_false, matchingRows_valueOf]
      rfl
  | matrix =>
      simp only [reduceCtorEq, if_false, lampQuarters, ofCodes_valueOf _ h.wanted h.shown]
      rfl
  | pixel =>
      simp only [reduceCtorEq, if_false, matchingCells, ofCodes_valueOf _ h.wanted h.shown]
      rfl

theorem bestOfRun_of_even {run : Run} (h : run.Even) :
    bestOfRun run = .ok (Score.bestOfRun run) := by
  unfold bestOfRun best Score.bestOfRun
  cases run.mode with
  | maze => rfl
  | table =>
      simp only [reduceCtorEq, if_false, bestRows_valueOf]
      rfl
  | grid =>
      simp only [reduceCtorEq, if_false, bestRows_valueOf]
      rfl
  | matrix =>
      simp only [reduceCtorEq, if_false, litCells_valueOf h.wanted]
      rfl
  | pixel =>
      simp only [reduceCtorEq, if_false, isGiven_valueOf]
      cases (run.target.getD []).isEmpty with
      | true => rfl
      | false => rfl

end Loose
end Mosaic
