import Mosaic.Proofs.Maze.Progress
import Mosaic.Proofs.Run.Reproducing
import Mosaic.Proofs.Run.Sized

/-!
# What a full score means

Each mode has its own measure, and each measure is full in one way only.  A table that scores in full
has every row of the target that holds a colour; lamps do if just those are lit that should be; a
screen does if all of its cells are right; and a maze does if everything in it is collected.
-/

namespace Mosaic
namespace Grid

def lights (grid : Grid) : List (List Bool) := grid.map fun row => row.map Option.isSome

/-- A grid has every row of a target that holds a colour, at the same index. -/
def HasRowsOf (grid target : Grid) : Prop :=
  forall (index : Nat) (row : List Cell), target[index]? = some row -> isEmptyRow row = false ->
    grid[index]? = some row

theorem outline_lights (grid : Grid) : grid.lights.map List.length = grid.outline := by
  unfold lights outline
  rw [List.map_map]
  refine List.map_congr_left fun row _ => ?_
  exact List.length_map _

theorem outline_codes (grid : Grid) : grid.codes.map List.length = grid.outline := by
  unfold codes outline
  rw [List.map_map]
  refine List.map_congr_left fun row _ => ?_
  exact List.length_map _

theorem code_injective {left right : Cell} (h : left.code = right.code) : left = right := by
  cases left with
  | none =>
      cases right with
      | none => rfl
      | some color => exact absurd h (Nat.ne_of_lt color.code_pos)
  | some color =>
      cases right with
      | none => exact absurd h.symm (Nat.ne_of_lt color.code_pos)
      | some other => exact congrArg some (Color.code_inj h)

theorem codes_injective {grid other : Grid} (h : grid.codes = other.codes) : grid = other := by
  refine (List.map_inj_right fun left right hrows => ?_).mp h
  exact (List.map_inj_right fun _ _ => code_injective).mp hrows

theorem nonEmptyRows_cons (row : List Cell) (rest : Grid) :
    nonEmptyRows (row :: rest) = nonEmptyRows rest + if isEmptyRow row then 0 else 1 := by
  unfold nonEmptyRows
  rw [List.countP_cons]
  cases isEmptyRow row with
  | true => rfl
  | false => rfl

theorem hasRowsOf_cons {wanted : List Cell} {rest grid : Grid} :
    HasRowsOf grid (wanted :: rest) ↔
      (isEmptyRow wanted = false -> grid[0]? = some wanted) ∧ HasRowsOf grid.tail rest := by
  unfold HasRowsOf
  constructor
  · intro h
    constructor
    · exact h 0 wanted rfl
    · intro index row hrow hlit
      rw [List.getElem?_tail]
      exact h (index + 1) row hrow hlit
  · intro h index row hrow hlit
    cases index with
    | zero =>
        cases hrow
        exact h.left hlit
    | succ index =>
        rw [← List.getElem?_tail]
        exact h.right index row hrow hlit

end Grid

namespace Score

/-!
## Rows
-/

theorem matchingRows_cons (wanted shown : List Cell) (rest others : Grid) :
    matchingRows (wanted :: rest) (shown :: others) =
      matchingRows rest others +
        if Grid.isEmptyRow wanted = false ∧ shown = wanted then 1 else 0 := by
  unfold matchingRows
  rw [List.zip_cons_cons, List.countP_cons]
  simp

theorem matchingRows_nil (target : Grid) : matchingRows target [] = 0 := by
  unfold matchingRows
  rw [List.zip_nil_right]
  rfl

theorem matchingRows_le (target current : Grid) :
    matchingRows target current ≤ target.nonEmptyRows := by
  induction target generalizing current with
  | nil => exact Nat.le_refl 0
  | cons wanted rest ih =>
      cases current with
      | nil =>
          rw [matchingRows_nil]
          exact Nat.zero_le _
      | cons shown others =>
          have hrest := ih others
          rw [matchingRows_cons, Grid.nonEmptyRows_cons]
          cases Grid.isEmptyRow wanted with
          | true => simpa using hrest
          | false =>
              split
              · exact Nat.succ_le_succ hrest
              · exact Nat.le_succ_of_le hrest

theorem nonEmptyRows_le_matchingRows_iff {target current : Grid} :
    target.nonEmptyRows ≤ matchingRows target current ↔ current.HasRowsOf target := by
  induction target generalizing current with
  | nil =>
      constructor
      · intro _ index row hrow
        cases hrow
      · intro _
        exact Nat.le_refl 0
  | cons wanted rest ih =>
      have hbound := matchingRows_le rest current.tail
      rw [Grid.nonEmptyRows_cons, Grid.hasRowsOf_cons, ← ih]
      cases current with
      | nil =>
          simp only [matchingRows_nil, List.tail_nil]
          cases Grid.isEmptyRow wanted with
          | true => simp
          | false => simp
      | cons shown others =>
          rw [matchingRows_cons]
          cases Grid.isEmptyRow wanted with
          | true => simp
          | false =>
              simp only [List.tail_cons] at hbound ⊢
              by_cases hsame : shown = wanted
              · simp [hsame]
              · simp [hsame]
                omega

theorem ofGrids_matchingRows (target current : Option Grid) :
    ofGrids matchingRows target current = matchingRows (target.getD []) (current.getD []) := by
  unfold ofGrids
  split
  · rfl
  · rename_i hmissing
    cases target with
    | none => rfl
    | some wanted =>
        cases current with
        | none => exact (matchingRows_nil wanted).symm
        | some shown =>
            cases wanted with
            | nil => rfl
            | cons first rest =>
                cases shown with
                | nil => exact (matchingRows_nil (first :: rest)).symm
                | cons row others => exact absurd rfl (hmissing first rest row others rfl)

/-!
## Lamps
-/

theorem countP_hits_add_misses {α : Type} (wanted shown : α -> Bool) (cells : List α) :
    cells.countP (fun cell => wanted cell && shown cell) +
      cells.countP (fun cell => wanted cell && !shown cell) = cells.countP wanted := by
  induction cells with
  | nil => rfl
  | cons cell rest ih =>
      simp only [List.countP_cons]
      rw [← ih]
      cases wanted cell with
      | true =>
          cases shown cell with
          | true =>
              simp
              omega
          | false =>
              simp
              omega
      | false => simp

/-- The right cells less the wrong ones are as many as there should be only if none is wrong. -/
theorem countP_le_hits_iff {α : Type} {wanted shown : α -> Bool} {cells : List α}
    (hpositive : 0 < cells.countP wanted) :
    cells.countP wanted ≤
        cells.countP (fun cell => wanted cell && shown cell) -
          cells.countP (fun cell => !wanted cell && shown cell) ↔
      forall cell, cell ∈ cells -> wanted cell = shown cell := by
  have hsplit := countP_hits_add_misses wanted shown cells
  constructor
  · intro h cell hcell
    have hmissed : cells.countP (fun cell => wanted cell && !shown cell) = 0 := by omega
    have hwrong : cells.countP (fun cell => !wanted cell && shown cell) = 0 := by omega
    have hnotMissed := List.countP_eq_zero.mp hmissed cell hcell
    have hnotWrong := List.countP_eq_zero.mp hwrong cell hcell
    revert hnotMissed hnotWrong
    cases wanted cell with
    | true => simp
    | false => simp
  · intro h
    have hmissed : cells.countP (fun cell => wanted cell && !shown cell) = 0 := by
      apply List.countP_eq_zero.mpr
      intro cell hcell
      simp [h cell hcell]
    have hwrong : cells.countP (fun cell => !wanted cell && shown cell) = 0 := by
      apply List.countP_eq_zero.mpr
      intro cell hcell
      simp [h cell hcell]
    omega

section Zipped

variable {α : Type} {front back : List α}

theorem map_fst_zip (h : front.length = back.length) : (front.zip back).map Prod.fst = front :=
  List.map_fst_zip (Nat.le_of_eq h)

theorem map_snd_zip (h : front.length = back.length) : (front.zip back).map Prod.snd = back :=
  List.map_snd_zip (Nat.le_of_eq h.symm)

theorem countP_fst_zip (h : front.length = back.length) (test : α -> Bool) :
    ((front.zip back).countP fun pair => test pair.1) = front.countP test := by
  have hmap := List.countP_map (p := test) (f := Prod.fst) (l := front.zip back)
  rw [map_fst_zip h] at hmap
  exact hmap.symm

theorem forall_zip_iff {β : Type} (h : front.length = back.length) (test : α -> β) :
    (forall pair, pair ∈ front.zip back -> test pair.1 = test pair.2) ↔
      front.map test = back.map test := by
  rw [← List.map_inj_left]
  have hfront : (front.zip back).map (fun pair => test pair.1) = front.map test := by
    rw [← congrArg (List.map test) (map_fst_zip h), List.map_map]
    rfl
  have hback : (front.zip back).map (fun pair => test pair.2) = back.map test := by
    rw [← congrArg (List.map test) (map_snd_zip h), List.map_map]
    rfl
  rw [hfront, hback]

end Zipped

theorem flatten_lights (grid : Grid) :
    grid.lights.flatten = grid.codes.flatten.map fun code => code != 0 := by
  unfold Grid.lights Grid.codes
  rw [← List.map_flatten, ← List.map_flatten, List.map_map]
  refine List.map_congr_left fun cell _ => ?_
  exact (code_ne_zero cell).symm

theorem length_codes_of_outline {target current : Grid} (h : target.outline = current.outline) :
    target.codes.flatten.length = current.codes.flatten.length := by
  rw [List.length_flatten, List.length_flatten, Grid.outline_codes, Grid.outline_codes, h]

theorem paired?_of_outline {target current : Grid} (h : target.outline = current.outline) :
    target.codes.paired? current.codes =
      some (target.codes.flatten.zip current.codes.flatten) :=
  CodeTable.paired?_of_widths (by rw [Grid.outline_codes, Grid.outline_codes, h])

theorem paired?_of_outline_ne {target current : Grid} (h : target.outline ≠ current.outline) :
    target.codes.paired? current.codes = none :=
  CodeTable.paired?_of_widths_ne (by rwa [Grid.outline_codes, Grid.outline_codes])

theorem lampQuarters_of_outline {target current : Grid} (h : target.outline = current.outline) :
    lampQuarters target.codes current.codes =
      (target.codes.flatten.zip current.codes.flatten).countP
          (fun pair => pair.1 != 0 && pair.2 != 0) -
        (target.codes.flatten.zip current.codes.flatten).countP
          (fun pair => !(pair.1 != 0) && pair.2 != 0) := by
  unfold lampQuarters
  rw [paired?_of_outline h]
  simp only [bne, Bool.not_not]

theorem litCells_le_lampQuarters_iff {target current : Grid} (h : 0 < target.litCells) :
    target.litCells ≤ lampQuarters target.codes current.codes ↔ target.lights = current.lights := by
  by_cases houtline : target.outline = current.outline
  · have hlength := length_codes_of_outline houtline
    have hlit : (target.codes.flatten.zip current.codes.flatten).countP
        (fun pair => pair.1 != 0) = target.litCells := by
      rw [← countNonzero_codes]
      exact countP_fst_zip hlength fun code => code != 0
    have hflat : target.lights = current.lights ↔ target.lights.flatten = current.lights.flatten := by
      rw [List.eq_iff_flatten_eq, Grid.outline_lights, Grid.outline_lights]
      simp [houtline]
    rw [lampQuarters_of_outline houtline, hflat, flatten_lights, flatten_lights,
      ← forall_zip_iff hlength, ← hlit]
    rw [← hlit] at h
    exact countP_le_hits_iff h
  · have hother : target.lights ≠ current.lights := by
      intro hsame
      apply houtline
      rw [← Grid.outline_lights, ← Grid.outline_lights, hsame]
    unfold lampQuarters
    rw [paired?_of_outline_ne houtline]
    constructor
    · intro hnone
      exact absurd h (Nat.not_lt.mpr hnone)
    · intro hsame
      exact absurd hsame hother

/-!
## The screen
-/

theorem length_le_matchingCells_iff {target current : Grid} (h : 0 < current.flatten.length) :
    current.flatten.length ≤ matchingCells target.codes current.codes ↔ target = current := by
  constructor
  · intro hfull
    by_cases houtline : target.outline = current.outline
    · have hlength := length_codes_of_outline houtline
      have hcells : (target.codes.flatten.zip current.codes.flatten).length =
          current.flatten.length := by
        rw [List.length_zip, hlength, Nat.min_self, length_codes]
      unfold matchingCells at hfull
      rw [paired?_of_outline houtline, ← hcells] at hfull
      have hall := List.countP_eq_length.mp (Nat.le_antisymm List.countP_le_length hfull)
      have hsame : target.codes.flatten.map id = current.codes.flatten.map id := by
        refine (forall_zip_iff hlength id).mp fun pair hpair => ?_
        exact beq_iff_eq.mp (hall pair hpair)
      rw [List.map_id, List.map_id] at hsame
      apply Grid.codes_injective
      apply List.eq_iff_flatten_eq.mpr
      rw [Grid.outline_codes, Grid.outline_codes]
      exact ⟨hsame, houtline⟩
    · unfold matchingCells at hfull
      rw [paired?_of_outline_ne houtline] at hfull
      exact absurd h (Nat.not_lt.mpr hfull)
  · intro hsame
    subst hsame
    exact Nat.le_of_eq ((matchingCells_self target.codes).trans (length_codes target)).symm

theorem fullScreen_le_screenQuarters_iff (right : Nat) :
    fullScreen ≤ screenQuarters right ↔ 256 ≤ right := by
  unfold fullScreen screenQuarters
  omega

theorem length_flatten_of_outline {grid : Grid} {rows columns : Nat}
    (h : grid.outline = List.replicate rows columns) : grid.flatten.length = rows * columns := by
  rw [List.length_flatten]
  unfold Grid.outline at h
  rw [h, List.sum_replicate_nat]

end Score

/-!
## Mazes
-/

namespace Maze

theorem collectedValue_le (items : List Item) :
    ((items.filter Item.collected).map fun item => item.kind.value).foldr (· + ·) 0 ≤
      (items.map fun item => item.kind.value).foldr (· + ·) 0 := by
  induction items with
  | nil => exact Nat.le_refl 0
  | cons item rest ih =>
      rw [List.filter_cons]
      split
      · exact Nat.add_le_add_left ih _
      · exact Nat.le_trans ih (Nat.le_add_left _ _)

theorem value_pos (kind : ItemKind) : 0 < kind.value := by
  cases kind with
  | leaf => decide
  | carrot => decide

theorem maxScore_le_collectedValue_iff (maze : Maze) :
    maze.maxScore ≤ maze.collectedValue ↔
      forall item, item ∈ maze.items -> item.collected = true := by
  constructor
  · unfold maxScore collectedValue
    induction maze.items with
    | nil => simp
    | cons item rest ih =>
        intro hfull
        have hbound := collectedValue_le rest
        have hpositive := value_pos item.kind
        rw [List.filter_cons] at hfull
        split at hfull
        · rename_i hcollected
          have hrest := ih (Nat.le_of_add_le_add_left hfull)
          intro other hother
          rcases List.mem_cons.mp hother with rfl | hlater
          · exact hcollected
          · exact hrest other hlater
        · rw [List.map_cons, List.foldr_cons] at hfull
          omega
  · intro hall
    exact Nat.le_of_eq (collectedValue_of_all hall).symm

end Maze
end Mosaic
