import Mosaic.Proofs.Goal.Strips
import Mosaic.Proofs.Run.Dots

/-!
# Table goals show something

A first strip always lands on the table, so every table goal has a lit cell.  A challenge lights ten
different rows, and the strips that land later put none of them out: its time budget is that of ten
rows at least.
-/

namespace Mosaic
namespace Grid

theorem length_le_nonEmptyRows {grid : Grid} {rows : List Nat} (hapart : rows.Nodup)
    (hlit : forall row, row ∈ rows -> grid.LitAt row) : rows.length ≤ grid.nonEmptyRows := by
  have hsub : rows ⊆ (grid.zipIdx.filter fun numbered => !isEmptyRow numbered.1).map Prod.snd := by
    intro row hrow
    rcases hlit row hrow with ⟨cells, hcells, hcell⟩
    refine List.mem_map.mpr ⟨(cells, row), List.mem_filter.mpr ⟨?_, ?_⟩, rfl⟩
    · exact List.mem_zipIdx_iff_getElem?.mpr hcells
    · rw [isEmptyRow_eq_false_iff.mpr hcell, Bool.not_false]
  calc
    rows.length ≤ ((grid.zipIdx.filter fun numbered => !isEmptyRow numbered.1).map Prod.snd).length :=
      (List.subperm_of_subset hapart hsub).length_le
    _ = (grid.zipIdx.map Prod.fst).countP fun row => !isEmptyRow row := by
      rw [List.length_map, List.countP_map, List.countP_eq_length_filter]
      rfl
    _ = grid.nonEmptyRows := by
      rw [List.zipIdx_map_fst]
      rfl

theorem isPicture_blank (rows columns : Nat) : (blank rows columns).IsPicture rows columns := by
  constructor
  · exact length_blank rows columns
  · exact blank_isRectangular rows columns
  · intro row column color hcell
    rcases inside_of_cell? (blank_isRectangular rows columns) hcell with ⟨hrow, hcolumn⟩
    rw [length_blank] at hrow
    rw [cell?_blank hrow hcolumn] at hcell
    cases hcell

theorem IsPrimary.paintStrip {grid : Grid} (h : grid.IsPrimary) (row column count : Nat)
    {color : Color} (hcolor : color.IsPrimary) :
    (grid.paintStrip row column count (some color)).IsPrimary := by
  intro atRow atColumn shown hcell
  rw [cell?_paintStrip] at hcell
  rcases Option.map_eq_some_iff.mp hcell with ⟨cell, hbefore, hshown⟩
  split at hshown
  · cases hshown
    exact hcolor
  · rw [hshown] at hbefore
    exact h atRow atColumn shown hbefore

theorem IsPicture.row {grid : Grid} {rows columns row : Nat} (h : grid.IsPicture rows columns)
    (hrow : row < rows) : exists cells, grid[row]? = some cells ∧ cells.length = columns := by
  have hinside : row < grid.length := h.length.symm ▸ hrow
  exact ⟨grid[row], List.getElem?_eq_getElem hinside, h.rectangular _ (List.getElem_mem hinside)⟩

end Grid

namespace Goal

open Draw

theorem keptByStrips_isPicture (rows columns : Nat) :
    KeptByStrips fun grid => grid.IsPicture rows columns := by
  intro grid row column count color hcolor h
  constructor
  · exact (Grid.length_paintStrip grid row column count (some color)).trans h.length
  · exact Run.isRectangular_modify h.rectangular
      (fun cells => Grid.length_paintRow column count (some color) cells) row
  · exact h.primary.paintStrip row column count hcolor

variable {σ : Type} [RandomSource σ]

theorem always_withStrip_lights {rows columns : Nat} (hrows : 0 < rows) (hcolumns : 0 < columns)
    {grid : Grid} (h : grid.IsPicture rows columns) :
    Always (withStrip rows columns grid : Draw σ Grid) Grid.IsLit := by
  unfold withStrip
  refine always_bind (always_below hrows) fun row hrow =>
    always_bind (always_below hcolumns) fun column hcolumn =>
      always_bind (always_any _) fun color _ => always_bind (always_any _) fun count _ =>
        always_pure ?_
  rcases h.row hrow with ⟨cells, hcells, hwidth⟩
  exact Grid.isLit_iff.mpr
    ⟨row, Grid.paintStrip_lights hcells (hwidth.symm ▸ hcolumn) (Nat.succ_pos count) color⟩

theorem always_drawTable :
    Always (drawTable : Draw σ Grid) fun grid => exists rows columns,
      (3 ≤ rows ∧ rows ≤ 12) ∧ (3 ≤ columns ∧ columns ≤ 12) ∧
        grid.IsPicture rows columns ∧ grid.IsLit := by
  unfold drawTable
  refine always_bind (always_between (by decide)) fun rows hrows =>
    always_bind (always_between (by decide)) fun columns hcolumns =>
      always_bind (always_between (by decide)) fun strips hstrips => ?_
  have hblank := Grid.isPicture_blank rows columns
  have hpicture :=
    always_withStrips (σ := σ) (keptByStrips_isPicture rows columns) rows columns strips hblank
  refine (hpicture.and ?_).imp fun grid hgrid => ⟨rows, columns, hrows, hcolumns, hgrid⟩
  cases strips with
  | zero => omega
  | succ strips =>
      unfold withStrips
      exact always_bind (always_withStrip_lights (by omega) (by omega) hblank) fun next hnext =>
        always_withStrips keptByStrips_isLit rows columns strips hnext

theorem always_withFilledRows_lights {rows columns : Nat} (hcolumns : 2 ≤ columns)
    {chosen : List Nat} (hchosen : forall row, row ∈ chosen -> row < rows) {grid : Grid}
    (h : grid.IsPicture rows columns) :
    Always (withFilledRows columns chosen grid : Draw σ Grid) fun filled =>
      forall row, row ∈ chosen -> filled.LitAt row := by
  induction chosen generalizing grid with
  | nil => exact always_pure nofun
  | cons first rest ih =>
      unfold withFilledRows
      refine always_bind (always_between (by decide)) fun count hcount => ?_
      rcases h.row (hchosen first List.mem_cons_self) with ⟨cells, hcells, hwidth⟩
      have hlit := withRowStrips_lights (σ := σ) (by omega : 0 < count) hcolumns hcells hwidth
      have hpicture := @always_withRowStrips σ _ _ (keptByStrips_isPicture rows columns) columns first
        count 0 grid h
      refine always_bind (hlit.and hpicture) fun next hnext => ?_
      have hfirst := always_withFilledRows (σ := σ) (keptByStrips_litAt first) columns rest hnext.left
      have hrest := ih (fun row hrow => hchosen row (List.mem_cons_of_mem first hrow)) hnext.right
      refine (hfirst.and hrest).imp fun filled hfilled => ?_
      exact List.forall_mem_cons.mpr hfilled

/-- Whatever different rows are chosen, all of them show something in the end: the strips that land
anywhere put none of them out. -/
theorem always_filled {rows columns : Nat} (hcolumns : 2 ≤ columns) {chosen : List Nat}
    (hapart : chosen.Nodup) (hinside : forall row, row ∈ chosen -> row < rows) :
    Always (do
      let filled <- withFilledRows columns chosen (Grid.blank rows columns)
      let extra <- between 0 2
      withStrips rows columns extra filled : Draw σ Grid) fun grid =>
        grid.IsPicture rows columns ∧ chosen.length ≤ grid.nonEmptyRows := by
  have hblank := Grid.isPicture_blank rows columns
  have hkept : KeptByStrips fun grid => forall row, row ∈ chosen -> grid.LitAt row :=
    fun grid row column count color hcolor h lit hlit =>
      keptByStrips_litAt lit grid row column count color hcolor (h lit hlit)
  have hpictures := keptByStrips_isPicture rows columns
  have hfilled := (always_withFilledRows_lights (σ := σ) hcolumns hinside hblank).and
    (always_withFilledRows hpictures columns chosen hblank)
  refine always_bind hfilled fun filled hfilled => always_bind (always_any _) fun extra _ => ?_
  have hlit := always_withStrips (σ := σ) hkept rows columns extra hfilled.left
  have hpicture := always_withStrips (σ := σ) hpictures rows columns extra hfilled.right
  exact (hpicture.and hlit).imp fun grid hgrid =>
    ⟨hgrid.left, Grid.length_le_nonEmptyRows hapart hgrid.right⟩

theorem always_drawChallengeTable :
    Always (drawChallengeTable : Draw σ Grid) fun grid => exists rows columns,
      (challengeRows ≤ rows ∧ rows ≤ 14) ∧ (7 ≤ columns ∧ columns ≤ 14) ∧
        grid.IsPicture rows columns ∧ challengeRows ≤ grid.nonEmptyRows := by
  unfold drawChallengeTable
  refine always_bind (always_between (by decide)) fun rows hrows =>
    always_bind (always_between (by decide)) fun columns hcolumns =>
      always_bind (always_sample hrows.left) fun chosen hchosen => ?_
  rcases hchosen with ⟨hlength, hapart, hinside⟩
  refine (always_filled (by omega) hapart hinside).imp fun grid hgrid => ?_
  exact ⟨rows, columns, hrows, hcolumns, hgrid.left, hlength ▸ hgrid.right⟩

theorem drawChallengeTable_isLit : Always (drawChallengeTable : Draw σ Grid) Grid.IsLit := by
  refine always_drawChallengeTable.imp fun grid hgrid => ?_
  rcases hgrid with ⟨_, _, _, _, _, hrows⟩
  exact Grid.nonEmptyRows_pos_iff.mp (Nat.lt_of_lt_of_le (by decide) hrows)

theorem always_drawTimedTable (secondsPerRow : Int) :
    Always (drawTimedTable secondsPerRow : Draw σ (Grid × Int)) fun table =>
      exists rows columns, (challengeRows ≤ rows ∧ rows ≤ 14) ∧ (7 ≤ columns ∧ columns ≤ 14) ∧
        table.1.IsPicture rows columns ∧ challengeRows ≤ table.1.nonEmptyRows ∧
          table.2 = secondsPerRow * table.1.nonEmptyRows := by
  unfold drawTimedTable
  refine always_bind always_drawChallengeTable fun grid hgrid => always_pure ?_
  rcases hgrid with ⟨rows, columns, hrows, hcolumns, hpicture, hlit⟩
  exact ⟨rows, columns, hrows, hcolumns, hpicture, hlit, rfl⟩

theorem drawChallenge_table {mode : Mode} (hmode : mode.declaresSize = true) {secondsPerRow : Int}
    (hpace : 0 < secondsPerRow) (mazeBudget : Int) :
    Always (drawChallenge mode secondsPerRow mazeBudget : Draw σ (Except Fault Goal))
      fun result => exists grid seconds,
        result = .ok ⟨mode, some grid, none, some seconds, none⟩ ∧ 0 < seconds := by
  unfold drawChallenge
  rw [if_pos hmode]
  refine always_bind (always_drawTimedTable secondsPerRow) fun table htable =>
    always_pure ⟨table.1, table.2, rfl, ?_⟩
  rcases htable with ⟨_, _, _, _, _, hlit, hbudget⟩
  have hrows : 0 < table.1.nonEmptyRows := Nat.lt_of_lt_of_le (by decide) hlit
  rw [hbudget]
  exact Int.mul_pos hpace (by omega)

end Goal
end Mosaic
