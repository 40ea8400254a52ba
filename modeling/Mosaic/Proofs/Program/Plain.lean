import Mosaic.Proofs.Document.Texts
import Mosaic.Proofs.Program.Stream
import Mosaic.Proofs.Text.Layout

/-!
# The characters of maze programs

A text that loads in MAZE is made of keywords, digits and white space, so it holds none of the
characters that lone halves are held as, and it stays as it is where texts are put together.
-/

namespace Mosaic
namespace Text

/-- A character in front of the first one that stands in for a half. -/
def IsLow (c : Char) : Prop := c.toNat < 0x10D800

instance (c : Char) : Decidable (IsLow c) := Nat.decLt c.toNat 0x10D800

theorem isLow_of_all {cs : List Char} (h : cs.all (fun c => IsLow c) = true) :
    forall c, c ∈ cs -> IsLow c :=
  fun c hc => of_decide_eq_true (List.all_eq_true.mp h c hc)

theorem lt_of_inRanges {ranges : List (Nat × Nat)} {point bound : Nat}
    (hall : ranges.all (fun range => range.2 < bound) = true)
    (h : inRanges ranges point = true) : point < bound := by
  rcases inRanges_mem h with ⟨range, hrange, _, hhigh⟩
  exact Nat.lt_of_le_of_lt hhigh (of_decide_eq_true (List.all_eq_true.mp hall range hrange))

theorem isLow_of_isBlank {c : Char} (h : isBlank c = true) : IsLow c :=
  lt_of_inRanges (by decide) h

theorem isLow_of_isDecimal {c : Char} (h : isDecimal c = true) : IsLow c := by
  have hlike : isDigitLike c = true := by
    unfold isDigitLike
    rw [h, Bool.true_or]
  have hall : digitRanges.all (fun range => range.2 < 0x10D800) = true := by decide
  rcases isDigitLike_mem hlike with ⟨range, hrange, _, hhigh⟩
  exact Nat.lt_of_le_of_lt hhigh (of_decide_eq_true (List.all_eq_true.mp hall range hrange))

theorem keywordLetter_of_not_isLow {c : Char} (h : Not (IsLow c)) : keywordLetter c = c := by
  have hfar : 0x10D800 ≤ c.toNat := Nat.le_of_not_lt h
  have hdotted : c ≠ '\u0130' := by
    intro hsame
    rw [hsame] at hfar
    revert hfar
    decide
  have hdotless : c ≠ '\u0131' := by
    intro hsame
    rw [hsame] at hfar
    revert hfar
    decide
  have hcapital : Not (c.val ≥ 'A'.val ∧ c.val ≤ 'Z'.val) := by
    rintro ⟨_, hle⟩
    rw [UInt32.le_iff_toNat_le] at hle
    exact absurd (Nat.le_trans hfar hle) (by decide)
  unfold keywordLetter Char.toLower
  rw [if_neg (by simp [hdotted, hdotless]), dif_neg hcapital]

theorem isLow_of_isKeyword {word cs : List Char} (hword : forall c, c ∈ word -> IsLow c)
    (h : isKeyword word cs = true) : forall c, c ∈ cs -> IsLow c := by
  intro c hc
  have hletters : cs.map keywordLetter = word := by
    unfold isKeyword at h
    exact beq_iff_eq.mp h
  have hletter : IsLow (keywordLetter c) := by
    refine hword _ ?_
    rw [← hletters]
    exact List.mem_map_of_mem hc
  refine Decidable.byContradiction fun hfar => ?_
  rw [keywordLetter_of_not_isLow hfar] at hletter
  exact hfar hletter

theorem isLow_of_filter {cs : List Char}
    (h : forall c, c ∈ cs.filter (fun c => !isBlank c) -> IsLow c) :
    forall c, c ∈ cs -> IsLow c := by
  intro c hc
  cases hblank : isBlank c with
  | true => exact isLow_of_isBlank hblank
  | false => exact h c (List.mem_filter.mpr ⟨hc, by rw [hblank]; rfl⟩)

theorem isLow_of_words {cs : List Char} (h : forall word, word ∈ words cs -> forall c, c ∈ word ->
    IsLow c) : forall c, c ∈ cs -> IsLow c := by
  refine isLow_of_filter fun c hc => ?_
  rw [← flatten_words] at hc
  rcases List.mem_flatten.mp hc with ⟨word, hword, hletter⟩
  exact h word hword c hletter

theorem isLow_of_trim {cs : List Char} (h : forall c, c ∈ trim cs -> IsLow c) :
    forall c, c ∈ cs -> IsLow c := by
  refine isLow_of_filter fun c hc => ?_
  rw [← filter_trim] at hc
  exact h c (List.mem_filter.mp hc).left

theorem isLow_of_lines {cs : List Char} (h : forall line, line ∈ lines cs -> forall c, c ∈ line ->
    IsLow c) : forall c, c ∈ cs -> IsLow c := by
  intro c hc
  by_cases hfeed : c = '\n'
  · rw [hfeed]
    decide
  · have hinside : c ∈ (lines cs).flatten := by
      rw [flatten_lines, List.mem_filter, decide_eq_true_eq]
      exact ⟨hc, hfeed⟩
    rcases List.mem_flatten.mp hinside with ⟨line, hline, hletter⟩
    exact h line hline c hletter

end Text

namespace Program

open Text (IsLow)

theorem isLow_of_quarters? {cs : List Char} {quarters : Nat} (h : quarters? cs = some quarters) :
    forall c, c ∈ cs -> IsLow c := by
  unfold quarters? at h
  split at h
  · exact Text.isLow_of_all (by decide)
  · exact Text.isLow_of_all (by decide)
  · exact Text.isLow_of_all (by decide)
  · cases h

theorem isLow_of_isNumber {cs : List Char} (h : isNumber cs = true) :
    forall c, c ∈ cs -> IsLow c := by
  intro c hc
  unfold isNumber at h
  exact Text.isLow_of_isDecimal (List.all_eq_true.mp (Bool.and_eq_true_iff.mp h).right c hc)

theorem isLow_of_mazeLine {line : Int} {cs : List Char} {action : Primitive}
    (h : mazeLine line cs = .ok action) : forall c, c ∈ cs -> IsLow c := by
  have hturn : forall c, c ∈ turnWord -> IsLow c := Text.isLow_of_all (by decide)
  have hmove : forall c, c ∈ moveWord -> IsLow c := Text.isLow_of_all (by decide)
  refine Text.isLow_of_words ?_
  unfold mazeLine at h
  split at h
  · rename_i word amount hwords
    rw [hwords]
    simp only [List.mem_cons, List.not_mem_nil, or_false, forall_eq_or_imp, forall_eq]
    split at h
    · rename_i hkeyword
      split at h
      · rename_i hquarters
        exact ⟨Text.isLow_of_isKeyword hturn hkeyword, isLow_of_quarters? hquarters⟩
      · cases h
    · split at h
      · rename_i hboth
        rw [Bool.and_eq_true] at hboth
        exact ⟨Text.isLow_of_isKeyword hmove hboth.left, isLow_of_isNumber hboth.right⟩
      · cases h
  · cases h

theorem isLow_of_parseLine {line : Int} {cs : List Char} {ops : List Op}
    (h : parseLine .maze line cs = .ok ops) : forall c, c ∈ cs -> IsLow c := by
  refine Text.isLow_of_trim ?_
  unfold parseLine at h
  simp only at h
  split at h
  · rename_i hempty
    rw [List.isEmpty_iff.mp hempty]
    nofun
  · rcases Attempts.map_eq_ok_iff.mp h with ⟨action, haction, _⟩
    exact isLow_of_mazeLine haction

theorem isLow_of_loadLines {line : Int} {size final : Option (Nat × Nat)}
    {rows : List (List Char)} {commands : List Command}
    (h : loadLines .maze line size rows = .ok (commands, final)) :
    forall row, row ∈ rows -> forall c, c ∈ row -> IsLow c := by
  induction rows generalizing line size commands with
  | nil => nofun
  | cons cs rest ih =>
      rcases loadLines_cons h with ⟨actions, extent, others, hline, hrest, _⟩
      rcases Attempts.bind_eq_ok_iff.mp hline with ⟨ops, hops, _⟩
      rw [List.forall_mem_cons]
      exact ⟨isLow_of_parseLine hops, ih hrest⟩

/-- A text that loads in MAZE is not changed by putting halves together. -/
theorem rejoined_of_load {source : String} {program : Program}
    (h : load .maze source = .ok program) : Text.rejoined source = source := by
  refine Text.rejoined_of_no_reserved fun c hc => Text.isReserved_of_low ?_
  exact Text.isLow_of_lines (isLow_of_loadLines (load_eq_ok h).right.right) c hc

end Program
end Mosaic
