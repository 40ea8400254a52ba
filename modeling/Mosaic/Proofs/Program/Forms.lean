import Mosaic.Proofs.Program.Numerals
import Mosaic.Proofs.Text.Pieces

/-!
# Forms of lines

A line in the form of a declaration is two numbers with a sign between them, and any other line of
numbers is made of words.  So a number of a line is a row of digits in it, and where all of these are
short, nothing but a problem of the program is in the way of reading the line.
-/

namespace Mosaic
namespace Program

theorem isNumber_iff {cs : List Char} :
    isNumber cs = true ↔ cs ≠ [] ∧ forall c, c ∈ cs -> Text.isDecimal c = true := by
  unfold isNumber
  rw [Bool.and_eq_true, Bool.not_eq_true', List.isEmpty_eq_false_iff, List.all_eq_true]

theorem isBlank_of_isDecimal {c : Char} (h : Text.isDecimal c = true) : Text.isBlank c = false :=
  (Text.not_padding_of_isDigitLike (Bool.or_eq_true_iff.mpr (Or.inl h))).left

theorem not_isDecimal_of_isBlank {c : Char} (h : Text.isBlank c = true) :
    Text.isDecimal c = false := by
  rw [Bool.eq_false_iff]
  intro hdecimal
  rw [isBlank_of_isDecimal hdecimal] at h
  cases h

theorem isWord_of_isNumber {cs : List Char} (h : isNumber cs = true) : Text.IsWord cs :=
  ⟨(isNumber_iff.mp h).left, fun c hc => isBlank_of_isDecimal ((isNumber_iff.mp h).right c hc)⟩

theorem head?_gap_append {gap rest : List Char} {c : Char} (hgap : Text.IsGap gap)
    (hc : Text.isDecimal c = false) :
    forall first, (gap ++ c :: rest).head? = some first -> Text.isDecimal first = false := by
  intro first hfirst
  cases gap with
  | nil =>
      cases hfirst
      exact hc
  | cons blank more =>
      cases hfirst
      exact not_isDecimal_of_isBlank (hgap first (by simp))

theorem declaration?_eq_some_iff {cs rows columns : List Char} :
    declaration? cs = some (rows, columns) ↔
      isNumber rows = true ∧ isNumber columns = true ∧ Text.LaidOut 0 [rows, ['#'], columns] cs := by
  constructor
  · intro h
    unfold declaration? at h
    simp only at h
    split at h
    · rename_i rest hsign
      split at h
      · rename_i hnumbers
        cases h
        rw [Bool.and_eq_true, Bool.not_eq_true', List.isEmpty_eq_false_iff] at hnumbers
        refine ⟨isNumber_iff.mpr ⟨hnumbers.left, fun c hc => ?_⟩, hnumbers.right, ?_⟩
        · exact List.all_eq_true.mp List.all_takeWhile c hc
        · refine Text.laidOut_cons_cons_iff.mpr ⟨_, '#' :: rest,
            Text.isGap_takeWhile (cs.dropWhile Text.isDecimal), Nat.zero_le _, ?_, ?_⟩
          · exact Text.laidOut_cons_cons_iff.mpr ⟨_, _, Text.isGap_takeWhile rest, Nat.zero_le _,
              .single _, by rw [List.takeWhile_append_dropWhile, List.singleton_append]⟩
          · rw [← hsign, List.takeWhile_append_dropWhile, List.takeWhile_append_dropWhile]
      · cases h
    · cases h
  · intro h
    rcases h with ⟨hrows, hcolumns, hout⟩
    rcases Text.laidOut_cons_cons_iff.mp hout with ⟨gap, behind, hgap, _, hbehind, rfl⟩
    rcases Text.laidOut_cons_cons_iff.mp hbehind with ⟨space, last, hspace, _, hlast, rfl⟩
    cases Text.laidOut_singleton_iff.mp hlast
    have hsign : Text.isDecimal '#' = false := by decide
    rcases Text.run_append (isNumber_iff.mp hrows).right
      (@head?_gap_append gap (space ++ columns) '#' hgap hsign) with ⟨htake, hdrop⟩
    have hskip : (gap ++ '#' :: (space ++ columns)).dropWhile Text.isBlank =
        '#' :: (space ++ columns) := by
      rw [List.dropWhile_append_of_pos hgap, List.dropWhile_cons_of_neg (by decide)]
    have hend : (space ++ columns).dropWhile Text.isBlank = columns := by
      refine (Text.run_append hspace fun c hc => ?_).right
      exact (isWord_of_isNumber hcolumns).right c (List.mem_of_head? hc)
    have hnumbers : (!rows.isEmpty && isNumber columns) = true := by
      rw [hcolumns, Bool.and_true, Bool.not_eq_true', List.isEmpty_eq_false_iff]
      exact (isNumber_iff.mp hrows).left
    unfold declaration?
    simp only [List.singleton_append, htake, hdrop, hskip, hend, hnumbers, if_true]

/-!
## Blank lines
-/

theorem parseLine_of_blank (mode : Mode) (line : Int) {cs : List Char} (h : Text.IsGap cs) :
    parseLine mode line cs = .ok [] := by
  unfold parseLine
  rw [Text.trim_eq_nil_iff.mpr h]
  rfl

/-- Outside PIXEL only a blank line asks for nothing. -/
theorem parseLine_eq_nil_iff {mode : Mode} (hmode : mode ≠ .pixel) {line : Int} {cs : List Char} :
    parseLine mode line cs = .ok [] ↔ Text.IsGap cs := by
  constructor
  · intro h
    unfold parseLine at h
    simp only at h
    split at h
    · rename_i hempty
      exact Text.trim_eq_nil_iff.mp (List.isEmpty_iff.mp hempty)
    · have hsingle : forall reading : Except Fault Primitive, single line reading ≠ .ok [] := by
        intro reading hnone
        rcases Attempts.map_eq_ok_iff.mp hnone with ⟨action, _, hcons⟩
        cases hcons
      cases mode with
      | pixel => exact absurd rfl hmode
      | table => exact absurd h (hsingle _)
      | grid => exact absurd h (hsingle _)
      | maze => exact absurd h (hsingle _)
      | matrix => exact absurd h (hsingle _)
  · exact parseLine_of_blank mode line

/-!
## Short numbers
-/

theorem splitSign_suffix (cs : List Char) : (Text.splitSign cs).2 <:+ cs := by
  unfold Text.splitSign
  split
  · exact List.suffix_cons _ _
  · exact List.suffix_cons _ _
  · exact List.suffix_rfl

theorem Writes.isInfix {mode : Mode} {cs numeral : List Char} {numerals : List (List Char)}
    (hne : cs ≠ []) (htight : Text.IsTight cs) (h : Writes mode cs numerals)
    (hnumeral : numeral ∈ numerals) : numeral <:+: cs ∧ isNumber numeral = true := by
  have hword : forall word, word ∈ Text.words cs -> word <:+: cs :=
    fun word => ((Text.words_eq_iff hne htight _).mp rfl).left.isInfix
  cases h with
  | declaration _ hform =>
      rcases declaration?_eq_some_iff.mp hform with ⟨hrows, hcolumns, hout⟩
      simp only [List.mem_cons, List.not_mem_nil, or_false] at hnumeral
      rcases hnumeral with rfl | rfl
      · exact ⟨hout.isInfix (by simp), hrows⟩
      · exact ⟨hout.isInfix (by simp), hcolumns⟩
  | strip _ hwords _ hnumbers =>
      rw [Bool.and_eq_true, Bool.and_eq_true] at hnumbers
      simp only [List.mem_cons, List.not_mem_nil, or_false] at hnumeral
      rcases hnumeral with rfl | rfl | rfl
      · exact ⟨hword _ (by simp [hwords]), hnumbers.left.left⟩
      · exact ⟨hword _ (by simp [hwords]), hnumbers.left.right⟩
      · exact ⟨hword _ (by simp [hwords]), hnumbers.right⟩
  | shifted _ hwords _ hnumbers =>
      rw [Bool.and_eq_true, Bool.and_eq_true] at hnumbers
      simp only [List.mem_cons, List.not_mem_nil, or_false] at hnumeral
      rcases hnumeral with rfl | rfl | rfl
      · exact ⟨hword _ (by simp [hwords]), hnumbers.left.left⟩
      · exact ⟨(splitSign_suffix _).isInfix.trans (hword _ (by simp [hwords])),
          hnumbers.left.right⟩
      · exact ⟨(splitSign_suffix _).isInfix.trans (hword _ (by simp [hwords])), hnumbers.right⟩
  | advance hwords _ hmove =>
      rw [Bool.and_eq_true] at hmove
      rw [List.mem_singleton.mp hnumeral]
      exact ⟨hword _ (by simp [hwords]), hmove.right⟩

theorem not_lineStumbles_of_short {mode : Mode} (hmode : mode ≠ .pixel) {line : Int} {cs : List Char}
    (h : Text.HasShortNumbers cs) : Not (LineStumbles mode line cs) := by
  intro hgiven
  rcases hgiven with ⟨hempty, hlong⟩
  rw [if_neg hmode] at hlong
  rcases hlong with ⟨numerals, numeral, hwrites, hnumeral, hlong⟩
  rcases hwrites.isInfix (List.isEmpty_eq_false_iff.mp hempty) (Text.isTight_trim cs) hnumeral with
    ⟨hinside, hnumber⟩
  have hshort := h numeral (hinside.trans (Text.trim_infix cs)) (isNumber_iff.mp hnumber).right
  exact absurd hlong (Nat.not_lt_of_le hshort)

theorem failsOver_parseLine_of_short {mode : Mode} (hmode : mode ≠ .pixel) {cs : List Char}
    (h : Text.HasShortNumbers cs) (line : Int) : FailsOver False (parseLine mode line cs) :=
  (failsOver_parseLine mode line cs).congr
    ⟨False.elim, fun hstumbles => not_lineStumbles_of_short hmode h hstumbles⟩

theorem failsOver_load_of_short {mode : Mode} (hmode : mode ≠ .pixel) {source : String}
    (h : Text.HasShortNumbers source.toList) : FailsOver False (load mode source) := by
  refine (failsOver_load mode source).congr ⟨False.elim, fun hstumbles => ?_⟩
  rcases hstumbles with ⟨before, cs, after, loaded, hrows, _, hline⟩
  have hcs : cs ∈ Text.lines source.toList := by simp [hrows]
  exact not_lineStumbles_of_short hmode (h.of_infix (Text.infix_of_mem_lines hcs)) hline

end Program
end Mosaic
