import Mosaic.Proofs.Program.Blaming
import Mosaic.Proofs.Program.Renderings

/-!
# Lines that are recognized

Each mode asks for a primitive exactly on the lines that render it, as far as their numbers can be
read.
-/

namespace Mosaic
namespace Program

open Text (Numeral SignedNumeral HasShortNumbers IsWord)

/-!
## Declarations
-/

theorem declare_eq_ok_iff {line : Int} {rows columns : List Char} {action : Primitive} :
    declare line rows columns = .ok action ↔ exists height width, number rows = .ok height ∧
      number columns = .ok width ∧ 1 ≤ height ∧ 1 ≤ width ∧ action = .declare height width := by
  rw [declare_eq, Attempts.bind_eq_ok_iff]
  constructor
  · rintro ⟨height, hheight, h⟩
    rcases Attempts.bind_eq_ok_iff.mp h with ⟨width, hwidth, h⟩
    split at h
    · cases h
    · cases h
      exact ⟨height, width, hheight, hwidth, by omega, by omega, rfl⟩
  · rintro ⟨height, width, hheight, hwidth, htall, hwide, rfl⟩
    refine ⟨height, hheight, Attempts.bind_eq_ok_iff.mpr ⟨width, hwidth, ?_⟩⟩
    rw [if_neg (by omega)]

theorem renders_of_declaration {mode : Mode} (hmode : mode.declaresSize = true)
    {cs rows columns : List Char} (hform : declaration? cs = some (rows, columns)) {line : Int}
    {action : Primitive} (h : declare line rows columns = .ok action) :
    action.Renders mode cs := by
  rcases declaration?_eq_some_iff.mp hform with ⟨hrows, hcolumns, hout⟩
  rcases declare_eq_ok_iff.mp h with ⟨height, width, hheight, hwidth, htall, hwide, rfl⟩
  exact ⟨_, .declare hmode (numeral_of_number hrows hheight) (numeral_of_number hcolumns hwidth)
    htall hwide, hout⟩

theorem declaration?_of_numerals {cs rows columns : List Char} {height width : Nat}
    (hrows : Numeral rows height) (hcolumns : Numeral columns width)
    (hout : Text.LaidOut 0 [rows, ['#'], columns] cs) :
    declaration? cs = some (rows, columns) :=
  declaration?_eq_some_iff.mpr
    ⟨(Text.numeral_iff.mp hrows).left, (Text.numeral_iff.mp hcolumns).left, hout⟩

theorem declare_of_numerals {rows columns : List Char} {height width : Nat}
    (hrows : Numeral rows height) (hcolumns : Numeral columns width)
    (hshort : HasShortNumbers rows ∧ HasShortNumbers columns) (htall : 1 ≤ height)
    (hwide : 1 ≤ width) (line : Int) :
    declare line rows columns = .ok (.declare height width) :=
  declare_eq_ok_iff.mpr ⟨height, width, number_eq_ok_of_numeral hrows hshort.left,
    number_eq_ok_of_numeral hcolumns hshort.right, htall, hwide, rfl⟩

/-!
## Strips
-/

theorem no_sharp_of_numeral {cs : List Char} {n : Nat} (h : Numeral cs n) : '#' ∉ cs := by
  intro hsharp
  have hdecimal := (isNumber_iff.mp (Text.numeral_iff.mp h).left).right '#' hsharp
  revert hdecimal
  decide

theorem no_sharp_of_signedNumeral {cs : List Char} {n : Int} (h : SignedNumeral cs n) :
    '#' ∉ cs := by
  cases h with
  | plain h => exact no_sharp_of_numeral h
  | plus h => exact List.not_mem_cons_of_ne_of_not_mem (by decide) (no_sharp_of_numeral h)
  | minus h => exact List.not_mem_cons_of_ne_of_not_mem (by decide) (no_sharp_of_numeral h)

theorem no_sharp_of_letter {color : Color} {c : Char} (h : Text.SameLetter color.letter c) :
    '#' ∉ [c] := by
  intro hsharp
  rw [← List.mem_singleton.mp hsharp] at h
  revert h
  unfold Text.SameLetter
  cases color with
  | _ => decide

theorem declaration?_of_words {cs : List Char} {row : List (List Char)} (hwords : Text.words cs = row)
    (h : forall word, word ∈ row -> '#' ∉ word) : declaration? cs = none := by
  cases hform : declaration? cs with
  | none => rfl
  | some sizes =>
      rcases sizes with ⟨rows, columns⟩
      have hsharp : '#' ∈ cs := by
        rcases declaration?_eq_some_iff.mp hform with ⟨_, _, hout⟩
        exact (hout.isInfix (show ['#'] ∈ [rows, ['#'], columns] by simp)).subset (by simp)
      have hinside : '#' ∈ (Text.words cs).flatten := by
        rw [Text.flatten_words]
        exact List.mem_filter.mpr ⟨hsharp, by decide⟩
      rcases List.mem_flatten.mp hinside with ⟨word, hword, hmem⟩
      rw [hwords] at hword
      exact absurd hmem (h word hword)

theorem stripLine_eq_ok_iff {line : Int} {cs : List Char}
    {fits : List Char -> List Char -> List Char -> Bool}
    {read : List Char -> Color -> List Char -> List Char -> Except Fault Primitive}
    {action : Primitive} :
    stripLine line cs fits read = .ok action ↔ exists count letter first second color,
      Text.words cs = [count, letter, first, second] ∧ primary? letter = some color ∧
        fits count first second = true ∧ read count color first second = .ok action := by
  unfold stripLine
  constructor
  · intro h
    split at h
    · rename_i count letter first second hwords
      split at h
      · rename_i color hcolor
        split at h
        · rename_i hfits
          exact ⟨count, letter, first, second, color, hwords, hcolor, hfits, h⟩
        · cases h
      · cases h
    · cases h
  · rintro ⟨count, letter, first, second, color, hwords, hcolor, hfits, hread⟩
    rw [hwords]
    simp only [hcolor, hfits, if_true, hread]

/-!
## Lines of each mode
-/

section

variable {line : Int} {cs : List Char} {action : Primitive} {pieces : List (List Char)}

theorem renders_of_tableLine (hne : cs ≠ []) (htight : Text.IsTight cs)
    (h : tableLine line cs = .ok action) : action.Renders .table cs := by
  cases hform : declaration? cs with
  | some sizes =>
      unfold tableLine at h
      rw [hform] at h
      exact renders_of_declaration rfl hform h
  | none =>
      rw [tableLine_of_other hform] at h
      rcases stripLine_eq_ok_iff.mp h with
        ⟨count, letter, row, column, color, hwords, hcolor, hnumbers, h⟩
      rw [Bool.and_eq_true, Bool.and_eq_true] at hnumbers
      rcases primary?_eq_some_iff.mp hcolor with ⟨hprimary, c, rfl, hletter⟩
      rcases Attempts.bind_eq_ok_iff.mp h with ⟨n, hn, h⟩
      rcases Attempts.bind_eq_ok_iff.mp h with ⟨i, hi, h⟩
      rcases Attempts.bind_eq_ok_iff.mp h with ⟨j, hj, h⟩
      cases Attempts.pure_eq_ok_iff.mp h
      exact ⟨_, .strip rfl (numeral_of_number hnumbers.left.left hn) hprimary hletter
        (numeral_of_number hnumbers.left.right hi) (numeral_of_number hnumbers.right hj),
        ((Text.words_eq_iff hne htight _).mp hwords).left⟩

theorem renders_of_gridLine (hne : cs ≠ []) (htight : Text.IsTight cs)
    (h : gridLine line cs = .ok action) : action.Renders .grid cs := by
  cases hform : declaration? cs with
  | some sizes =>
      unfold gridLine at h
      rw [hform] at h
      exact renders_of_declaration rfl hform h
  | none =>
      rw [gridLine_of_other hform] at h
      rcases stripLine_eq_ok_iff.mp h with
        ⟨count, letter, right, down, color, hwords, hcolor, hnumbers, h⟩
      rw [Bool.and_eq_true, Bool.and_eq_true] at hnumbers
      rcases primary?_eq_some_iff.mp hcolor with ⟨hprimary, c, rfl, hletter⟩
      rcases Attempts.bind_eq_ok_iff.mp h with ⟨n, hn, h⟩
      rcases Attempts.bind_eq_ok_iff.mp h with ⟨dx, hdx, h⟩
      rcases Attempts.bind_eq_ok_iff.mp h with ⟨dy, hdy, h⟩
      cases Attempts.pure_eq_ok_iff.mp h
      exact ⟨_, .shifted rfl (numeral_of_number hnumbers.left.left hn) hprimary hletter
        (signedNumeral_of_signedNumber hnumbers.left.right hdx)
        (signedNumeral_of_signedNumber hnumbers.right hdy),
        ((Text.words_eq_iff hne htight _).mp hwords).left⟩

theorem renders_of_mazeLine (hne : cs ≠ []) (htight : Text.IsTight cs)
    (h : mazeLine line cs = .ok action) : action.Renders .maze cs := by
  unfold mazeLine at h
  split at h
  · rename_i word amount hwords
    have hout := ((Text.words_eq_iff hne htight _).mp hwords).left
    split at h
    · rename_i hturn
      split at h
      · rename_i quarters hquarters
        cases h
        rcases quarters?_eq_some_iff.mp hquarters with ⟨hleast, hmost, rfl⟩
        exact ⟨_, .turn rfl ((isKeyword_iff isLower_turnWord).mp hturn) hleast hmost, hout⟩
      · cases h
    · split at h
      · rename_i hmove
        rw [Bool.and_eq_true] at hmove
        rcases Attempts.bind_eq_ok_iff.mp h with ⟨steps, hsteps, h⟩
        cases Attempts.pure_eq_ok_iff.mp h
        exact ⟨_, .advance rfl ((isKeyword_iff isLower_moveWord).mp hmove.left)
          (numeral_of_number hmove.right hsteps), hout⟩
      · cases h
  · cases h

theorem renders_of_matrixLine (h : matrixLine line cs = .ok action) :
    action.Renders .matrix cs := by
  unfold matrixLine at h
  split at h
  · rename_i sign rest
    split at h
    · rename_i on c hon hrest
      split at h
      · rename_i axis index hlamps
        cases h
        rcases lamps?_eq_some_iff.mp hlamps with ⟨hindex, hsame⟩
        cases switchesOn?_eq_some_iff.mp hon
        refine ⟨_, .switch rfl hindex hsame, Text.laidOut_cons_cons_iff.mpr
          ⟨_, _, Text.isGap_takeWhile rest, Nat.zero_le _, .single [c], ?_⟩⟩
        rw [← hrest, List.takeWhile_append_dropWhile, List.singleton_append]
      · cases h
    · cases h
  · cases h

theorem tableLine_of_pieces (h : action.Pieces .table pieces)
    (hshort : forall piece, piece ∈ pieces -> HasShortNumbers piece)
    (hout : Text.LaidOut action.leastGap pieces cs) : tableLine line cs = .ok action := by
  have hpieces := isWord_of_pieces h
  cases h with
  | declare _ hrows hcolumns htall hwide =>
      unfold tableLine
      rw [declaration?_of_numerals hrows hcolumns hout]
      exact declare_of_numerals hrows hcolumns ⟨hshort _ (by simp), hshort _ (by simp)⟩ htall hwide
        line
  | strip _ hcount hprimary hletter hrow hcolumn =>
      have hwords := hout.words_eq hpieces
      have hnone := declaration?_of_words hwords (by
        rw [List.forall_mem_cons, List.forall_mem_cons, List.forall_mem_cons,
          List.forall_mem_singleton]
        exact ⟨no_sharp_of_numeral hcount, no_sharp_of_letter hletter, no_sharp_of_numeral hrow,
          no_sharp_of_numeral hcolumn⟩)
      rw [tableLine_of_other hnone]
      refine stripLine_eq_ok_iff.mpr ⟨_, _, _, _, _, hwords,
        primary?_eq_some_iff.mpr ⟨hprimary, _, rfl, hletter⟩, ?_, ?_⟩
      · rw [(Text.numeral_iff.mp hcount).left, (Text.numeral_iff.mp hrow).left,
          (Text.numeral_iff.mp hcolumn).left]
        rfl
      · rw [number_eq_ok_of_numeral hcount (hshort _ (by simp)),
          number_eq_ok_of_numeral hrow (hshort _ (by simp)),
          number_eq_ok_of_numeral hcolumn (hshort _ (by simp))]
        rfl
  | shifted hmode => cases hmode
  | turn hmode => cases hmode
  | advance hmode => cases hmode
  | switch hmode => cases hmode

theorem gridLine_of_pieces (h : action.Pieces .grid pieces)
    (hshort : forall piece, piece ∈ pieces -> HasShortNumbers piece)
    (hout : Text.LaidOut action.leastGap pieces cs) : gridLine line cs = .ok action := by
  have hpieces := isWord_of_pieces h
  cases h with
  | declare _ hrows hcolumns htall hwide =>
      unfold gridLine
      rw [declaration?_of_numerals hrows hcolumns hout]
      exact declare_of_numerals hrows hcolumns ⟨hshort _ (by simp), hshort _ (by simp)⟩ htall hwide
        line
  | shifted _ hcount hprimary hletter hright hdown =>
      have hwords := hout.words_eq hpieces
      have hnone := declaration?_of_words hwords (by
        rw [List.forall_mem_cons, List.forall_mem_cons, List.forall_mem_cons,
          List.forall_mem_singleton]
        exact ⟨no_sharp_of_numeral hcount, no_sharp_of_letter hletter,
          no_sharp_of_signedNumeral hright, no_sharp_of_signedNumeral hdown⟩)
      rw [gridLine_of_other hnone]
      refine stripLine_eq_ok_iff.mpr ⟨_, _, _, _, _, hwords,
        primary?_eq_some_iff.mpr ⟨hprimary, _, rfl, hletter⟩, ?_, ?_⟩
      · rw [(Text.numeral_iff.mp hcount).left, (Text.signedNumeral_iff.mp hright).left,
          (Text.signedNumeral_iff.mp hdown).left]
        rfl
      · rw [number_eq_ok_of_numeral hcount (hshort _ (by simp)),
          signedNumber_eq_ok_of_numeral hright (hshort _ (by simp)),
          signedNumber_eq_ok_of_numeral hdown (hshort _ (by simp))]
        rfl
  | strip hmode => cases hmode
  | turn hmode => cases hmode
  | advance hmode => cases hmode
  | switch hmode => cases hmode

theorem mazeLine_of_pieces (h : action.Pieces .maze pieces)
    (hshort : forall piece, piece ∈ pieces -> HasShortNumbers piece)
    (hout : Text.LaidOut action.leastGap pieces cs) : mazeLine line cs = .ok action := by
  have hpieces := isWord_of_pieces h
  unfold mazeLine
  cases h with
  | turn _ hword hleast hmost =>
      rw [hout.words_eq hpieces]
      simp only [(isKeyword_iff isLower_turnWord).mpr hword, if_true,
        quarters?_eq_some_iff.mpr ⟨hleast, hmost, rfl⟩]
  | advance _ hword hamount =>
      have hmove := (isKeyword_iff isLower_moveWord).mpr hword
      rw [hout.words_eq hpieces]
      simp only [hmove, isKeyword_apart hmove, (Text.numeral_iff.mp hamount).left, Bool.and_self,
        number_eq_ok_of_numeral hamount (hshort _ (by simp))]
      rfl
  | declare hmode => cases hmode
  | strip hmode => cases hmode
  | shifted hmode => cases hmode
  | switch hmode => cases hmode

theorem matrixLine_of_pieces (h : action.Pieces .matrix pieces)
    (hout : Text.LaidOut action.leastGap pieces cs) : matrixLine line cs = .ok action := by
  cases h with
  | @switch on axis index c _ hindex hlamps =>
      rcases Text.laidOut_cons_cons_iff.mp hout with ⟨gap, behind, hgap, _, hbehind, rfl⟩
      cases Text.laidOut_singleton_iff.mp hbehind
      have hrest : (gap ++ [c]).dropWhile Text.isBlank = [c] := by
        rw [List.dropWhile_append_of_pos hgap,
          List.dropWhile_cons_of_neg (by simp [isBlank_address hindex hlamps])]
      unfold matrixLine
      simp only [List.singleton_append, switchesOn?_eq_some_iff.mpr rfl, hrest,
        lamps?_eq_some_iff.mpr ⟨hindex, hlamps⟩]
  | declare hmode => cases hmode
  | strip hmode => cases hmode
  | shifted hmode => cases hmode
  | turn hmode => cases hmode
  | advance hmode => cases hmode

/-!
## Lines of any mode
-/

theorem single_eq_once_iff {reading : Except Fault Primitive} :
    single line reading = .ok [.once ⟨line, action⟩] ↔ reading = .ok action := by
  unfold single
  rw [Attempts.map_eq_ok_iff]
  constructor
  · rintro ⟨only, honly, hsame⟩
    cases hsame
    exact honly
  · rintro rfl
    exact ⟨action, rfl, rfl⟩

theorem renders_of_parseLine {mode : Mode} (hmode : mode ≠ .pixel)
    (h : parseLine mode line cs = .ok [.once ⟨line, action⟩]) : action.Renders mode (Text.trim cs) := by
  unfold parseLine at h
  simp only at h
  split at h
  · cases h
  · rename_i hempty
    have hne : Text.trim cs ≠ [] := fun hnil => hempty (List.isEmpty_iff.mpr hnil)
    have htight := Text.isTight_trim cs
    cases mode with
    | table => exact renders_of_tableLine hne htight (single_eq_once_iff.mp h)
    | grid => exact renders_of_gridLine hne htight (single_eq_once_iff.mp h)
    | maze => exact renders_of_mazeLine hne htight (single_eq_once_iff.mp h)
    | matrix => exact renders_of_matrixLine (single_eq_once_iff.mp h)
    | pixel => exact absurd rfl hmode

theorem parseLine_of_pieces {mode : Mode} {body : List Char} (h : action.Pieces mode pieces)
    (hshort : forall piece, piece ∈ pieces -> HasShortNumbers piece)
    (hout : Text.LaidOut action.leastGap pieces body) (hpads : Text.Pads body cs) (line : Int) :
    parseLine mode line cs = .ok [.once ⟨line, action⟩] := by
  have hpieces := isWord_of_pieces h
  have hempty := List.isEmpty_eq_false_iff.mpr (hout.ne_nil hpieces)
  unfold parseLine
  rw [Text.trim_of_pads (hout.isTight hpieces) hpads]
  simp only [hempty]
  cases mode with
  | table => exact single_eq_once_iff.mpr (tableLine_of_pieces h hshort hout)
  | grid => exact single_eq_once_iff.mpr (gridLine_of_pieces h hshort hout)
  | maze => exact single_eq_once_iff.mpr (mazeLine_of_pieces h hshort hout)
  | matrix => exact single_eq_once_iff.mpr (matrixLine_of_pieces h hout)
  | pixel =>
      cases h with
      | declare hmode => cases hmode
      | strip hmode => cases hmode
      | shifted hmode => cases hmode
      | turn hmode => cases hmode
      | advance hmode => cases hmode
      | switch hmode => cases hmode

/-- Where the numbers are short, a line asks for the primitives that it renders. -/
theorem parseLine_eq_once_iff {mode : Mode} (hmode : mode ≠ .pixel) (hshort : HasShortNumbers cs) :
    parseLine mode line cs = .ok [.once ⟨line, action⟩] ↔
      exists body, Text.Pads body cs ∧ action.Renders mode body := by
  constructor
  · intro h
    exact ⟨Text.trim cs, Text.pads_trim cs, renders_of_parseLine hmode h⟩
  · rintro ⟨body, hpads, pieces, hpieces, hout⟩
    refine parseLine_of_pieces hpieces (fun piece hpiece => ?_) hout hpads line
    have hbody : body <:+: cs := by
      rcases hpads with ⟨front, back, _, _, rfl⟩
      exact ⟨front, back, List.append_assoc _ _ _⟩
    exact hshort.of_infix ((hout.isInfix hpiece).trans hbody)

theorem refused_of_not_renders {mode : Mode} (hmode : mode ≠ .pixel) (hshort : HasShortNumbers cs)
    (hfull : Not (Text.IsGap cs))
    (hother : forall (action : Primitive) body, Text.Pads body cs -> Not (action.Renders mode body)) :
    exists cause : Cause, parseLine mode line cs = .error (.program ⟨line, cause⟩) ∧
      cause.kind = .grammar := by
  cases hread : parseLine mode line cs with
  | error fault =>
      rcases (uniform_parseLine mode cs).problem_of_clear
        (failsOver_parseLine_of_short hmode hshort line) hread with ⟨cause, rfl, hkind⟩
      exact ⟨cause, rfl, List.mem_singleton.mp hkind⟩
  | ok ops =>
      rcases parseLine_cases hread with rfl | ⟨action, rfl, _⟩ | ⟨hpixel, _⟩
      · exact absurd ((parseLine_eq_nil_iff hmode).mp hread) hfull
      · exact absurd (renders_of_parseLine hmode hread) (hother action _ (Text.pads_trim cs))
      · exact absurd hpixel hmode

end

end Program
end Mosaic
