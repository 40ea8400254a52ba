import Mosaic.Proofs.Program.Recognizing

/-!
# Printed primitives

A primitive is printed as its pieces, in small or capital letters and with white space between them
and around them.  It is read back, as long as its numbers are not too long to be read.
-/

namespace Mosaic

namespace Primitive

def words : Primitive -> List (List Char)
  | strip count color row column =>
      [Nat.toDigits 10 count, [color.letter], Nat.toDigits 10 row, Nat.toDigits 10 column]
  | shifted count color dx dy =>
      [Nat.toDigits 10 count, [color.letter], (toString dx).toList, (toString dy).toList]
  | _ => []

def written : Primitive -> List Char
  | declare rows columns => Nat.toDigits 10 rows ++ '#' :: Nat.toDigits 10 columns
  | action => Text.spaced action.words

def IsWritable (mode : Mode) : Primitive -> Prop
  | declare rows columns => mode.declaresSize = true ∧ 1 ≤ rows ∧ 1 ≤ columns ∧
      Text.IsWritable rows ∧ Text.IsWritable columns
  | strip count color row column => mode = .table ∧ color.IsPrimary ∧
      Text.IsWritable count ∧ Text.IsWritable row ∧ Text.IsWritable column
  | shifted count color dx dy => mode = .grid ∧ color.IsPrimary ∧
      Text.IsWritable count ∧ Text.IsWritable dx ∧ Text.IsWritable dy
  | _ => False

def pieces : Primitive -> List (List Char)
  | declare rows columns => [Nat.toDigits 10 rows, ['#'], Nat.toDigits 10 columns]
  | turn quarters => [Program.turnWord, Nat.toDigits 10 quarters]
  | advance steps => [Program.moveWord, Nat.toDigits 10 steps]
  | switch on axis index => [[if on then '+' else '-'], [axis.address index]]
  | action => action.words

def IsPrintable (mode : Mode) : Primitive -> Prop
  | turn quarters => mode = .maze ∧ 1 ≤ quarters ∧ quarters ≤ 3
  | advance steps => mode = .maze ∧ Text.IsWritable steps
  | switch _ _ index => mode = .matrix ∧ index < 8
  | action => action.IsWritable mode

def Prints (action : Primitive) (cs : List Char) : Prop :=
  exists pieces body, List.Forall₂ (List.Forall₂ Text.SameLetter) action.pieces pieces ∧
    Text.LaidOut action.leastGap pieces body ∧ Text.Pads body cs

end Primitive

namespace Text

/-!
## Printed numbers
-/

theorem numeral_toDigits (n : Nat) : Numeral (Nat.toDigits 10 n) n := by
  refine numeral_iff.mpr ⟨Program.isNumber_iff.mpr ⟨Nat.toDigits_ne_nil, fun c hc => ?_⟩,
    decimalValue_toDigits n⟩
  exact isDecimal_of_isDigit (isDigit_of_mem_toDigits hc)

theorem signedNumeral_toString (value : Int) : SignedNumeral (toString value).toList value := by
  cases value with
  | ofNat n =>
      rw [toList_toString_ofNat]
      exact .plain (numeral_toDigits n)
  | negSucc n =>
      rw [toList_toString_negSucc]
      exact .minus (numeral_toDigits (n + 1))

theorem HasShortNumbers.cons {c : Char} {cs : List Char} (hc : isDecimal c = false)
    (h : HasShortNumbers cs) : HasShortNumbers (c :: cs) := by
  intro run hrun hdigits
  rcases List.infix_cons_iff.mp hrun with hfront | hinside
  · cases run with
    | nil => exact Nat.zero_le _
    | cons first rest =>
        rw [(List.cons_prefix_cons.mp hfront).left] at hdigits
        rw [hdigits c (by simp)] at hc
        cases hc
  · exact h run hinside hdigits

theorem hasShortNumbers_toDigits {n : Nat} (h : IsWritable n) :
    HasShortNumbers (Nat.toDigits 10 n) := by
  unfold IsWritable at h
  rw [Int.natAbs_natCast, Nat.pow_eq, ← Nat.length_toDigits_le_iff (by decide) (by decide)] at h
  exact hasShortNumbers_of_length h

theorem hasShortNumbers_toString {value : Int} (h : IsWritable value) :
    HasShortNumbers (toString value).toList := by
  cases value with
  | ofNat n =>
      rw [toList_toString_ofNat]
      exact hasShortNumbers_toDigits h
  | negSucc n =>
      rw [toList_toString_negSucc]
      exact (@hasShortNumbers_toDigits (n + 1) h).cons (by decide)

/-!
## Letters of either case
-/

theorem eq_of_sameLetters {word cs : List Char} (h : List.Forall₂ SameLetter word cs)
    (hplain : forall c, c ∈ word -> c.isAlpha = false) : cs = word := by
  induction h with
  | nil => rfl
  | cons hletter _ ih =>
      rw [List.forall_mem_cons] at hplain
      rw [eq_of_sameLetter hletter hplain.left, ih hplain.right]

theorem not_isAlpha_of_isDigit {c : Char} (h : c.isDigit = true) : c.isAlpha = false := by
  have hletters : (forall d, d ∈ charactersFrom 'A' 26 -> d.isDigit = false) ∧
      forall d, d ∈ charactersFrom 'a' 26 -> d.isDigit = false :=
    ⟨forall_mem_of_all (by decide), forall_mem_of_all (by decide)⟩
  unfold Char.isAlpha
  rw [Bool.or_eq_false_iff, Bool.eq_false_iff, Bool.eq_false_iff]
  constructor
  · intro hupper
    rw [hletters.left c (mem_of_isUpper hupper)] at h
    cases h
  · intro hlower
    rw [hletters.right c (mem_of_isLower hlower)] at h
    cases h

theorem toDigits_of_sameLetters {n : Nat} {cs : List Char}
    (h : List.Forall₂ SameLetter (Nat.toDigits 10 n) cs) : cs = Nat.toDigits 10 n :=
  eq_of_sameLetters h fun _ hc => not_isAlpha_of_isDigit (isDigit_of_mem_toDigits hc)

theorem toString_of_sameLetters {value : Int} {cs : List Char}
    (h : List.Forall₂ SameLetter (toString value).toList cs) : cs = (toString value).toList := by
  refine eq_of_sameLetters h fun c hc => ?_
  cases value with
  | ofNat n =>
      rw [toList_toString_ofNat] at hc
      exact not_isAlpha_of_isDigit (isDigit_of_mem_toDigits hc)
  | negSucc n =>
      rw [toList_toString_negSucc] at hc
      rcases List.mem_cons.mp hc with rfl | hdigit
      · decide
      · exact not_isAlpha_of_isDigit (isDigit_of_mem_toDigits hdigit)

end Text

namespace Program

open Text (HasShortNumbers)

/-!
## Printed pieces
-/

theorem short_singleton (c : Char) : HasShortNumbers [c] :=
  Text.hasShortNumbers_of_length (show 1 ≤ Text.digitLimit by decide)

theorem short_of_sameLetters {word cs : List Char} (hshort : word.length ≤ Text.digitLimit)
    (h : List.Forall₂ Text.SameLetter word cs) : HasShortNumbers cs :=
  Text.hasShortNumbers_of_length (h.length_eq ▸ hshort)

theorem singleton_of_sameLetters {letter : Char} {cs : List Char}
    (h : List.Forall₂ Text.SameLetter [letter] cs) : exists c, cs = [c] ∧ Text.SameLetter letter c := by
  cases h with
  | cons hletter hrest =>
      cases hrest
      exact ⟨_, rfl, hletter⟩

theorem pieces_of_printable {mode : Mode} {action : Primitive} {pieces : List (List Char)}
    (h : action.IsPrintable mode)
    (hsame : List.Forall₂ (List.Forall₂ Text.SameLetter) action.pieces pieces) :
    action.Pieces mode pieces ∧ forall piece, piece ∈ pieces -> HasShortNumbers piece := by
  cases action with
  | declare rows columns =>
      rcases h with ⟨hmode, htall, hwide, hrows, hcolumns⟩
      rcases hsame with _ | ⟨hfirst, _ | ⟨hsign, _ | ⟨hsecond, _ | _⟩⟩⟩
      cases Text.toDigits_of_sameLetters hfirst
      cases Text.eq_of_sameLetters hsign (Text.forall_mem_of_all (by decide))
      cases Text.toDigits_of_sameLetters hsecond
      refine ⟨.declare hmode (Text.numeral_toDigits rows) (Text.numeral_toDigits columns) htall hwide,
        ?_⟩
      rw [List.forall_mem_cons, List.forall_mem_cons, List.forall_mem_singleton]
      exact ⟨Text.hasShortNumbers_toDigits hrows, short_singleton _,
        Text.hasShortNumbers_toDigits hcolumns⟩
  | strip count color row column =>
      rcases h with ⟨hmode, hcolor, hcount, hrow, hcolumn⟩
      rcases hsame with _ | ⟨hfirst, _ | ⟨hletter, _ | ⟨hsecond, _ | ⟨hthird, _ | _⟩⟩⟩⟩
      cases Text.toDigits_of_sameLetters hfirst
      rcases singleton_of_sameLetters hletter with ⟨letter, rfl, hsame⟩
      cases Text.toDigits_of_sameLetters hsecond
      cases Text.toDigits_of_sameLetters hthird
      refine ⟨.strip hmode (Text.numeral_toDigits count) hcolor hsame (Text.numeral_toDigits row)
        (Text.numeral_toDigits column), ?_⟩
      rw [List.forall_mem_cons, List.forall_mem_cons, List.forall_mem_cons,
        List.forall_mem_singleton]
      exact ⟨Text.hasShortNumbers_toDigits hcount, short_singleton _,
        Text.hasShortNumbers_toDigits hrow, Text.hasShortNumbers_toDigits hcolumn⟩
  | shifted count color dx dy =>
      rcases h with ⟨hmode, hcolor, hcount, hright, hdown⟩
      rcases hsame with _ | ⟨hfirst, _ | ⟨hletter, _ | ⟨hsecond, _ | ⟨hthird, _ | _⟩⟩⟩⟩
      cases Text.toDigits_of_sameLetters hfirst
      rcases singleton_of_sameLetters hletter with ⟨letter, rfl, hsame⟩
      cases Text.toString_of_sameLetters hsecond
      cases Text.toString_of_sameLetters hthird
      refine ⟨.shifted hmode (Text.numeral_toDigits count) hcolor hsame
        (Text.signedNumeral_toString dx) (Text.signedNumeral_toString dy), ?_⟩
      rw [List.forall_mem_cons, List.forall_mem_cons, List.forall_mem_cons,
        List.forall_mem_singleton]
      exact ⟨Text.hasShortNumbers_toDigits hcount, short_singleton _,
        Text.hasShortNumbers_toString hright, Text.hasShortNumbers_toString hdown⟩
  | turn quarters =>
      rcases h with ⟨hmode, hleast, hmost⟩
      rcases hsame with _ | ⟨hword, _ | ⟨hdigit, _ | _⟩⟩
      cases Text.toDigits_of_sameLetters hdigit
      refine ⟨.turn hmode (hword.imp fun _ _ => Or.inl) hleast hmost, ?_⟩
      have hsmall : quarters < Nat.pow 10 1 := Nat.lt_of_le_of_lt hmost (by decide)
      rw [List.forall_mem_cons, List.forall_mem_singleton]
      exact ⟨short_of_sameLetters (by decide) hword,
        Text.hasShortNumbers_toDigits (Text.isWritable_of_lt hsmall (by decide))⟩
  | advance steps =>
      rcases h with ⟨hmode, hsteps⟩
      rcases hsame with _ | ⟨hword, _ | ⟨hdigits, _ | _⟩⟩
      cases Text.toDigits_of_sameLetters hdigits
      refine ⟨.advance hmode (hword.imp fun _ _ => Or.inl) (Text.numeral_toDigits steps), ?_⟩
      rw [List.forall_mem_cons, List.forall_mem_singleton]
      exact ⟨short_of_sameLetters (by decide) hword, Text.hasShortNumbers_toDigits hsteps⟩
  | switch on axis index =>
      rcases h with ⟨hmode, hindex⟩
      rcases hsame with _ | ⟨hsign, _ | ⟨hlamps, _ | _⟩⟩
      rcases singleton_of_sameLetters hlamps with ⟨c, rfl, hsame⟩
      have hplain : forall c, c ∈ [if on then '+' else '-'] -> c.isAlpha = false := by
        cases on with
        | true => exact Text.forall_mem_of_all (by decide)
        | false => exact Text.forall_mem_of_all (by decide)
      cases Text.eq_of_sameLetters hsign hplain
      refine ⟨.switch hmode hindex hsame, ?_⟩
      rw [List.forall_mem_cons, List.forall_mem_singleton]
      exact ⟨short_singleton _, short_singleton _⟩
  | paint color => cases h
  | erase => cases h

/-- A printed primitive is read back in its mode. -/
theorem parseLine_of_prints {mode : Mode} {action : Primitive} {cs : List Char}
    (h : action.IsPrintable mode) (hprints : action.Prints cs) (line : Int) :
    parseLine mode line cs = .ok [.once ⟨line, action⟩] := by
  rcases hprints with ⟨pieces, body, hsame, hout, hpads⟩
  rcases pieces_of_printable h hsame with ⟨hpieces, hshort⟩
  exact parseLine_of_pieces hpieces hshort hout hpads line

/-- Outside PIXEL a blank line asks for nothing, a line that renders a primitive asks for that, and
any other line is refused for its grammar, where the numbers are short.  A printed primitive is read
back. -/
theorem parseLine_by_rendering (mode : Mode) (hmode : mode ≠ .pixel) (line : Int) :
    (forall cs, HasShortNumbers cs ->
      (parseLine mode line cs = .ok [] ↔ Text.IsGap cs) ∧
      (forall action : Primitive, parseLine mode line cs = .ok [.once ⟨line, action⟩] ↔
        exists body, Text.Pads body cs ∧ action.Renders mode body) ∧
      (Not (Text.IsGap cs) ->
        (forall (action : Primitive) body, Text.Pads body cs -> Not (action.Renders mode body)) ->
        exists cause : Cause, parseLine mode line cs = .error (problem line cause) ∧
          cause.kind = .grammar)) ∧
    forall (action : Primitive) cs, action.IsPrintable mode -> action.Prints cs ->
      parseLine mode line cs = .ok [.once ⟨line, action⟩] := by
  constructor
  · intro cs hshort
    exact ⟨parseLine_eq_nil_iff hmode, fun action => parseLine_eq_once_iff hmode hshort,
      refused_of_not_renders hmode hshort⟩
  · intro action cs h hprints
    exact parseLine_of_prints h hprints line

/-- A strip of GRID on three lines: with a digit of another alphabet and a sign, with a sign in the
wrong place, and as it is printed. -/
theorem parseLine_by_rendering_shifted :
    (exists body, Text.Pads body " 3\tr +1 -٢ ".toList ∧
      (Primitive.shifted 3 .red 1 (-2)).Renders .grid body) ∧
    (exists cause : Cause, parseLine .grid 0 "3 r +1 2-".toList = .error (problem 0 cause) ∧
      cause.kind = .grammar) ∧
    (Primitive.shifted 3 .red 1 (-2)).Prints "\t3 r\t 1 -2\r".toList ∧
    parseLine .grid 0 "\t3 r\t 1 -2\r".toList = .ok [.once ⟨0, .shifted 3 .red 1 (-2)⟩] := by
  rcases parseLine_by_rendering .grid (by decide) 0 with ⟨hlines, hprinted⟩
  have hrendered := (hlines " 3\tr +1 -٢ ".toList
    (Text.hasShortNumbers_of_length (by decide))).right.left (.shifted 3 .red 1 (-2))
  have hwrong := hlines "3 r +1 2-".toList (Text.hasShortNumbers_of_length (by decide))
  have hrefused : parseLine .grid 0 "3 r +1 2-".toList = .error (problem 0 .invalidFormat) := rfl
  have hprints : (Primitive.shifted 3 .red 1 (-2)).Prints "\t3 r\t 1 -2\r".toList := by
    refine ⟨[['3'], ['r'], ['1'], ['-', '2']], "3 r\t 1 -2".toList, ?_, ?_, ?_⟩
    · exact .cons (.cons rfl .nil) (.cons (.cons rfl .nil) (.cons (.cons rfl .nil)
        (.cons (.cons rfl (.cons rfl .nil)) .nil)))
    · exact ((Text.words_eq_iff (by decide) (Text.isTight_trim "\t3 r\t 1 -2\r".toList) _).mp
        rfl).left
    · exact Text.pads_trim "\t3 r\t 1 -2\r".toList
  have hsmall : forall n : Int, n.natAbs < Nat.pow 10 1 -> Text.IsWritable n :=
    fun n h => Text.isWritable_of_lt h (by decide)
  refine ⟨hrendered.mp rfl, hwrong.right.right (fun hgap => ?_) (fun action body hpads h => ?_),
    hprints, hprinted _ _ ?_ hprints⟩
  · cases hrefused.symm.trans (hwrong.left.mpr hgap)
  · cases hrefused.symm.trans ((hwrong.right.left action).mpr ⟨body, hpads, h⟩)
  · exact ⟨rfl, Or.inl rfl, hsmall 3 (by decide), hsmall 1 (by decide), hsmall (-2) (by decide)⟩

end Program
end Mosaic
