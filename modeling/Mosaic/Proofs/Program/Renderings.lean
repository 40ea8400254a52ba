import Mathlib.Data.List.Forall2
import Mathlib.Data.List.Induction
import Mosaic.Proofs.Program.Forms
import Mosaic.Proofs.Text.Digits
import Mosaic.Proofs.Text.Letters

/-!
# Lines as renderings

Outside PIXEL a line asks for a primitive exactly if it renders it: its pieces are numerals, letters
and keywords, and white space stands between them and around them.  A primitive can be printed with
any white space and in any case, and is read back.  What is neither blank nor a rendering is refused
for its grammar.
-/

namespace Mosaic

namespace Text

/-- A row of decimal digits of any alphabets, and the number that it stands for. -/
inductive Numeral : List Char -> Nat -> Prop
  | digit {c : Char} {value : Nat} (h : digitValue? c = some value) : Numeral [c] value
  | next {cs : List Char} {n value : Nat} {c : Char} (front : Numeral cs n)
      (h : digitValue? c = some value) : Numeral (cs ++ [c]) (10 * n + value)

inductive SignedNumeral : List Char -> Int -> Prop
  | plain {cs : List Char} {n : Nat} (h : Numeral cs n) : SignedNumeral cs n
  | plus {cs : List Char} {n : Nat} (h : Numeral cs n) : SignedNumeral ('+' :: cs) n
  | minus {cs : List Char} {n : Nat} (h : Numeral cs n) : SignedNumeral ('-' :: cs) (-(n : Int))

end Text

def Axis.address : Axis -> Nat -> Char
  | .row, index => Char.ofNat ('1'.toNat + index)
  | .column, index => Char.ofNat ('A'.toNat + index)

namespace Primitive

/-- The pieces that a primitive can be written in where a mode has it. -/
inductive Pieces (mode : Mode) : Primitive -> List (List Char) -> Prop
  | declare {rows columns : List Char} {height width : Nat} (hmode : mode.declaresSize = true)
      (hrows : Text.Numeral rows height) (hcolumns : Text.Numeral columns width)
      (htall : 1 ≤ height) (hwide : 1 ≤ width) :
      Pieces mode (.declare height width) [rows, ['#'], columns]
  | strip {count row column : List Char} {letter : Char} {n i j : Nat} {color : Color}
      (hmode : mode = .table) (hcount : Text.Numeral count n) (hcolor : color.IsPrimary)
      (hletter : Text.SameLetter color.letter letter) (hrow : Text.Numeral row i)
      (hcolumn : Text.Numeral column j) :
      Pieces mode (.strip n color i j) [count, [letter], row, column]
  | shifted {count right down : List Char} {letter : Char} {n : Nat} {dx dy : Int} {color : Color}
      (hmode : mode = .grid) (hcount : Text.Numeral count n) (hcolor : color.IsPrimary)
      (hletter : Text.SameLetter color.letter letter) (hright : Text.SignedNumeral right dx)
      (hdown : Text.SignedNumeral down dy) :
      Pieces mode (.shifted n color dx dy) [count, [letter], right, down]
  | turn {word : List Char} {quarters : Nat} (hmode : mode = .maze)
      (hword : List.Forall₂ Text.StandsFor Program.turnWord word) (hleast : 1 ≤ quarters)
      (hmost : quarters ≤ 3) : Pieces mode (.turn quarters) [word, Nat.toDigits 10 quarters]
  | advance {word amount : List Char} {steps : Nat} (hmode : mode = .maze)
      (hword : List.Forall₂ Text.StandsFor Program.moveWord word)
      (hamount : Text.Numeral amount steps) : Pieces mode (.advance steps) [word, amount]
  | switch {on : Bool} {axis : Axis} {index : Nat} {lamps : Char} (hmode : mode = .matrix)
      (hindex : index < 8) (hlamps : Text.SameLetter (axis.address index) lamps) :
      Pieces mode (.switch on axis index) [[if on then '+' else '-'], [lamps]]

/-- How much white space has to stand between two pieces. -/
def leastGap : Primitive -> Nat
  | declare _ _ => 0
  | switch _ _ _ => 0
  | _ => 1

/-- A text that a primitive can be written as, without white space around it. -/
def Renders (mode : Mode) (action : Primitive) (cs : List Char) : Prop :=
  exists pieces, action.Pieces mode pieces ∧ Text.LaidOut action.leastGap pieces cs

end Primitive

namespace Text

/-!
## Numerals
-/

theorem decimalValue_concat (cs : List Char) {c : Char} {value : Nat}
    (h : digitValue? c = some value) : decimalValue (cs ++ [c]) = 10 * decimalValue cs + value := by
  unfold decimalValue ofDigitValues
  rw [List.map_append, List.foldl_append, List.map_singleton, h]
  rfl

theorem isDecimal_iff {c : Char} : isDecimal c = true ↔ exists value, digitValue? c = some value :=
  Option.isSome_iff_exists

theorem numeral_iff {cs : List Char} {n : Nat} :
    Numeral cs n ↔ Program.isNumber cs = true ∧ decimalValue cs = n := by
  rw [Program.isNumber_iff]
  constructor
  · intro h
    induction h with
    | @digit c value h =>
        refine ⟨⟨List.cons_ne_nil _ _, List.forall_mem_singleton.mpr ?_⟩, ?_⟩
        · exact isDecimal_iff.mpr ⟨value, h⟩
        · exact (decimalValue_concat [] h).trans (Nat.zero_add value)
    | @next cs n value c front h ih =>
        rcases ih with ⟨⟨hne, hdigits⟩, rfl⟩
        refine ⟨⟨List.append_ne_nil_of_left_ne_nil hne _, fun d hd => ?_⟩, decimalValue_concat cs h⟩
        rcases List.mem_append.mp hd with hfront | hlast
        · exact hdigits d hfront
        · rw [List.mem_singleton.mp hlast]
          exact isDecimal_iff.mpr ⟨value, h⟩
  · rintro ⟨⟨hne, hdigits⟩, rfl⟩
    -- the value grows with the last digit, so that one is taken off first
    induction cs using List.reverseRecOn with
    | nil => exact absurd rfl hne
    | append_singleton front c ih =>
        rcases isDecimal_iff.mp (hdigits c (by simp)) with ⟨value, hvalue⟩
        rw [decimalValue_concat front hvalue]
        cases front with
        | nil =>
            rw [show 10 * decimalValue [] + value = value from Nat.zero_add value]
            exact .digit hvalue
        | cons first others =>
            exact .next (ih (List.cons_ne_nil _ _) fun d hd => hdigits d (List.mem_append_left _ hd))
              hvalue

theorem splitSign_of_decimal {c : Char} {rest : List Char} (h : isDecimal c = true) :
    splitSign (c :: rest) = (false, c :: rest) := by
  have hsigns := not_padding_of_isDigitLike (Bool.or_eq_true_iff.mpr (Or.inl h))
  unfold splitSign
  split
  · rename_i hsame
    cases hsame
    exact absurd rfl hsigns.right.right.left
  · rename_i hsame
    cases hsame
    exact absurd rfl hsigns.right.left
  · rfl

theorem signedNumeral_iff {cs : List Char} {n : Int} :
    SignedNumeral cs n ↔ Program.isSignedNumber cs = true ∧
      signed (splitSign cs).1 (decimalValue (splitSign cs).2) = n := by
  unfold Program.isSignedNumber
  constructor
  · intro h
    cases h with
    | @plain cs n h =>
        rcases numeral_iff.mp h with ⟨hnumber, rfl⟩
        cases cs with
        | nil => exact absurd rfl (Program.isNumber_iff.mp hnumber).left
        | cons c rest =>
            rw [splitSign_of_decimal ((Program.isNumber_iff.mp hnumber).right c (by simp))]
            exact ⟨hnumber, rfl⟩
    | plus h =>
        rcases numeral_iff.mp h with ⟨hnumber, rfl⟩
        exact ⟨hnumber, rfl⟩
    | minus h =>
        rcases numeral_iff.mp h with ⟨hnumber, rfl⟩
        exact ⟨hnumber, rfl⟩
  · rintro ⟨hnumber, rfl⟩
    have hnumeral := numeral_iff.mpr ⟨hnumber, rfl⟩
    unfold splitSign at hnumeral ⊢
    split at hnumeral
    · exact .minus hnumeral
    · exact .plus hnumeral
    · exact .plain hnumeral

end Text

namespace Program

open Text (Numeral SignedNumeral HasShortNumbers IsWord)

theorem number_eq_ok_of_numeral {cs : List Char} {n : Nat} (h : Numeral cs n)
    (hshort : HasShortNumbers cs) : number cs = .ok n := by
  rcases Text.numeral_iff.mp h with ⟨hnumber, hvalue⟩
  exact number_eq_ok_iff.mpr
    ⟨hshort cs List.infix_rfl (isNumber_iff.mp hnumber).right, hvalue⟩

theorem numeral_of_number {cs : List Char} {n : Nat} (hnumber : isNumber cs = true)
    (h : number cs = .ok n) : Numeral cs n :=
  Text.numeral_iff.mpr ⟨hnumber, (number_eq_ok_iff.mp h).right⟩

theorem signedNumber_eq_ok_iff {cs : List Char} {n : Int} :
    signedNumber cs = .ok n ↔ (Text.splitSign cs).2.length ≤ Text.digitLimit ∧
      Text.signed (Text.splitSign cs).1 (Text.decimalValue (Text.splitSign cs).2) = n := by
  unfold signedNumber
  rw [Attempts.bind_eq_ok_iff]
  constructor
  · rintro ⟨value, hvalue, hsigned⟩
    rcases number_eq_ok_iff.mp hvalue with ⟨hshort, rfl⟩
    exact ⟨hshort, Attempts.pure_eq_ok_iff.mp hsigned⟩
  · rintro ⟨hshort, rfl⟩
    exact ⟨_, number_eq_ok_iff.mpr ⟨hshort, rfl⟩, rfl⟩

theorem signedNumber_eq_ok_of_numeral {cs : List Char} {n : Int} (h : SignedNumeral cs n)
    (hshort : HasShortNumbers cs) : signedNumber cs = .ok n := by
  rcases Text.signedNumeral_iff.mp h with ⟨hnumber, hvalue⟩
  exact signedNumber_eq_ok_iff.mpr
    ⟨hshort _ (splitSign_suffix cs).isInfix (isNumber_iff.mp hnumber).right, hvalue⟩

theorem signedNumeral_of_signedNumber {cs : List Char} {n : Int}
    (hnumber : isSignedNumber cs = true) (h : signedNumber cs = .ok n) : SignedNumeral cs n :=
  Text.signedNumeral_iff.mpr ⟨hnumber, (signedNumber_eq_ok_iff.mp h).right⟩

theorem isWord_of_isSignedNumber {cs : List Char} (h : isSignedNumber cs = true) : IsWord cs := by
  unfold isSignedNumber Text.splitSign at h
  split at h
  · rcases isWord_of_isNumber h with ⟨_, hunbroken⟩
    exact ⟨List.cons_ne_nil _ _, List.forall_mem_cons.mpr ⟨by decide, hunbroken⟩⟩
  · rcases isWord_of_isNumber h with ⟨_, hunbroken⟩
    exact ⟨List.cons_ne_nil _ _, List.forall_mem_cons.mpr ⟨by decide, hunbroken⟩⟩
  · exact isWord_of_isNumber h

/-!
## Letters and keywords
-/

theorem primary?_eq_some_iff {letter : List Char} {color : Color} :
    primary? letter = some color ↔
      color.IsPrimary ∧ exists c, letter = [c] ∧ Text.SameLetter color.letter c := by
  have hforms : forall color : Color, color.letter.toUpper = color.letter := by
    intro color
    cases color with
    | _ => decide
  unfold Text.SameLetter
  constructor
  · intro h
    unfold primary? at h
    split at h
    · rename_i c
      unfold Color.ofPrimary? at h
      split at h
      · rename_i hsame
        cases h
        exact ⟨Or.inl rfl, c, rfl, hsame⟩
      · rename_i hsame
        cases h
        exact ⟨Or.inr (Or.inl rfl), c, rfl, hsame⟩
      · rename_i hsame
        cases h
        exact ⟨Or.inr (Or.inr rfl), c, rfl, hsame⟩
      · cases h
    · cases h
  · rintro ⟨hprimary, c, rfl, hsame⟩
    rw [hforms] at hsame
    unfold primary?
    simp only
    rw [hsame]
    rcases hprimary with rfl | rfl | rfl
    · rfl
    · rfl
    · rfl

theorem isKeyword_iff {word cs : List Char} (hsmall : forall letter, letter ∈ word ->
    letter.isLower = true) :
    Text.isKeyword word cs = true ↔ List.Forall₂ Text.StandsFor word cs := by
  unfold Text.isKeyword
  rw [beq_iff_eq]
  induction word generalizing cs with
  | nil =>
      rw [List.map_eq_nil_iff, List.forall₂_nil_left_iff]
  | cons letter rest ih =>
      rw [List.forall_mem_cons] at hsmall
      cases cs with
      | nil =>
          constructor
          · intro h
            cases h
          · intro h
            cases h
      | cons c others =>
          rw [List.map_cons, List.cons.injEq, List.forall₂_cons,
            Text.keywordLetter_eq_iff hsmall.left, ih hsmall.right]

theorem isLower_turnWord : forall letter, letter ∈ turnWord -> letter.isLower = true :=
  Text.forall_mem_of_all (by decide)

theorem isLower_moveWord : forall letter, letter ∈ moveWord -> letter.isLower = true :=
  Text.forall_mem_of_all (by decide)

theorem quarters?_eq_some_iff {amount : List Char} {quarters : Nat} :
    quarters? amount = some quarters ↔
      1 ≤ quarters ∧ quarters ≤ 3 ∧ amount = Nat.toDigits 10 quarters := by
  constructor
  · intro h
    unfold quarters? at h
    split at h
    · cases h
      exact ⟨by decide, by decide, by decide⟩
    · cases h
      exact ⟨by decide, by decide, by decide⟩
    · cases h
      exact ⟨by decide, by decide, by decide⟩
    · cases h
  · rintro ⟨hleast, hmost, rfl⟩
    have hall : forall n, n < 4 -> 1 ≤ n -> quarters? (Nat.toDigits 10 n) = some n := by decide
    exact hall quarters (Nat.lt_succ_of_le hmost) hleast

theorem mem_of_le {c : Char} {first last : Char} (h : first ≤ c ∧ c ≤ last) :
    c ∈ Text.charactersFrom first (last.toNat + 1 - first.toNat) := by
  have hleast : first.toNat ≤ c.toNat := h.left
  have hmost : c.toNat ≤ last.toNat := h.right
  exact Text.mem_charactersFrom hleast (by omega)

theorem lamps?_eq_some_iff {c : Char} {axis : Axis} {index : Nat} :
    lamps? c = some (axis, index) ↔ index < 8 ∧ Text.SameLetter (axis.address index) c := by
  have hdigits : forall d, d ∈ Text.charactersFrom '1' 8 -> d.toNat - '1'.toNat < 8 ∧
      d.toUpper = (Axis.address .row (d.toNat - '1'.toNat)).toUpper ∧
      forall n, n < 8 -> d.toUpper ≠ (Axis.address .column n).toUpper :=
    Text.forall_mem_of_all (by decide)
  unfold Text.SameLetter
  constructor
  · intro h
    unfold lamps? at h
    split at h
    · rename_i hdigit
      rw [Bool.and_eq_true, decide_eq_true_eq, decide_eq_true_eq] at hdigit
      cases h
      rcases hdigits c (mem_of_le hdigit) with ⟨hindex, hsame, _⟩
      exact ⟨hindex, hsame⟩
    · split at h
      · rename_i hletter
        rw [Bool.and_eq_true, decide_eq_true_eq, decide_eq_true_eq] at hletter
        cases h
        have hletters : forall d, d ∈ Text.charactersFrom 'A' 8 -> d.toNat - 'A'.toNat < 8 ∧
            d = (Axis.address .column (d.toNat - 'A'.toNat)).toUpper :=
          Text.forall_mem_of_all (by decide)
        exact hletters c.toUpper (mem_of_le hletter)
      · cases h
  · rintro ⟨hindex, hsame⟩
    cases axis with
    | row =>
        have hrows : forall n, n < 8 -> (Axis.address .row n).isAlpha = false ∧
            lamps? (Axis.address .row n) = some (.row, n) := by decide
        rw [Text.eq_of_sameLetter hsame (hrows index hindex).left]
        exact (hrows index hindex).right
    | column =>
        have hcolumns : forall n, n < 8 ->
            ('A' ≤ (Axis.address .column n).toUpper ∧ (Axis.address .column n).toUpper ≤ 'H') ∧
              (Axis.address .column n).toUpper.toNat - 'A'.toNat = n := by decide
        rcases hcolumns index hindex with ⟨hletter, hvalue⟩
        -- a digit has no capital form that is a letter of a column
        have hother : Not ('1' ≤ c ∧ c ≤ '8') :=
          fun hdigit => (hdigits c (mem_of_le hdigit)).right.right index hindex hsame
        unfold lamps?
        rw [if_neg (by simpa using hother), hsame, if_pos (by simpa using hletter), hvalue]

theorem switchesOn?_eq_some_iff {sign : Char} {on : Bool} :
    switchesOn? sign = some on ↔ sign = if on then '+' else '-' := by
  constructor
  · intro h
    unfold switchesOn? at h
    split at h
    · cases h
      rfl
    · cases h
      rfl
    · cases h
  · rintro rfl
    cases on with
    | true => rfl
    | false => rfl

theorem isKeyword_apart {word : List Char} (h : Text.isKeyword moveWord word = true) :
    Text.isKeyword turnWord word = false := by
  unfold Text.isKeyword at h ⊢
  rw [beq_iff_eq] at h
  rw [h]
  decide

theorem isBlank_color_letter {color : Color} {c : Char} (h : Text.SameLetter color.letter c) :
    Text.isBlank c = false := by
  refine Text.isBlank_of_sameLetter h ?_
  cases color with
  | _ => decide

theorem isBlank_address {axis : Axis} {index : Nat} {c : Char} (hindex : index < 8)
    (h : Text.SameLetter (axis.address index) c) : Text.isBlank c = false := by
  refine Text.isBlank_of_sameLetter h ?_
  have hall : forall n, n < 8 -> Text.isBlank (Axis.address .row n).toUpper = false ∧
      Text.isBlank (Axis.address .column n).toUpper = false := by decide
  cases axis with
  | row => exact (hall index hindex).left
  | column => exact (hall index hindex).right

/-!
## Pieces
-/

theorem isWord_singleton {c : Char} (h : Text.isBlank c = false) : IsWord [c] :=
  ⟨List.cons_ne_nil _ _, List.forall_mem_singleton.mpr h⟩

theorem isWord_of_numeral {cs : List Char} {n : Nat} (h : Numeral cs n) : IsWord cs :=
  isWord_of_isNumber (Text.numeral_iff.mp h).left

theorem isWord_of_signedNumeral {cs : List Char} {n : Int} (h : SignedNumeral cs n) : IsWord cs :=
  isWord_of_isSignedNumber (Text.signedNumeral_iff.mp h).left

theorem isWord_of_isKeyword {word cs : List Char} (hne : word ≠ [])
    (hsmall : forall letter, letter ∈ word -> letter.isLower = true)
    (h : Text.isKeyword word cs = true) : IsWord cs := by
  unfold Text.isKeyword at h
  rw [beq_iff_eq] at h
  constructor
  · rintro rfl
    exact hne h.symm
  · intro c hc
    have hletter : Text.keywordLetter c ∈ word := h ▸ List.mem_map_of_mem hc
    have hlower := hsmall _ hletter
    exact Text.isBlank_of_standsFor hlower ((Text.keywordLetter_eq_iff hlower).mp rfl)

theorem isWord_of_pieces {mode : Mode} {action : Primitive} {pieces : List (List Char)}
    (h : action.Pieces mode pieces) : forall piece, piece ∈ pieces -> IsWord piece := by
  cases h with
  | declare _ hrows hcolumns _ _ =>
      rw [List.forall_mem_cons, List.forall_mem_cons, List.forall_mem_singleton]
      exact ⟨isWord_of_numeral hrows, isWord_singleton (by decide), isWord_of_numeral hcolumns⟩
  | strip _ hcount _ hletter hrow hcolumn =>
      rw [List.forall_mem_cons, List.forall_mem_cons, List.forall_mem_cons,
        List.forall_mem_singleton]
      exact ⟨isWord_of_numeral hcount, isWord_singleton (isBlank_color_letter hletter),
        isWord_of_numeral hrow, isWord_of_numeral hcolumn⟩
  | shifted _ hcount _ hletter hright hdown =>
      rw [List.forall_mem_cons, List.forall_mem_cons, List.forall_mem_cons,
        List.forall_mem_singleton]
      exact ⟨isWord_of_numeral hcount, isWord_singleton (isBlank_color_letter hletter),
        isWord_of_signedNumeral hright, isWord_of_signedNumeral hdown⟩
  | turn _ hword _ _ =>
      rw [List.forall_mem_cons, List.forall_mem_singleton]
      exact ⟨isWord_of_isKeyword (by decide) isLower_turnWord
        ((isKeyword_iff isLower_turnWord).mpr hword), Text.isWord_toDigits _⟩
  | advance _ hword hamount =>
      rw [List.forall_mem_cons, List.forall_mem_singleton]
      exact ⟨isWord_of_isKeyword (by decide) isLower_moveWord
        ((isKeyword_iff isLower_moveWord).mpr hword), isWord_of_numeral hamount⟩
  | @switch on _ _ _ _ hindex hlamps =>
      rw [List.forall_mem_cons, List.forall_mem_singleton]
      refine ⟨isWord_singleton ?_, isWord_singleton (isBlank_address hindex hlamps)⟩
      cases on with
      | true => decide
      | false => decide

end Program
end Mosaic
