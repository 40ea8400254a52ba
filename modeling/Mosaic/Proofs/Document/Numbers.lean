import Mosaic.Document.Reader
import Mosaic.Document.Writer
import Mosaic.Proofs.Number.Shortest

/-!
# Numbers in documents

A whole number is read from its digits, and refused only if it has too many.  A number with a
fraction is written as its shortest decimal, with a point or a power of ten, and is read from it.
-/

namespace Mosaic
namespace Document

open Text

/-!
## Rows of digits
-/

def Ends (rest : List Char) : Prop :=
  rest = [] ∨ exists c others, rest = c :: others ∧ (c = ',' ∨ c = '\n')

theorem ends_comma (rest : List Char) : Ends (',' :: rest) := Or.inr ⟨_, _, rfl, Or.inl rfl⟩

theorem ends_newLine (depth : Nat) (rest : List Char) : Ends (newLine depth ++ rest) :=
  Or.inr ⟨_, _, rfl, Or.inr rfl⟩

def Stops (rest : List Char) : Prop :=
  rest = [] ∨ exists c others, rest = c :: others ∧ isAsciiDigit c = false

theorem stops_cons {c : Char} (h : isAsciiDigit c = false) (others : List Char) :
    Stops (c :: others) := Or.inr ⟨c, others, rfl, h⟩

theorem Ends.stops {rest : List Char} (h : Ends rest) : Stops rest := by
  rcases h with rfl | ⟨c, others, rfl, rfl | rfl⟩
  · exact Or.inl rfl
  · exact stops_cons (by decide) others
  · exact stops_cons (by decide) others

theorem takeWhile_digits {digits rest : List Char}
    (h : forall c, c ∈ digits -> isAsciiDigit c = true) (hstops : Stops rest) :
    (digits ++ rest).takeWhile isAsciiDigit = digits ∧
      (digits ++ rest).dropWhile isAsciiDigit = rest := by
  rw [List.takeWhile_append_of_pos h, List.dropWhile_append_of_pos h]
  rcases hstops with rfl | ⟨c, others, rfl, hc⟩
  · exact ⟨List.append_nil digits, rfl⟩
  · have hnot : Not (isAsciiDigit c = true) := by simp [hc]
    rw [List.takeWhile_cons_of_neg hnot, List.dropWhile_cons_of_neg hnot]
    exact ⟨List.append_nil digits, rfl⟩

/-- Digits that a number is read from. -/
structure Numeral (digits : List Char) (n : Nat) : Prop where
  ne_nil : digits ≠ []
  each : forall c, c ∈ digits -> isAsciiDigit c = true
  value : decimalValue digits = n

structure Significant (digits : List Char) : Prop where
  first : exists c others, digits = c :: others ∧ c ≠ '0'
  each : forall c, c ∈ digits -> isAsciiDigit c = true

def IsLeading (digits : List Char) : Prop := digits = ['0'] ∨ Significant digits

theorem significant_toDigits {n : Nat} (h : n ≠ 0) : Significant (Nat.toDigits 10 n) := by
  rcases toDigits_eq_cons n with ⟨c, others, hcons, _⟩
  exact ⟨⟨c, others, hcons, head_toDigits hcons h⟩,
    fun c hc => isAsciiDigit_of_isDigit (isDigit_of_mem_toDigits hc)⟩

theorem isLeading_toDigits (n : Nat) : IsLeading (Nat.toDigits 10 n) := by
  by_cases hn : n = 0
  · subst hn
    exact Or.inl (Nat.toDigits_zero 10)
  · exact Or.inr (significant_toDigits hn)

theorem readLeading_append {digits rest : List Char} (h : IsLeading digits) (hstops : Stops rest) :
    readLeading (digits ++ rest) = some (digits, rest) := by
  rcases h with rfl | h
  · rfl
  · rcases takeWhile_digits h.each hstops with ⟨htake, hdrop⟩
    rcases h.first with ⟨c, others, rfl, hzero⟩
    rw [List.cons_append] at htake hdrop ⊢
    rw [readLeading]
    · simp only [htake, hdrop]
      rfl
    · intro _ hsame
      injection hsame with hc _
      exact hzero hc

/-!
## Whole numbers
-/

theorem readFraction_of_ends {rest : List Char} (h : Ends rest) : readFraction rest = ([], rest) := by
  rcases h with rfl | ⟨c, others, rfl, rfl | rfl⟩
  · rfl
  · rfl
  · rfl

theorem readPower_of_ends {rest : List Char} (h : Ends rest) : readPower rest = (none, rest) := by
  rcases h with rfl | ⟨c, others, rfl, rfl | rfl⟩
  · rfl
  · rfl
  · rfl

theorem readMagnitude_toDigits (negative : Bool) (n : Nat) {rest : List Char} (hends : Ends rest) :
    readMagnitude negative (Nat.toDigits 10 n ++ rest) =
      if n < Nat.pow 10 digitLimit then .ok (.whole (signed negative n), rest)
      else .error (.numeral (.tooLong (Nat.toDigits 10 n).length)) := by
  unfold readMagnitude
  simp only [readLeading_append (isLeading_toDigits n) hends.stops, readFraction_of_ends hends, readPower_of_ends hends,
    readDigits_toDigits]
  by_cases hshort : n < Nat.pow 10 digitLimit
  · rw [if_pos hshort, if_pos hshort]
    rfl
  · rw [if_neg hshort, if_neg hshort]
    rfl

theorem readLeaf_eq_readNumber {cs : List Char}
    (h : exists c rest, (cs = c :: rest ∨ cs = '-' :: c :: rest) ∧ c.isDigit = true) :
    readLeaf cs = readNumber cs := by
  have hnone : words.find? (fun entry => entry.1.isPrefixOf cs) = none := by
    rcases h with ⟨c, rest, hcs, hdigit⟩
    have hother := fun letter => @ne_of_isDigit c letter hdigit
    rw [List.find?_eq_none]
    intro entry hentry
    unfold words at hentry
    simp only [List.mem_cons, List.not_mem_nil, or_false] at hentry
    rcases hcs with rfl | rfl
    · rcases hentry with rfl | rfl | rfl | rfl | rfl | rfl
      all_goals simp [hother]
    · rcases hentry with rfl | rfl | rfl | rfl | rfl | rfl
      all_goals simp [hother]
  unfold readLeaf
  rw [hnone]

theorem readLeaf_toString (value : Int) {rest : List Char} (hends : Ends rest) :
    readLeaf ((toString value).toList ++ rest) =
      if value.natAbs < Nat.pow 10 digitLimit then .ok (.whole value, rest)
      else .error (.numeral (.tooLong (Nat.toDigits 10 value.natAbs).length)) := by
  cases value with
  | ofNat n =>
      rcases toDigits_eq_cons n with ⟨c, others, hcons, hdigit⟩
      have hnumber : readNumber (Nat.toDigits 10 n ++ rest) =
          readMagnitude false (Nat.toDigits 10 n ++ rest) := by
        rw [hcons, List.cons_append, readNumber]
        intro _ hsame
        injection hsame with hc _
        subst hc
        cases hdigit
      rw [toList_toString_ofNat, readLeaf_eq_readNumber
        ⟨c, others ++ rest, Or.inl (congrArg (· ++ rest) hcons), hdigit⟩, hnumber,
        readMagnitude_toDigits false n hends]
      rfl
  | negSucc n =>
      rcases toDigits_eq_cons (n + 1) with ⟨c, others, hcons, hdigit⟩
      rw [toList_toString_negSucc, List.cons_append, readLeaf_eq_readNumber
        ⟨c, others ++ rest, Or.inr (congrArg (fun digits => '-' :: (digits ++ rest)) hcons), hdigit⟩]
      exact readMagnitude_toDigits true (n + 1) hends

/-!
## Numbers with a fraction
-/

theorem readFraction_point {fraction rest : List Char} (hne : fraction ≠ [])
    (h : forall c, c ∈ fraction -> isAsciiDigit c = true) (hstops : Stops rest) :
    readFraction ('.' :: (fraction ++ rest)) = (fraction, rest) := by
  rcases takeWhile_digits h hstops with ⟨htake, hdrop⟩
  unfold readFraction
  simp only [htake, hdrop]
  cases fraction with
  | nil => exact absurd rfl hne
  | cons c others => rfl

theorem readPower_written {size rest : List Char} {n : Nat} (negative : Bool)
    (h : Numeral size n) (hstops : Stops rest) :
    readPower ('e' :: (if negative then '-' else '+') :: (size ++ rest)) =
      (some (signed negative n), rest) := by
  rcases h with ⟨hne, heach, rfl⟩
  rcases takeWhile_digits heach hstops with ⟨htake, hdrop⟩
  have hsign : splitSign ((if negative then '-' else '+') :: (size ++ rest)) =
      (negative, size ++ rest) := by
    cases negative with
    | true => rfl
    | false => rfl
  unfold readPower
  simp only [hsign, htake, hdrop]
  cases size with
  | nil => exact absurd rfl hne
  | cons c others => rfl

/-- A text that is read as a decimal of a value, whatever sign stands in front of it. -/
def StandsFor (cs : List Char) (x : ℚ) : Prop :=
  forall (negative : Bool) (rest : List Char), Ends rest -> exists (digits : Nat) (power : Int),
    readMagnitude negative (cs ++ rest) =
        .ok (.real (Binary64.ofDecimal negative digits power), rest) ∧
      (digits : ℚ) * 10 ^ power = x

section Reals

variable {leading fraction size : List Char}

theorem readMagnitude_real (negative : Bool) {cs afterLeading afterFraction rest : List Char}
    {power : Option Int} (hleading : readLeading cs = some (leading, afterLeading))
    (hfraction : readFraction afterLeading = (fraction, afterFraction))
    (hpower : readPower afterFraction = (power, rest)) (hreal : fraction ≠ [] ∨ power ≠ none) :
    readMagnitude negative cs = .ok (.real (Binary64.ofDecimal negative
      (decimalValue (leading ++ fraction)) (power.getD 0 - fraction.length)), rest) := by
  have hnot : (fraction.isEmpty && power.isNone) = false := by
    rw [Bool.and_eq_false_iff]
    rcases hreal with hne | hsome
    · exact Or.inl (by simpa using hne)
    · exact Or.inr (by simpa using Option.ne_none_iff_isSome.mp hsome)
  unfold readMagnitude
  simp only [hleading, hfraction, hpower, hnot]
  rfl

theorem standsFor_point (hleading : IsLeading leading) (hne : fraction ≠ [])
    (hfraction : forall c, c ∈ fraction -> isAsciiDigit c = true) :
    StandsFor (leading ++ '.' :: fraction)
      (decimalValue (leading ++ fraction) * 10 ^ (-fraction.length : Int)) := by
  intro negative rest hends
  have hstops : Stops ('.' :: (fraction ++ rest)) := stops_cons (by decide) _
  refine ⟨_, _, ?_, rfl⟩
  rw [List.append_assoc, List.cons_append, readMagnitude_real negative
    (readLeading_append hleading hstops) (readFraction_point hne hfraction hends.stops)
    (readPower_of_ends hends) (Or.inl hne), Option.getD_none, Int.zero_sub]

theorem standsFor_power (hleading : IsLeading leading) (below : Bool) {n : Nat}
    (hsize : Numeral size n) :
    StandsFor (leading ++ 'e' :: (if below then '-' else '+') :: size)
      (decimalValue leading * 10 ^ signed below n) := by
  intro negative rest hends
  have hstops : Stops ('e' :: (if below then '-' else '+') :: (size ++ rest)) :=
    stops_cons (by decide) _
  refine ⟨decimalValue leading, signed below n, ?_, rfl⟩
  rw [List.append_assoc, List.cons_append, List.cons_append, readMagnitude_real negative
    (readLeading_append hleading hstops) rfl (readPower_written below hsize hends.stops)
    (Or.inr (Option.some_ne_none _)), List.append_nil, Option.getD_some, List.length_nil,
    Int.natCast_zero, Int.sub_zero]

theorem standsFor_point_power (hleading : IsLeading leading) (hne : fraction ≠ [])
    (hfraction : forall c, c ∈ fraction -> isAsciiDigit c = true) (below : Bool) {n : Nat}
    (hsize : Numeral size n) :
    StandsFor (leading ++ '.' :: fraction ++ 'e' :: (if below then '-' else '+') :: size)
      (decimalValue (leading ++ fraction) * 10 ^ (signed below n - fraction.length)) := by
  intro negative rest hends
  have hpoint : Stops ('.' :: (fraction ++ 'e' :: (if below then '-' else '+') :: (size ++ rest))) :=
    stops_cons (by decide) _
  have hstops : Stops ('e' :: (if below then '-' else '+') :: (size ++ rest)) :=
    stops_cons (by decide) _
  refine ⟨_, _, ?_, rfl⟩
  rw [List.append_assoc, List.append_assoc, List.cons_append, List.cons_append, List.cons_append,
    readMagnitude_real negative
    (readLeading_append hleading hpoint) (readFraction_point hne hfraction hstops)
    (readPower_written below hsize hends.stops) (Or.inl hne), Option.getD_some]

/-!
### The two layouts
-/

variable {digits : List Char}

theorem Significant.length_pos (h : Significant digits) : 0 < digits.length := by
  rcases h.first with ⟨c, others, rfl, _⟩
  exact Nat.succ_pos _

theorem Significant.append (h : Significant digits) {more : List Char}
    (hmore : forall c, c ∈ more -> isAsciiDigit c = true) : Significant (digits ++ more) := by
  rcases h.first with ⟨c, others, hcons, hzero⟩
  refine ⟨⟨c, others ++ more, ?_, hzero⟩, fun d hd => ?_⟩
  · rw [hcons, List.cons_append]
  · rcases List.mem_append.mp hd with hfront | hback
    · exact h.each d hfront
    · exact hmore d hback

theorem Significant.take (h : Significant digits) {count : Nat} (hcount : 0 < count) :
    Significant (digits.take count) := by
  rcases h.first with ⟨c, others, hcons, hzero⟩
  refine ⟨?_, fun d hd => h.each d (List.mem_of_mem_take hd)⟩
  rcases Nat.exists_eq_succ_of_ne_zero hcount.ne' with ⟨fewer, rfl⟩
  exact ⟨c, others.take fewer, by rw [hcons, List.take_succ_cons], hzero⟩

theorem isAsciiDigit_of_mem_zeros {count : Nat} {c : Char} (h : c ∈ List.replicate count '0') :
    isAsciiDigit c = true := by
  rw [List.eq_of_mem_replicate h]
  rfl

theorem standsFor_positional (h : Significant digits) (point : Int) :
    StandsFor (Binary64.positional digits point)
      (decimalValue digits * 10 ^ (point - digits.length)) := by
  have hlength := h.length_pos
  unfold Binary64.positional
  dsimp only
  split
  · rename_i hpoint
    have hread := @standsFor_point ['0'] (List.replicate point.natAbs '0' ++ digits) (Or.inl rfl)
      (List.append_ne_nil_of_right_ne_nil _ (List.ne_nil_of_length_pos hlength)) (by
        intro c hc
        rcases List.mem_append.mp hc with hzero | hdigit
        · exact isAsciiDigit_of_mem_zeros hzero
        · exact h.each c hdigit)
    have hvalue : decimalValue (['0'] ++ (List.replicate point.natAbs '0' ++ digits)) =
        decimalValue digits := by
      rw [← List.append_assoc, ← List.replicate_one, List.replicate_append_replicate,
        decimalValue_zeros_append]
    have hpower : (-(List.replicate point.natAbs '0' ++ digits).length : Int) =
        point - digits.length := by
      rw [List.length_append, List.length_replicate]
      omega
    rwa [hvalue, hpower] at hread
  · split
    · rename_i hpoint hshort
      have hread := @standsFor_point (digits ++ List.replicate (point.natAbs - digits.length) '0')
        ['0'] (Or.inr (h.append fun c => isAsciiDigit_of_mem_zeros)) (List.cons_ne_nil _ _)
        fun c => @isAsciiDigit_of_mem_zeros 1 c
      have hvalue : decimalValue (digits ++ List.replicate (point.natAbs - digits.length) '0' ++ ['0']) =
          decimalValue digits * Nat.pow 10 (point.natAbs - digits.length + 1) := by
        rw [← decimalValue_append_zeros, List.replicate_succ', List.append_assoc]
      have hpower : ((point.natAbs - digits.length + 1 : Nat) : Int) + (-(['0'] : List Char).length) =
          point - digits.length := by
        rw [List.length_singleton]
        omega
      rwa [hvalue, Nat.cast_mul, Nat.pow_eq, Nat.cast_pow, Nat.cast_ofNat, mul_assoc,
        ← zpow_natCast, ← zpow_add₀ (by norm_num), hpower] at hread
    · rename_i hpoint hlong
      have hread := @standsFor_point (digits.take point.natAbs) (digits.drop point.natAbs)
        (Or.inr (h.take (by omega))) (by simp; omega)
        fun c hc => h.each c (List.mem_of_mem_drop hc)
      have hpower : (-(digits.drop point.natAbs).length : Int) = point - digits.length := by
        rw [List.length_drop]
        omega
      rwa [List.take_append_drop, hpower] at hread

theorem numeral_size (n : Nat) :
    Numeral (if (Nat.repr n).toList.length < 2 then '0' :: (Nat.repr n).toList
      else (Nat.repr n).toList) n := by
  have hdigits : forall c, c ∈ Nat.toDigits 10 n -> isAsciiDigit c = true :=
    fun c hc => isAsciiDigit_of_isDigit (isDigit_of_mem_toDigits hc)
  rw [Nat.toList_repr]
  split
  · refine ⟨List.cons_ne_nil _ _, fun c hc => ?_, ?_⟩
    · rcases List.mem_cons.mp hc with rfl | hdigit
      · rfl
      · exact hdigits c hdigit
    · exact (decimalValue_zeros_append 1 _).trans (decimalValue_toDigits n)
  · exact ⟨Nat.toDigits_ne_nil, hdigits, decimalValue_toDigits n⟩

theorem signed_natAbs (n : Int) : signed (decide (n < 0)) n.natAbs = n := by
  unfold signed
  split
  · rename_i hneg
    rw [decide_eq_true_eq] at hneg
    omega
  · rename_i hnonneg
    rw [decide_eq_true_eq] at hnonneg
    omega

theorem standsFor_scientific (h : Significant digits) (power : Int) :
    StandsFor (Binary64.scientific digits power)
      (decimalValue digits * 10 ^ (power - (digits.length - 1))) := by
  have hsign : (if power < 0 then '-' else '+') = if decide (power < 0) = true then '-' else '+' := by
    simp
  have hsize := numeral_size power.natAbs
  have hpower := signed_natAbs power
  rcases h.first with ⟨c, others, rfl, hzero⟩
  unfold Binary64.scientific
  dsimp only
  rw [hsign]
  cases others with
  | nil =>
      have hread := standsFor_power (Or.inr h) (decide (power < 0)) hsize
      have hlength : (([c].length : Int) - 1) = 0 := rfl
      rw [hpower] at hread
      rw [hlength, Int.sub_zero]
      exact hread
  | cons d others =>
      have hread := @standsFor_point_power [c] (d :: others) _ (Or.inr (h.take Nat.one_pos))
        (List.cons_ne_nil _ _) (fun e he => h.each e (List.mem_cons_of_mem _ he))
        (decide (power < 0)) _ hsize
      have hlength : (((c :: d :: others).length : Int) - 1) = (d :: others).length := by
        rw [List.length_cons, Int.natCast_succ, Int.add_sub_cancel]
      rw [hpower] at hread
      rw [hlength, if_neg (by simp)]
      exact hread

/-!
### What a number is written in
-/

theorem exists_zeros (row : List Char) :
    exists count, row = (row.reverse.dropWhile (· == '0')).reverse ++ List.replicate count '0' := by
  refine ⟨(row.reverse.takeWhile (· == '0')).length, ?_⟩
  have hzeros : row.reverse.takeWhile (· == '0') =
      List.replicate (row.reverse.takeWhile (· == '0')).length '0' := by
    refine List.eq_replicate_of_mem fun c hc => ?_
    simpa using List.all_eq_true.mp List.all_takeWhile c hc
  have hsplit := congrArg List.reverse (@List.takeWhile_append_dropWhile _ (· == '0') row.reverse)
  rw [List.reverse_append, List.reverse_reverse, hzeros, List.reverse_replicate] at hsplit
  exact hsplit.symm

theorem significant_of_append_zeros {count : Nat} (h : Significant (digits ++ List.replicate count '0')) :
    Significant digits := by
  refine ⟨?_, fun c hc => h.each c (List.mem_append_left _ hc)⟩
  rcases h.first with ⟨c, others, hcons, hzero⟩
  cases digits with
  | nil =>
      have hc : c ∈ List.replicate count '0' := by
        rw [← List.nil_append (List.replicate count '0'), hcons]
        exact List.mem_cons_self
      exact absurd (List.eq_of_mem_replicate hc) hzero
  | cons first rest =>
      injection hcons with hfirst _
      exact ⟨first, rest, rfl, hfirst ▸ hzero⟩

theorem standsFor_magnitudeText {mantissa : Nat} {exponent : Int}
    (h : (Binary64.shortest mantissa exponent).1 ≠ 0) :
    StandsFor (Binary64.magnitudeText mantissa exponent)
      ((Binary64.shortest mantissa exponent).1 * 10 ^ (Binary64.shortest mantissa exponent).2) := by
  unfold Binary64.magnitudeText
  generalize Binary64.shortest mantissa exponent = decimal at *
  rcases decimal with ⟨units, power⟩
  have hrow := significant_toDigits h
  have hunits := decimalValue_toDigits units
  dsimp only
  rw [Nat.toList_repr]
  rcases exists_zeros (Nat.toDigits 10 units) with ⟨count, hzeros⟩
  generalize ((Nat.toDigits 10 units).reverse.dropWhile (· == '0')).reverse = digits at *
  rw [hzeros] at hrow hunits ⊢
  have hdigits := significant_of_append_zeros hrow
  have hpoint : ((digits ++ List.replicate count '0').length : Int) + power - digits.length =
      count + power := by
    rw [List.length_append, List.length_replicate]
    omega
  have hvalue : (units : ℚ) * 10 ^ power = decimalValue digits *
      10 ^ (((digits ++ List.replicate count '0').length : Int) + power - digits.length) := by
    rw [hpoint, ← hunits, decimalValue_append_zeros, zpow_add₀ (by norm_num), zpow_natCast,
      Nat.cast_mul, Nat.pow_eq, Nat.cast_pow, Nat.cast_ofNat, mul_assoc]
  rw [hvalue]
  split
  · exact standsFor_positional hdigits _
  · have hread := standsFor_scientific hdigits
      (((digits ++ List.replicate count '0').length : Int) + power - 1)
    rwa [sub_sub_sub_cancel_right] at hread

theorem StandsFor.cons {cs : List Char} {x : ℚ} (h : StandsFor cs x) :
    exists c others, cs = c :: others ∧ c.isDigit = true := by
  rcases h false [] (Or.inl rfl) with ⟨digits, power, hread, _⟩
  cases cs with
  | nil => cases hread
  | cons c others =>
      refine ⟨c, others, rfl, ?_⟩
      by_contra hc
      have hnot : Not (isAsciiDigit c = true) := mt isAsciiDigit_iff.mp hc
      have hnone : readLeading (c :: (others ++ [])) = none := by
        rw [readLeading]
        · rw [List.takeWhile_cons_of_neg hnot]
          rfl
        · intro _ hsame
          injection hsame with hzero _
          rw [hzero] at hnot
          exact hnot rfl
      rw [List.cons_append, readMagnitude, hnone] at hread
      cases hread

end Reals

theorem standsFor_zero : StandsFor ['0', '.', '0'] 0 := by
  have hread := @standsFor_point ['0'] ['0'] (Or.inl rfl) (List.cons_ne_nil _ _)
    fun c => @isAsciiDigit_of_mem_zeros 1 c
  have hvalue : decimalValue (['0'] ++ ['0']) = 0 := by decide
  rwa [hvalue, Nat.cast_zero, zero_mul] at hread

def writtenMagnitude (mantissa : Nat) (exponent : Int) : List Char :=
  if mantissa = 0 then ['0', '.', '0'] else Binary64.magnitudeText mantissa exponent

/-- What a finite number is written in stands for a value that is read as the number. -/
theorem exists_standsFor {mantissa : Nat} {exponent : Int} (h : Binary64.Fits mantissa exponent) :
    exists x, StandsFor (writtenMagnitude mantissa exponent) x ∧
      forall negative (digits : Nat) (power : Int), (digits : ℚ) * 10 ^ power = x ->
        Binary64.ofDecimal negative digits power = .finite negative mantissa exponent := by
  unfold writtenMagnitude
  split
  · rename_i hzero
    subst hzero
    refine ⟨0, standsFor_zero, fun negative digits power hvalue => ?_⟩
    have hdigits : digits = 0 := by
      rcases mul_eq_zero.mp hvalue with hdigits | hpower
      · exact_mod_cast hdigits
      · exact absurd hpower (Binary64.ten_zpow_pos power).ne'
    rw [hdigits, h.full (by decide)]
    rfl
  · rename_i hne
    have hpos := Nat.pos_of_ne_zero hne
    have hrounds := Binary64.rounds_shortest h hpos
    have hunits : (Binary64.shortest mantissa exponent).1 ≠ 0 := by
      intro hzero
      have hhalf := Binary64.half_le_of_rounds hpos hrounds
      rw [hzero, Nat.cast_zero, zero_mul, zero_div] at hhalf
      exact absurd hhalf (by norm_num)
    refine ⟨_, standsFor_magnitudeText hunits, fun negative digits power hvalue => ?_⟩
    rw [← hvalue] at hrounds
    exact Binary64.ofDecimal_eq h hpos negative hrounds

/-- A number with a fraction is read as it was written. -/
theorem readLeaf_writtenReal {value : Binary64} (h : value.WellFormed) {rest : List Char}
    (hends : Ends rest) : readLeaf (writtenReal value ++ rest) = .ok (.real value, rest) := by
  cases value with
  | nan => rfl
  | infinite negative =>
      cases negative with
      | true => rfl
      | false => rfl
  | finite negative mantissa exponent =>
      rcases exists_standsFor h with ⟨x, hstands, hrounded⟩
      rcases hstands.cons with ⟨c, others, hcons, hdigit⟩
      rcases hstands negative rest hends with ⟨digits, power, hread, hvalue⟩
      rw [hrounded negative digits power hvalue] at hread
      have hwritten : writtenReal (.finite negative mantissa exponent) =
          (if negative then ['-'] else []) ++ writtenMagnitude mantissa exponent := rfl
      rw [hwritten]
      cases negative with
      | true =>
          have hleaf : readLeaf (['-'] ++ writtenMagnitude mantissa exponent ++ rest) =
              readNumber (['-'] ++ writtenMagnitude mantissa exponent ++ rest) :=
            readLeaf_eq_readNumber ⟨c, others ++ rest, Or.inr (by rw [hcons]; rfl), hdigit⟩
          exact hleaf.trans hread
      | false =>
          have hleaf : readLeaf (writtenMagnitude mantissa exponent ++ rest) =
              readNumber (writtenMagnitude mantissa exponent ++ rest) :=
            readLeaf_eq_readNumber ⟨c, others ++ rest, Or.inl (by rw [hcons]; rfl), hdigit⟩
          have hnumber : readNumber (writtenMagnitude mantissa exponent ++ rest) =
              readMagnitude false (writtenMagnitude mantissa exponent ++ rest) := by
            rw [hcons, List.cons_append, readNumber]
            intro _ hsame
            injection hsame with hminus _
            rw [hminus] at hdigit
            cases hdigit
          exact hleaf.trans (hnumber.trans hread)

/-!
## What numbers begin with
-/

def beginsNumber (c : Char) : Bool := c.isDigit || c == '-' || c == 'N' || c == 'I'

theorem beginsNumber_of_isDigit {c : Char} (h : c.isDigit = true) : beginsNumber c = true := by
  unfold beginsNumber
  simp [h]

theorem ne_of_beginsNumber {c other : Char} (h : beginsNumber c = true)
    (hother : beginsNumber other = false) : c ≠ other := by
  rintro rfl
  rw [h] at hother
  cases hother

theorem isSpace_of_beginsNumber {c : Char} (h : beginsNumber c = true) : isSpace c = false := by
  unfold isSpace
  simp only [Bool.or_eq_false_iff, beq_eq_false_iff_ne]
  exact ⟨⟨⟨ne_of_beginsNumber h (by decide), ne_of_beginsNumber h (by decide)⟩,
    ne_of_beginsNumber h (by decide)⟩, ne_of_beginsNumber h (by decide)⟩

theorem toString_cons (value : Int) :
    exists c others, (toString value).toList = c :: others ∧ beginsNumber c = true := by
  rcases toList_toString_eq_cons value with ⟨c, others, hcons, hdigit | rfl⟩
  · exact ⟨c, others, hcons, beginsNumber_of_isDigit hdigit⟩
  · exact ⟨'-', others, hcons, rfl⟩

theorem writtenReal_cons {value : Binary64} (h : value.WellFormed) :
    exists c others, writtenReal value = c :: others ∧ beginsNumber c = true := by
  cases value with
  | nan => exact ⟨'N', _, rfl, rfl⟩
  | infinite negative =>
      cases negative with
      | true => exact ⟨'-', _, rfl, rfl⟩
      | false => exact ⟨'I', _, rfl, rfl⟩
  | finite negative mantissa exponent =>
      cases negative with
      | true => exact ⟨'-', writtenMagnitude mantissa exponent, rfl, rfl⟩
      | false =>
          rcases exists_standsFor h with ⟨x, hstands, _⟩
          rcases hstands.cons with ⟨c, others, hcons, hdigit⟩
          exact ⟨c, others, hcons, beginsNumber_of_isDigit hdigit⟩

end Document
end Mosaic
