import Mosaic.Proofs.Attempts
import Mosaic.Text.Numeral

/-!
# What numerals stand for

A row of digits stands for less than the power of ten with one zero for each digit, so no number
that was read has too many digits to be written.  Sums of such numbers may have.
-/

namespace Mosaic
namespace Text

/-!
## Reading
-/

theorem digitValue?_lt {c : Char} {value : Nat} (h : digitValue? c = some value) : value < 10 := by
  unfold digitValue? at h
  rcases Option.map_eq_some_iff.mp h with ⟨first, hfirst, rfl⟩
  have hrange := List.find?_some hfirst
  simp only [Bool.and_eq_true, decide_eq_true_eq] at hrange
  omega

theorem pow_ten_le {m n : Nat} (h : m ≤ n) : Nat.pow 10 m ≤ Nat.pow 10 n :=
  Nat.pow_le_pow_right (by omega) h

theorem foldl_digits_lt {values : List Nat} (h : forall value, value ∈ values -> value < 10)
    (start : Nat) :
    values.foldl (fun n d => 10 * n + d) start < (start + 1) * Nat.pow 10 values.length := by
  induction values generalizing start with
  | nil =>
      show start < (start + 1) * 1
      omega
  | cons first rest ih =>
      have hfirst := h first (by simp)
      have hrest := ih (fun value hvalue => h value (by simp [hvalue])) (10 * start + first)
      have hgrow : (10 * start + first + 1) * Nat.pow 10 rest.length ≤
          (start + 1) * 10 * Nat.pow 10 rest.length :=
        Nat.mul_le_mul_right _ (by omega)
      rw [List.foldl_cons, List.length_cons]
      show _ < (start + 1) * (Nat.pow 10 rest.length * 10)
      rw [Nat.mul_comm (Nat.pow 10 rest.length) 10, ← Nat.mul_assoc]
      exact Nat.lt_of_lt_of_le hrest hgrow

theorem ofDigitValues_lt {values : List Nat} (h : forall value, value ∈ values -> value < 10) :
    ofDigitValues values < Nat.pow 10 values.length := by
  have hbound := foldl_digits_lt h 0
  rwa [Nat.zero_add, Nat.one_mul] at hbound

theorem decimalValue_lt (cs : List Char) : decimalValue cs < Nat.pow 10 cs.length := by
  have hbound := @ofDigitValues_lt (cs.map fun c => (digitValue? c).getD 0) (by
    intro value hvalue
    rcases List.mem_map.mp hvalue with ⟨c, _, rfl⟩
    cases hdigit : digitValue? c with
    | none => simp
    | some value => simpa using digitValue?_lt hdigit)
  rwa [List.length_map] at hbound

theorem foldl_nines (n start : Nat) :
    (List.replicate n 9).foldl (fun n d => 10 * n + d) start + 1 =
      (start + 1) * Nat.pow 10 n := by
  induction n generalizing start with
  | zero => exact (Nat.mul_one _).symm
  | succ n ih =>
      rw [List.replicate_succ, List.foldl_cons, ih]
      show _ = (start + 1) * (Nat.pow 10 n * 10)
      rw [Nat.mul_comm (Nat.pow 10 n) 10, ← Nat.mul_assoc]
      congr 1
      omega

theorem decimalValue_nines (n : Nat) :
    decimalValue (List.replicate n '9') + 1 = Nat.pow 10 n := by
  have hnine : (digitValue? '9').getD 0 = 9 := by decide
  unfold decimalValue ofDigitValues
  rw [List.map_replicate, hnine, foldl_nines, Nat.zero_add, Nat.one_mul]

theorem decimalValue_nines_succ (n : Nat) :
    decimalValue (List.replicate (n + 1) '9') = 10 * decimalValue (List.replicate n '9') + 9 := by
  have hlonger := decimalValue_nines (n + 1)
  have hshorter := decimalValue_nines n
  have hpower : Nat.pow 10 (n + 1) = Nat.pow 10 n * 10 := rfl
  omega

theorem readDigits_eq_ok_iff {cs : List Char} {n : Nat} :
    readDigits cs = .ok n ↔ cs.length ≤ digitLimit ∧ decimalValue cs = n := by
  unfold readDigits
  split
  · rename_i hlong
    simp [Nat.not_le_of_lt hlong]
  · rename_i hshort
    simp [Nat.le_of_not_lt hshort]

theorem readDigits_eq_error_iff {cs : List Char} {fault : NumeralFault} :
    readDigits cs = .error fault ↔ digitLimit < cs.length ∧ fault = .tooLong cs.length := by
  unfold readDigits
  split
  · rename_i hlong
    simp [hlong, eq_comm]
  · rename_i hshort
    simp [hshort]

theorem lt_of_readDigits {cs : List Char} {n : Nat} (h : readDigits cs = .ok n) :
    n < Nat.pow 10 digitLimit := by
  rcases readDigits_eq_ok_iff.mp h with ⟨hlength, rfl⟩
  exact Nat.lt_of_lt_of_le (decimalValue_lt cs) (pow_ten_le hlength)

/-!
## Free texts
-/

def digitRanges : List (Nat × Nat) :=
  zeroPoints.map (fun first => (first, first + 9)) ++ digitSignRanges

theorem inRanges_mem {ranges : List (Nat × Nat)} {point : Nat} (h : inRanges ranges point = true) :
    exists range, range ∈ ranges ∧ range.1 ≤ point ∧ point ≤ range.2 := by
  induction ranges with
  | nil => cases h
  | cons range rest ih =>
      rw [inRanges] at h
      split at h
      · cases h
      · rename_i hlow
        rw [Bool.or_eq_true, decide_eq_true_eq] at h
        rcases h with hhigh | hrest
        · exact ⟨range, by simp, by omega, hhigh⟩
        · rcases ih hrest with ⟨other, hother, hinside⟩
          exact ⟨other, by simp [hother], hinside⟩

theorem isDigitLike_mem {c : Char} (h : isDigitLike c = true) :
    exists range, range ∈ digitRanges ∧ range.1 ≤ c.toNat ∧ c.toNat ≤ range.2 := by
  unfold digitRanges
  unfold isDigitLike at h
  rw [Bool.or_eq_true] at h
  rcases h with hdecimal | hsign
  · unfold isDecimal digitValue? at hdecimal
    rw [Option.isSome_map, List.find?_isSome] at hdecimal
    rcases hdecimal with ⟨first, hfirst, hrange⟩
    simp only [Bool.and_eq_true, decide_eq_true_eq] at hrange
    exact ⟨(first, first + 9), by simp [hfirst], hrange⟩
  · rcases inRanges_mem hsign with ⟨range, hrange, hinside⟩
    exact ⟨range, by simp [hrange], hinside⟩

def paddingRanges : List (Nat × Nat) :=
  blankRanges ++ [(0x2B, 0x2B), (0x2D, 0x2D), (0x5F, 0x5F)]

theorem digitRanges_apart :
    digitRanges.all (fun range => paddingRanges.all fun other =>
      range.2 < other.1 || other.2 < range.1) = true := by
  decide +kernel

theorem not_padding_of_isDigitLike {c : Char} (h : isDigitLike c = true) :
    isBlank c = false ∧ c ≠ '+' ∧ c ≠ '-' ∧ c ≠ '_' := by
  rcases isDigitLike_mem h with ⟨range, hrange, hlow, hhigh⟩
  have hapart : forall other, other ∈ paddingRanges ->
      Not (other.1 ≤ c.toNat ∧ c.toNat ≤ other.2) := by
    intro other hother hinside
    have hranges := List.all_eq_true.mp (List.all_eq_true.mp digitRanges_apart range hrange)
      other hother
    rw [Bool.or_eq_true, decide_eq_true_eq, decide_eq_true_eq] at hranges
    omega
  refine ⟨?_, ?_, ?_, ?_⟩
  · cases hblank : isBlank c with
    | false => rfl
    | true =>
        rcases inRanges_mem hblank with ⟨other, hother, hinside⟩
        exact absurd hinside (hapart other (by simp [paddingRanges, hother]))
  · intro hsame
    subst hsame
    exact hapart (0x2B, 0x2B) (by simp [paddingRanges]) (by decide)
  · intro hsame
    subst hsame
    exact hapart (0x2D, 0x2D) (by simp [paddingRanges]) (by decide)
  · intro hsame
    subst hsame
    exact hapart (0x5F, 0x5F) (by simp [paddingRanges]) (by decide)

def IsCount (cs : List Char) : Prop := cs ≠ [] ∧ forall c, c ∈ cs -> isDigitLike c = true

/-- A text whose characters are all decimal digits, not too many of them. -/
def IsReadable (cs : List Char) : Prop :=
  (forall c, c ∈ cs -> isDecimal c = true) ∧ cs.length ≤ digitLimit

theorem isReadable_singleton {c : Char} (h : isDecimal c = true) : IsReadable [c] := by
  have hshort : 1 ≤ digitLimit := by decide
  refine ⟨?_, hshort⟩
  intro other hother
  rwa [List.mem_singleton.mp hother]

theorem isGrouped_of_decimal {cs : List Char} (hne : cs ≠ [])
    (h : forall c, c ∈ cs -> isDecimal c = true) : isGrouped cs = true := by
  induction cs with
  | nil => exact absurd rfl hne
  | cons c rest ih =>
      have hc := h c (by simp)
      cases rest with
      | nil =>
          rw [isGrouped]
          exact hc
      | cons next others =>
          have hrest := ih (by simp) (fun other hother => h other (List.mem_cons_of_mem c hother))
          have hnext : next ≠ '_' := by
            intro hsame
            subst hsame
            have hunder := h '_' (by simp)
            revert hunder
            decide
          rw [isGrouped.eq_4 c (next :: others) (by simp) (by simp [hnext]), hc, hrest]
          rfl

theorem readWhole_of_isCount {cs : List Char} (h : IsCount cs) :
    readWhole cs =
      let run := cs.takeWhile fun c => isDecimal c || c == '_'
      let digits := run.filter isDecimal
      if !isGrouped run then .error (.notANumber cs)
      else if digitLimit < digits.length then .error (.tooLong digits.length)
      else if run.length < cs.length then .error (.notANumber cs)
      else .ok (signed false (decimalValue digits)) := by
  have hkept : forall rest : List Char, (forall c, c ∈ rest -> isDigitLike c = true) ->
      rest.dropWhile isNumeralBlank = rest := by
    intro rest hrest
    cases rest with
    | nil => rfl
    | cons c others =>
        apply List.dropWhile_cons_of_neg
        unfold isNumeralBlank
        rw [(not_padding_of_isDigitLike (hrest c (by simp))).left]
        simp
  have hreverse : (cs.reverse.dropWhile isNumeralBlank).reverse = cs := by
    rw [hkept cs.reverse (fun c hc => h.right c (List.mem_reverse.mp hc)), List.reverse_reverse]
  have hsign : splitSign cs = (false, cs) := by
    cases cs with
    | nil => rfl
    | cons c rest =>
        rcases not_padding_of_isDigitLike (h.right c (by simp)) with ⟨_, hplus, hminus, _⟩
        unfold splitSign
        split
        · rename_i heq
          injection heq with hc _
          exact absurd hc hminus
        · rename_i heq
          injection heq with hc _
          exact absurd hc hplus
        · rfl
  unfold readWhole
  simp only [hkept cs h.right, hreverse, hsign]

theorem readWhole_of_decimal {cs : List Char} (h : IsCount cs)
    (hall : forall c, c ∈ cs -> isDecimal c = true) :
    readWhole cs =
      if digitLimit < cs.length then .error (.tooLong cs.length) else .ok (decimalValue cs) := by
  have hpasses : forall c, c ∈ cs -> (isDecimal c || c == '_') = true := by
    intro c hc
    rw [hall c hc]
    rfl
  have hrun : cs.takeWhile (fun c => isDecimal c || c == '_') = cs := by
    simpa using @List.takeWhile_append_of_pos _ _ cs [] hpasses
  have hdigits : cs.filter isDecimal = cs := List.filter_eq_self.mpr hall
  rw [readWhole_of_isCount h]
  simp only
  rw [hrun, hdigits, isGrouped_of_decimal h.left hall, if_neg (by simp),
    if_neg (Nat.lt_irrefl cs.length)]
  rfl

theorem readWhole_of_isReadable {cs : List Char} (h : IsCount cs) (hread : IsReadable cs) :
    readWhole cs = .ok (decimalValue cs) := by
  rw [readWhole_of_decimal h hread.left, if_neg (Nat.not_lt_of_le hread.right)]

theorem readWhole_isOk_iff {cs : List Char} (h : IsCount cs) :
    (exists n, readWhole cs = .ok n) ↔ IsReadable cs := by
  by_cases hall : forall c, c ∈ cs -> isDecimal c = true
  · rw [readWhole_of_decimal h hall]
    by_cases hlong : digitLimit < cs.length
    · rw [if_pos hlong]
      constructor
      · intro hgiven
        rcases hgiven with ⟨n, hn⟩
        cases hn
      · intro hreadable
        exact absurd hreadable.right (by omega)
    · rw [if_neg hlong]
      exact ⟨fun _ => ⟨hall, by omega⟩, fun _ => ⟨_, rfl⟩⟩
  · have hshort : (cs.takeWhile fun c => isDecimal c || c == '_').length < cs.length := by
      refine Nat.lt_of_le_of_ne (List.takeWhile_sublist _).length_le fun hsame => hall ?_
      intro c hc
      have hwhole := (List.takeWhile_sublist _).eq_of_length hsame
      rw [← hwhole] at hc
      have hrun := List.all_eq_true.mp List.all_takeWhile c hc
      rw [Bool.or_eq_true, beq_iff_eq] at hrun
      rcases hrun with hdecimal | hunder
      · exact hdecimal
      · rw [hwhole] at hc
        exact absurd hunder (not_padding_of_isDigitLike (h.right c hc)).right.right.right
    rw [readWhole_of_isCount h]
    constructor
    · intro hgiven
      rcases hgiven with ⟨n, hn⟩
      simp only at hn
      split at hn
      · cases hn
      · split at hn
        · cases hn
        · cases hn
    · intro hreadable
      exact absurd hreadable.left hall

@[simp] theorem natAbs_signed (negative : Bool) (n : Nat) : (signed negative n).natAbs = n := by
  cases negative <;> simp [signed]

/-!
## Writing
-/

def IsWritable (n : Int) : Prop := n.natAbs < Nat.pow 10 digitLimit

instance (n : Int) : Decidable (IsWritable n) := inferInstanceAs (Decidable (_ < _))

theorem isWritable_of_lt {n : Int} {digits : Nat} (h : n.natAbs < Nat.pow 10 digits)
    (hdigits : digits ≤ digitLimit) : IsWritable n :=
  Nat.lt_of_lt_of_le h (pow_ten_le hdigits)

theorem writeWhole_of_isWritable {n : Int} (h : IsWritable n) :
    writeWhole n = .ok (toString n) := by
  unfold IsWritable at h
  unfold writeWhole
  rw [if_pos h]

theorem writeWhole_of_not_isWritable {n : Int} (h : Not (IsWritable n)) :
    writeWhole n = .error .tooLarge := by
  unfold IsWritable at h
  unfold writeWhole
  rw [if_neg h]

end Text
end Mosaic
