import Mosaic.Proofs.Text.Layout
import Mosaic.Proofs.Text.Numeral
import Mosaic.Text.Quoted

/-!
# Digits that are written

The digits that a number is written in stand for that number: in base ten as many of them as are
needed, in base sixteen padded with zeros to a width.
-/

namespace Mosaic
namespace Text

/-!
## Base ten
-/

theorem ne_of_isDigit {c other : Char} (h : c.isDigit = true) (hother : other.isDigit = false) :
    other ≠ c := by
  intro hsame
  rw [hsame, h] at hother
  cases hother

theorem isAsciiDigit_iff {c : Char} : isAsciiDigit c = true ↔ c.isDigit = true := by
  unfold isAsciiDigit
  simp [Char.isDigit, Char.le_def]

theorem isAsciiDigit_of_isDigit {c : Char} (h : c.isDigit = true) : isAsciiDigit c = true :=
  isAsciiDigit_iff.mpr h

theorem digitValue?_of_isDigit {c : Char} (h : c.isDigit = true) :
    digitValue? c = some (c.toNat - '0'.toNat) := by
  have hrange : 0x30 ≤ c.toNat ∧ c.toNat ≤ 0x39 := by
    simpa [Char.isDigit, UInt32.le_iff_toNat_le] using h
  unfold digitValue? zeroPoints
  rw [List.find?_cons_of_pos (by simp only [Bool.and_eq_true, decide_eq_true_eq]; omega)]
  rfl

theorem isDecimal_of_isDigit {c : Char} (h : c.isDigit = true) : isDecimal c = true := by
  unfold isDecimal
  rw [digitValue?_of_isDigit h]
  rfl

theorem isBlank_of_isDigit {c : Char} (h : c.isDigit = true) : isBlank c = false :=
  (not_padding_of_isDigitLike (Bool.or_eq_true_iff.mpr (Or.inl (isDecimal_of_isDigit h)))).left

theorem decimalValue_of_isDigit {cs : List Char} (h : forall c, c ∈ cs -> c.isDigit = true) :
    decimalValue cs = Nat.ofDigitChars 10 cs 0 := by
  have hvalues : cs.map (fun c => (digitValue? c).getD 0) = cs.map fun c => c.toNat - '0'.toNat := by
    refine List.map_congr_left fun c hc => ?_
    rw [digitValue?_of_isDigit (h c hc)]
    rfl
  unfold decimalValue ofDigitValues
  rw [hvalues, List.foldl_map]
  rfl

theorem isDigit_of_mem_toDigits {n : Nat} {c : Char} (h : c ∈ Nat.toDigits 10 n) :
    c.isDigit = true :=
  Nat.isDigit_of_mem_toDigits (by decide) (by decide) h

theorem toDigits_eq_cons (n : Nat) :
    exists c rest, Nat.toDigits 10 n = c :: rest ∧ c.isDigit = true := by
  cases hdigits : Nat.toDigits 10 n with
  | nil => exact absurd hdigits Nat.toDigits_ne_nil
  | cons c rest =>
      refine ⟨c, rest, rfl, @isDigit_of_mem_toDigits n c ?_⟩
      rw [hdigits]
      exact List.mem_cons_self

theorem isWord_toDigits (n : Nat) : IsWord (Nat.toDigits 10 n) :=
  ⟨Nat.toDigits_ne_nil, fun _ hc => isBlank_of_isDigit (isDigit_of_mem_toDigits hc)⟩

theorem toList_toString_ofNat (n : Nat) :
    (toString (Int.ofNat n)).toList = Nat.toDigits 10 n := Nat.toList_repr

theorem toList_toString_negSucc (n : Nat) :
    (toString (Int.negSucc n)).toList = '-' :: Nat.toDigits 10 (n + 1) := by
  show ("-" ++ Nat.repr (n + 1)).toList = _
  rw [String.toList_append, Nat.toList_repr]
  rfl

theorem toList_toString_eq_cons (value : Int) :
    exists c rest, (toString value).toList = c :: rest ∧ (c.isDigit = true ∨ c = '-') := by
  cases value with
  | ofNat n =>
      rcases toDigits_eq_cons n with ⟨c, rest, hcons, hc⟩
      exact ⟨c, rest, (toList_toString_ofNat n).trans hcons, Or.inl hc⟩
  | negSucc n => exact ⟨'-', _, toList_toString_negSucc n, Or.inr rfl⟩

theorem isWord_toString (value : Int) : IsWord (toString value).toList := by
  cases value with
  | ofNat n =>
      rw [toList_toString_ofNat]
      exact isWord_toDigits n
  | negSucc n =>
      rw [toList_toString_negSucc]
      refine ⟨List.cons_ne_nil _ _, fun c hc => ?_⟩
      rcases List.mem_cons.mp hc with rfl | hdigit
      · decide
      · exact (isWord_toDigits (n + 1)).right c hdigit

@[simp] theorem decimalValue_toDigits (n : Nat) : decimalValue (Nat.toDigits 10 n) = n := by
  rw [decimalValue_of_isDigit fun c => isDigit_of_mem_toDigits]
  exact Nat.ofDigitChars_ten_toDigits

theorem toDigits_nines (n : Nat) :
    Nat.toDigits 10 (decimalValue (List.replicate (n + 1) '9')) = List.replicate (n + 1) '9' := by
  induction n with
  | zero => rfl
  | succ n ih =>
      have hlonger := decimalValue_nines_succ (n + 1)
      have hshorter := decimalValue_nines_succ n
      rw [hlonger, ← Nat.toDigits_append_toDigits (by decide) (by omega) (by decide), ih,
        @List.replicate_succ' (n + 1)]
      rfl

/-- A number that can be written is read from its digits, and any other is refused. -/
theorem readDigits_toDigits (n : Nat) :
    readDigits (Nat.toDigits 10 n) =
      if n < Nat.pow 10 digitLimit then .ok n
      else .error (.tooLong (Nat.toDigits 10 n).length) := by
  have hlength := @Nat.length_toDigits_le_iff 10 n digitLimit (by decide) (by decide)
  rw [← Nat.pow_eq] at hlength
  unfold readDigits
  rw [decimalValue_toDigits]
  split
  · rename_i hlong
    have hnot := mt hlength.mpr (Nat.not_le_of_lt hlong)
    rw [if_neg hnot]
  · rename_i hshort
    have hfits := hlength.mp (Nat.le_of_not_lt hshort)
    rw [if_pos hfits]

theorem head_toDigits {n : Nat} {c : Char} {rest : List Char}
    (h : Nat.toDigits 10 n = c :: rest) (hn : n ≠ 0) : c ≠ '0' := by
  induction n using Nat.strongRecOn generalizing rest with
  | _ n ih =>
      rw [Nat.toDigits_eq_if (by decide)] at h
      split at h
      · cases h
        rw [ne_eq, Nat.digitChar_eq_zero]
        exact hn
      · cases hfront : Nat.toDigits 10 (n / 10) with
        | nil => exact absurd hfront Nat.toDigits_ne_nil
        | cons first others =>
            rw [hfront] at h
            cases h
            exact ih (n / 10) (by omega) hfront (by omega)

theorem decimalValue_zeros_append (count : Nat) (cs : List Char) :
    decimalValue (List.replicate count '0' ++ cs) = decimalValue cs := by
  induction count with
  | zero => rfl
  | succ count ih =>
      rw [List.replicate_succ, List.cons_append, ← ih]
      rfl

theorem decimalValue_append_zeros (cs : List Char) (count : Nat) :
    decimalValue (cs ++ List.replicate count '0') = decimalValue cs * Nat.pow 10 count := by
  have hzero : (digitValue? '0').getD 0 = 0 := by decide
  induction count with
  | zero =>
      rw [List.replicate_zero, List.append_nil]
      exact (Nat.mul_one _).symm
  | succ count ih =>
      unfold decimalValue ofDigitValues at ih ⊢
      rw [List.replicate_succ', ← List.append_assoc, List.map_append, List.foldl_append, ih,
        List.map_singleton, List.foldl_cons, List.foldl_nil, hzero, Nat.add_zero, Nat.mul_left_comm,
        Nat.mul_comm 10]
      rfl

/-!
### How many digits a number has
-/

theorem length_repr (n : Nat) : (Nat.repr n).length = (Nat.toDigits 10 n).length := by
  rw [← String.length_toList, Nat.toList_repr]

theorem length_repr_pos (n : Nat) : 0 < (Nat.repr n).length := by
  rw [length_repr]
  exact Nat.length_toDigits_pos

theorem lt_pow_length_repr (n : Nat) : n < Nat.pow 10 (Nat.repr n).length :=
  (Nat.length_toDigits_le_iff (by decide) (length_repr_pos n)).mp (Nat.le_of_eq (length_repr n).symm)

theorem pow_length_repr_le {n : Nat} (h : n ≠ 0) : Nat.pow 10 ((Nat.repr n).length - 1) ≤ n := by
  cases hlength : (Nat.repr n).length - 1 with
  | zero => exact Nat.pos_of_ne_zero h
  | succ k =>
      refine Nat.le_of_not_lt fun hless => ?_
      have hshort := (Nat.length_toDigits_le_iff (b := 10) (by decide) (Nat.succ_pos k)).mpr hless
      rw [← length_repr] at hshort
      omega

/-!
## Base sixteen
-/

theorem hexadecimal_one {n : Nat} (h : n < 16) : hexadecimal 1 n = [n.digitChar] := by
  unfold hexadecimal
  rw [Nat.toDigits_of_lt_base h]
  rfl

theorem hexadecimal_add_two (width n : Nat) :
    hexadecimal (width + 2) n = hexadecimal (width + 1) (n / 16) ++ [(n % 16).digitChar] := by
  unfold hexadecimal
  simp only [@Nat.toDigits_eq_if 16 n (by decide)]
  split
  · rename_i hsmall
    rw [Nat.div_eq_of_lt hsmall, Nat.mod_eq_of_lt hsmall, Nat.toDigits_zero]
    show List.replicate (width + 1) '0' ++ _ = List.replicate width '0' ++ ['0'] ++ _
    rw [List.replicate_succ']
  · show List.replicate (width + 2 - (_ ++ [_]).length) '0' ++ _ = _
    rw [List.length_append, List.length_singleton, List.append_assoc]
    show List.replicate (width + 1 + 1 - _) '0' ++ _ = _
    rw [Nat.add_sub_add_right]

theorem hexadecimal_four {n : Nat} (h : n < 0x10000) :
    hexadecimal 4 n = [(n / 4096).digitChar, (n / 256 % 16).digitChar, (n / 16 % 16).digitChar,
      (n % 16).digitChar] := by
  rw [hexadecimal_add_two, hexadecimal_add_two, hexadecimal_add_two, hexadecimal_one (by omega)]
  simp only [Nat.div_div_eq_div_mul, List.cons_append, List.nil_append]

end Text
end Mosaic
