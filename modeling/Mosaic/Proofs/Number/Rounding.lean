import Mathlib.Algebra.Order.Field.Power
import Mathlib.Tactic.Linarith
import Mathlib.Tactic.Positivity
import Mosaic.Number.Binary64
import Mosaic.Proofs.Text.Digits

/-!
# Rounding to a number

A quotient is rounded to the number in whose interval it lies: half a unit to either side, and only
a quarter below the least mantissa of an exponent.  A quotient on the edge of two intervals goes to
the even mantissa.
-/

namespace Mosaic
namespace Binary64

/-- What the mantissa and the exponent of a number may be: the mantissa has all of its 53 bits
unless the exponent is the least one. -/
structure Fits (mantissa : Nat) (exponent : Int) : Prop where
  below : mantissa < 2 ^ 53
  least : leastExponent ≤ exponent
  greatest : exponent ≤ greatestExponent
  full : mantissa < 2 ^ 52 -> exponent = leastExponent

def WellFormed : Binary64 -> Prop
  | finite _ mantissa exponent => Fits mantissa exponent
  | _ => True

/-!
## Powers
-/

theorem zpow_of_neg (base : ℚ) {power : Int} (h : power < 0) :
    base ^ power = (base ^ power.natAbs)⁻¹ := by
  rw [← zpow_natCast, ← zpow_neg, Int.ofNat_natAbs_of_nonpos h.le, neg_neg]

theorem zpow_of_not_neg (base : ℚ) {power : Int} (h : Not (power < 0)) :
    base ^ power = base ^ power.natAbs := by
  rw [← zpow_natCast, Int.natAbs_of_nonneg (not_lt.mp h)]

theorem two_zpow_pos (power : Int) : (0 : ℚ) < 2 ^ power := zpow_pos (by norm_num) power

theorem exponent_le {x : ℚ} {low high : Int} (hlow : 2 ^ 52 * 2 ^ low ≤ x)
    (hhigh : x < 2 ^ 53 * 2 ^ high) : low ≤ high := by
  have hpowers : (2 : ℚ) ^ (52 + low) < 2 ^ (53 + high) := by
    rw [zpow_add₀ (by norm_num), zpow_add₀ (by norm_num)]
    exact lt_of_le_of_lt hlow hhigh
  have hless := (zpow_lt_zpow_iff_right₀ (by norm_num : (1 : ℚ) < 2)).mp hpowers
  omega

/-!
## Rounding to a whole number
-/

/-- A whole number that a quotient is rounded to: at most half away, and half away only if it is
even. -/
structure Nearest (whole : Nat) (x : ℚ) : Prop where
  low : whole - 1 / 2 ≤ x
  high : x ≤ whole + 1 / 2
  even : x = whole - 1 / 2 ∨ x = whole + 1 / 2 -> whole % 2 = 0

theorem Nearest.le_of_nearest {m n : Nat} {x : ℚ} (hm : Nearest m x) (hn : Nearest n x) : m ≤ n := by
  by_contra hless
  have hnext : (n : ℚ) + 1 ≤ m := by exact_mod_cast Nat.lt_of_not_le hless
  have hlow := hm.low
  have hhigh := hn.high
  -- the two are one apart, with the quotient in the middle
  have hsame : (m : ℚ) = n + 1 := by linarith
  have hmeven := hm.even (Or.inl (by linarith))
  have hneven := hn.even (Or.inr (by linarith))
  have hnat : m = n + 1 := by exact_mod_cast hsame
  omega

theorem Nearest.unique {m n : Nat} {x : ℚ} (hm : Nearest m x) (hn : Nearest n x) : m = n :=
  Nat.le_antisymm (hm.le_of_nearest hn) (hn.le_of_nearest hm)

theorem nearest_whole {whole : Nat} {part : ℚ} (hpart : 0 ≤ part) (hhalf : part ≤ 1 / 2)
    (heven : part = 1 / 2 -> whole % 2 = 0) : Nearest whole (whole + part) := by
  refine ⟨by linarith, by linarith, ?_⟩
  rintro (hside | hside)
  · linarith
  · exact heven (by linarith)

theorem nearest_next {whole : Nat} {part : ℚ} (hpart : part < 1) (hhalf : 1 / 2 ≤ part)
    (heven : part = 1 / 2 -> (whole + 1) % 2 = 0) : Nearest (whole + 1) (whole + part) := by
  have hcast : ((whole + 1 : Nat) : ℚ) = whole + 1 := Nat.cast_succ whole
  refine ⟨by linarith, by linarith, ?_⟩
  rintro (hside | hside)
  · exact heven (by linarith)
  · linarith

theorem div_eq_whole_add {num den : Nat} (hden : 0 < den) :
    (num : ℚ) / den = (num / den : Nat) + ((num % den : Nat) : ℚ) / den := by
  have hpos : (0 : ℚ) < den := by exact_mod_cast hden
  have hsplit : (num : ℚ) = den * (num / den : Nat) + (num % den : Nat) := by
    exact_mod_cast (Nat.div_add_mod num den).symm
  rw [eq_comm, ← mul_div_cancel_left₀ ((num / den : Nat) : ℚ) hpos.ne', ← add_div, ← hsplit]

theorem nearest_roundQuotient {num den : Nat} (hden : 0 < den) :
    Nearest (roundQuotient num den) (num / den) := by
  have hpos : (0 : ℚ) < den := by exact_mod_cast hden
  have hleast : (0 : ℚ) ≤ ((num % den : Nat) : ℚ) / den := by positivity
  have hrest : ((num % den : Nat) : ℚ) / den < 1 := by
    rw [div_lt_one hpos]
    exact_mod_cast Nat.mod_lt num hden
  have hhalf : ((num % den : Nat) : ℚ) / den < 1 / 2 ↔ 2 * (num % den) < den := by
    rw [div_lt_div_iff₀ hpos (by norm_num), one_mul, mul_comm]
    exact_mod_cast Iff.rfl
  have hmore : 1 / 2 < ((num % den : Nat) : ℚ) / den ↔ den < 2 * (num % den) := by
    rw [div_lt_div_iff₀ (by norm_num) hpos, one_mul, mul_comm _ (2 : ℚ)]
    exact_mod_cast Iff.rfl
  rw [div_eq_whole_add hden]
  unfold roundQuotient
  dsimp only
  split
  · rename_i hsmall
    have hbelow := hhalf.mpr hsmall
    exact nearest_whole hleast hbelow.le fun hside => absurd hside hbelow.ne
  · rename_i hnotSmall
    have habove := not_lt.mp (mt hhalf.mp hnotSmall)
    split
    · rename_i hlarge
      have hbeyond := hmore.mpr hlarge
      exact nearest_next hrest habove fun hside => absurd hside hbeyond.ne'
    · rename_i hnotLarge
      have hbelow := not_lt.mp (mt hmore.mp hnotLarge)
      split
      · rename_i heven
        exact nearest_whole hleast hbelow fun _ => heven
      · rename_i hodd
        exact nearest_next hrest habove fun _ => by omega

/-!
## The exponent
-/

section Quotient

variable {num den : Nat}

theorem scaleDown_den_pos (num : Nat) (hden : 0 < den) (exponent : Int) :
    0 < (scaleDown num den exponent).2 := by
  unfold scaleDown
  split
  · exact hden
  · exact Nat.mul_pos hden (Nat.pow_pos (by decide))

theorem scaleDown_div (num den : Nat) (exponent : Int) :
    ((scaleDown num den exponent).1 : ℚ) / (scaleDown num den exponent).2 =
      num / den / 2 ^ exponent := by
  unfold scaleDown
  split
  · rename_i hneg
    rw [zpow_of_neg 2 hneg, div_inv_eq_mul, div_mul_eq_mul_div]
    push_cast [Nat.pow_eq]
    rfl
  · rename_i hnonneg
    rw [zpow_of_not_neg 2 hnonneg, div_div]
    push_cast [Nat.pow_eq]
    rfl

theorem nearest_scaled (num : Nat) (hden : 0 < den) (exponent : Int) :
    Nearest (roundQuotient (scaleDown num den exponent).1 (scaleDown num den exponent).2)
      (num / den / 2 ^ exponent) := by
  rw [← scaleDown_div]
  exact nearest_roundQuotient (scaleDown_den_pos num hden exponent)

theorem two_pow_log2_le {n : Nat} (h : n ≠ 0) : (2 : ℚ) ^ (Nat.log2 n : Int) ≤ n := by
  rw [zpow_natCast]
  exact_mod_cast Nat.log2_self_le h

theorem lt_two_pow_log2 (n : Nat) : (n : ℚ) < 2 ^ (Nat.log2 n + 1 : Int) := by
  rw [← Nat.cast_succ, zpow_natCast]
  exact_mod_cast Nat.lt_log2_self

theorem div_near_log2 (hnum : num ≠ 0) (hden : 0 < den) :
    2 ^ 51 * 2 ^ ((Nat.log2 num : Int) - Nat.log2 den - 52) ≤ (num : ℚ) / den ∧
      (num : ℚ) / den < 2 ^ 53 * 2 ^ ((Nat.log2 num : Int) - Nat.log2 den - 52) := by
  have hpos : (0 : ℚ) < den := by exact_mod_cast hden
  have hlow : (2 : ℚ) ^ 51 * 2 ^ ((Nat.log2 num : Int) - Nat.log2 den - 52) *
      2 ^ (Nat.log2 den + 1 : Int) = 2 ^ (Nat.log2 num : Int) := by
    rw [← zpow_natCast, ← zpow_add₀ two_ne_zero, ← zpow_add₀ two_ne_zero]
    congr 1
    omega
  have hhigh : (2 : ℚ) ^ 53 * 2 ^ ((Nat.log2 num : Int) - Nat.log2 den - 52) *
      2 ^ (Nat.log2 den : Int) = 2 ^ (Nat.log2 num + 1 : Int) := by
    rw [← zpow_natCast, ← zpow_add₀ two_ne_zero, ← zpow_add₀ two_ne_zero]
    congr 1
    omega
  rw [le_div_iff₀ hpos, div_lt_iff₀ hpos]
  constructor
  · refine le_trans (mul_le_mul_of_nonneg_left (lt_two_pow_log2 den).le (by positivity)) ?_
    rw [hlow]
    exact two_pow_log2_le hnum
  · refine lt_of_lt_of_le (lt_two_pow_log2 num) ?_
    rw [← hhigh]
    exact mul_le_mul_of_nonneg_left (two_pow_log2_le hden.ne') (by positivity)

theorem exponentOf_eq_max (hnum : num ≠ 0) (hden : 0 < den) :
    exists exact : Int, exponentOf num den = max exact leastExponent ∧
      2 ^ 52 * 2 ^ exact ≤ (num : ℚ) / den ∧ (num : ℚ) / den < 2 ^ 53 * 2 ^ exact := by
  rcases div_near_log2 hnum hden with ⟨hlow, hhigh⟩
  have hscaled := scaleDown_div num den ((Nat.log2 num : Int) - Nat.log2 den - 52)
  have hpos := scaleDown_den_pos num hden ((Nat.log2 num : Int) - Nat.log2 den - 52)
  unfold exponentOf
  dsimp only
  generalize (Nat.log2 num : Int) - Nat.log2 den - 52 = guess at *
  have hposQ : (0 : ℚ) < (scaleDown num den guess).2 := by exact_mod_cast hpos
  have hfull : (scaleDown num den guess).1 < Nat.pow 2 52 * (scaleDown num den guess).2 ↔
      (num : ℚ) / den < 2 ^ 52 * 2 ^ guess := by
    rw [← div_lt_iff₀ (two_zpow_pos guess), ← hscaled, div_lt_iff₀ hposQ, Nat.pow_eq]
    exact_mod_cast Iff.rfl
  split
  · rename_i hshort
    refine ⟨guess - 1, rfl, ?_, ?_⟩
    · rw [zpow_sub_one₀ two_ne_zero]
      linarith
    · rw [zpow_sub_one₀ two_ne_zero]
      have hless := hfull.mp hshort
      linarith
  · rename_i hlong
    exact ⟨guess, rfl, not_lt.mp (mt hfull.mpr hlong), hhigh⟩

theorem exponentOf_eq {exponent : Int} (hnum : num ≠ 0) (hden : 0 < den)
    (hleast : leastExponent ≤ exponent)
    (hlow : exponent = leastExponent ∨ 2 ^ 52 ≤ (num : ℚ) / den / 2 ^ exponent)
    (hhigh : (num : ℚ) / den / 2 ^ exponent < 2 ^ 53) : exponentOf num den = exponent := by
  rcases exponentOf_eq_max hnum hden with ⟨exact, hexact, hfrom, hto⟩
  rw [div_lt_iff₀ (two_zpow_pos exponent)] at hhigh
  have hmost := exponent_le hfrom hhigh
  rw [hexact]
  rcases hlow with hsame | hfull
  · omega
  · rw [le_div_iff₀ (two_zpow_pos exponent)] at hfull
    have hexp := exponent_le hfull hto
    omega

/-!
## Reading a quotient
-/

section Rounded

variable {exponent : Int} {mantissa : Nat} (negative : Bool)

theorem ofQuotient_of_nearest (hnum : num ≠ 0) (hden : 0 < den)
    (hexponent : exponentOf num den = exponent)
    (hnear : Nearest mantissa (num / den / 2 ^ exponent)) (hbelow : mantissa < 2 ^ 53)
    (hgreatest : exponent ≤ greatestExponent) :
    ofQuotient negative num den = finite negative mantissa exponent := by
  have hround := (nearest_scaled num hden exponent).unique hnear
  have hnot : Not (mantissa = Nat.pow 2 53) := hbelow.ne
  unfold ofQuotient
  rw [if_neg hnum]
  simp only [hexponent, hround, if_neg hnot, if_neg hgreatest.not_gt]

theorem ofQuotient_of_carried (hnum : num ≠ 0) (hden : 0 < den)
    (hexponent : exponentOf num den = exponent)
    (hnear : Nearest (2 ^ 53) (num / den / 2 ^ exponent))
    (hgreatest : exponent + 1 ≤ greatestExponent) :
    ofQuotient negative num den = finite negative (2 ^ 52) (exponent + 1) := by
  have hround := (nearest_scaled num hden exponent).unique hnear
  unfold ofQuotient
  rw [if_neg hnum]
  simp only [hexponent, hround, Nat.pow_eq, if_true, if_neg hgreatest.not_gt]

end Rounded

end Quotient

/-- How far below a mantissa the numbers are that are rounded to it. -/
def gap (mantissa : Nat) (exponent : Int) : ℚ :=
  if mantissa = 2 ^ 52 ∧ leastExponent < exponent then 1 / 4 else 1 / 2

/-- The quotients that are rounded to a mantissa and an exponent; those on the edge are if the
mantissa is even. -/
structure Rounds (mantissa : Nat) (exponent : Int) (x : ℚ) : Prop where
  low : mantissa - gap mantissa exponent ≤ x / 2 ^ exponent
  high : x / 2 ^ exponent ≤ mantissa + 1 / 2
  even : x / 2 ^ exponent = mantissa - gap mantissa exponent ∨ x / 2 ^ exponent = mantissa + 1 / 2 ->
    mantissa % 2 = 0

section Interval

variable {exponent : Int} (negative : Bool) {num den : Nat}

/-- A quotient close to the least full mantissa.  Below it the exponent is one less, and the mantissa
that is rounded up there is carried. -/
theorem ofQuotient_of_edge (hleast : leastExponent < exponent)
    (hgreatest : exponent ≤ greatestExponent) (hnum : num ≠ 0) (hden : 0 < den)
    (hlow : 2 ^ 52 - 1 / 4 ≤ (num : ℚ) / den / 2 ^ exponent)
    (hhigh : (num : ℚ) / den / 2 ^ exponent ≤ 2 ^ 52 + 1 / 2) :
    ofQuotient negative num den = finite negative (2 ^ 52) exponent := by
  by_cases hbits : (2 : ℚ) ^ 52 ≤ num / den / 2 ^ exponent
  · have hexponent := exponentOf_eq hnum hden hleast.le (Or.inr hbits) (by linarith)
    refine ofQuotient_of_nearest negative hnum hden hexponent ?_ (by decide) hgreatest
    exact ⟨by push_cast; linarith, by push_cast; linarith, fun _ => by decide⟩
  · have htwice : (num : ℚ) / den / 2 ^ (exponent - 1) = 2 * (num / den / 2 ^ exponent) := by
      rw [zpow_sub_one₀ two_ne_zero, div_mul_eq_div_div, div_inv_eq_mul, mul_comm]
    have hless := not_le.mp hbits
    have hexponent : exponentOf num den = exponent - 1 := by
      refine exponentOf_eq hnum hden (by omega) (Or.inr ?_) ?_
      · rw [htwice]
        linarith
      · rw [htwice]
        linarith
    rw [ofQuotient_of_carried negative hnum hden hexponent ?_ (by omega), sub_add_cancel]
    rw [htwice]
    exact ⟨by push_cast; linarith, by push_cast; linarith, fun _ => by decide⟩

theorem ofQuotient_eq {mantissa : Nat} (hfits : Fits mantissa exponent) (hnum : num ≠ 0)
    (hden : 0 < den) (h : Rounds mantissa exponent (num / den)) :
    ofQuotient negative num den = finite negative mantissa exponent := by
  rcases h with ⟨hlow, hhigh, heven⟩
  unfold gap at hlow heven
  split at hlow
  · rename_i hedge
    rcases hedge with ⟨rfl, hlater⟩
    push_cast at hlow hhigh
    exact ofQuotient_of_edge negative hlater hfits.greatest hnum hden hlow hhigh
  · rename_i hinside
    rw [if_neg hinside] at heven
    have hmost : (mantissa : ℚ) + 1 ≤ 2 ^ 53 := by exact_mod_cast hfits.below
    refine ofQuotient_of_nearest negative hnum hden ?_ ⟨hlow, hhigh, heven⟩ hfits.below
      hfits.greatest
    refine exponentOf_eq hnum hden hfits.least ?_ (by linarith)
    by_cases hleast : exponent = leastExponent
    · exact Or.inl hleast
    · have hbits : 2 ^ 52 ≤ mantissa := not_lt.mp (mt hfits.full hleast)
      have hmore : 2 ^ 52 + 1 ≤ mantissa := by
        refine Nat.lt_of_le_of_ne hbits fun hsame => hinside ⟨hsame.symm, ?_⟩
        exact lt_of_le_of_ne hfits.least (Ne.symm hleast)
      have hmoreQ : (2 : ℚ) ^ 52 + 1 ≤ mantissa := by exact_mod_cast hmore
      exact Or.inr (by linarith)

end Interval

/-!
## Reading a decimal

Far outside the range no power of ten is worked out, and nothing that is rounded to a number but
zero lies there.
-/

theorem ten_zpow_pos (power : Int) : (0 : ℚ) < 10 ^ power := zpow_pos (by norm_num) power

theorem two_pow_lt_ten_pow : (2 : ℚ) ^ (1080 : Int) < 10 ^ (400 : Int) := by
  calc (2 : ℚ) ^ (1080 : Int) ≤ 2 ^ ((3 : Int) * 400) :=
        zpow_le_zpow_right₀ (by norm_num) (by norm_num)
    _ = 8 ^ (400 : Int) := by
        rw [zpow_mul]
        norm_num
    _ < 10 ^ (400 : Int) := zpow_lt_zpow_left₀ (by norm_num) (by norm_num) (by norm_num)

theorem ten_pow_lt_two_pow : (10 : ℚ) ^ (-400 : Int) < 2 ^ (-1080 : Int) := by
  rw [zpow_neg, zpow_neg]
  exact inv_strictAnti₀ (two_zpow_pos 1080) two_pow_lt_ten_pow

section Decimal

variable {mantissa : Nat} {exponent : Int} {x : ℚ}

theorem half_le_of_rounds (hpos : 0 < mantissa) (h : Rounds mantissa exponent x) :
    1 / 2 ≤ x / 2 ^ exponent := by
  have hleast : (1 : ℚ) ≤ mantissa := by exact_mod_cast hpos
  have hgap : gap mantissa exponent ≤ 1 / 2 := by
    unfold gap
    split
    · norm_num
    · exact le_rfl
  exact le_trans (by linarith) h.low

theorem bounds_of_rounds (hfits : Fits mantissa exponent) (hpos : 0 < mantissa)
    (h : Rounds mantissa exponent x) : 2 ^ (-1080 : Int) < x ∧ x < 2 ^ (1080 : Int) := by
  have hleast := hfits.least
  have hgreatest := hfits.greatest
  have hlow := half_le_of_rounds hpos h
  have hhigh := h.high
  have hmost : (mantissa : ℚ) + 1 ≤ 2 ^ 53 := by exact_mod_cast hfits.below
  rw [le_div_iff₀ (two_zpow_pos exponent)] at hlow
  rw [div_le_iff₀ (two_zpow_pos exponent)] at hhigh
  constructor
  · refine lt_of_lt_of_le ?_ hlow
    have hsmaller : (2 : ℚ) ^ (-1080 : Int) < 2 ^ (exponent - 1) := by
      refine zpow_lt_zpow_right₀ (by norm_num) ?_
      unfold leastExponent at hleast
      omega
    rwa [zpow_sub_one₀ two_ne_zero, mul_comm, inv_eq_one_div] at hsmaller
  · have hgreater : (2 : ℚ) ^ (53 + exponent) < 2 ^ (1080 : Int) := by
      refine zpow_lt_zpow_right₀ (by norm_num) ?_
      unfold greatestExponent at hgreatest
      omega
    rw [zpow_add₀ two_ne_zero, zpow_ofNat] at hgreater
    refine lt_of_le_of_lt hhigh (lt_of_le_of_lt ?_ hgreater)
    exact mul_le_mul_of_nonneg_right (by linarith) (two_zpow_pos exponent).le

theorem ten_zpow_le_of_digits {digits : Nat} (h : digits ≠ 0) :
    (10 : ℚ) ^ ((Nat.repr digits).length - 1 : Int) ≤ digits := by
  have hlength : ((Nat.repr digits).length : Int) - 1 = ((Nat.repr digits).length - 1 : Nat) := by
    have hpos := Text.length_repr_pos digits
    omega
  rw [hlength, zpow_natCast]
  exact_mod_cast Text.pow_length_repr_le h

theorem lt_ten_zpow_of_digits (digits : Nat) : (digits : ℚ) < 10 ^ ((Nat.repr digits).length : Int) := by
  rw [zpow_natCast]
  exact_mod_cast Text.lt_pow_length_repr digits

/-- A decimal is read as the number in whose interval it lies. -/
theorem ofDecimal_eq (hfits : Fits mantissa exponent) (hpos : 0 < mantissa) (negative : Bool)
    {digits : Nat} {power : Int} (h : Rounds mantissa exponent (digits * 10 ^ power)) :
    ofDecimal negative digits power = finite negative mantissa exponent := by
  rcases bounds_of_rounds hfits hpos h with ⟨hlow, hhigh⟩
  have hten := ten_zpow_pos power
  have hdigits : digits ≠ 0 := by
    rintro rfl
    rw [Nat.cast_zero, zero_mul] at hlow
    exact absurd hlow (two_zpow_pos _).not_gt
  have hsmall : -400 < ((Nat.repr digits).length : Int) + power := by
    have hless := lt_trans hlow (mul_lt_mul_of_pos_right (lt_ten_zpow_of_digits digits) hten)
    rw [← zpow_add₀ (by norm_num)] at hless
    exact (zpow_lt_zpow_iff_right₀ (by norm_num : (1 : ℚ) < 10)).mp
      (lt_trans ten_pow_lt_two_pow hless)
  have hlarge : ((Nat.repr digits).length : Int) + power ≤ 400 := by
    have hless := lt_of_le_of_lt
      (mul_le_mul_of_nonneg_right (ten_zpow_le_of_digits hdigits) hten.le) hhigh
    rw [← zpow_add₀ (by norm_num)] at hless
    have hpowers := (zpow_lt_zpow_iff_right₀ (by norm_num : (1 : ℚ) < 10)).mp
      (lt_trans hless two_pow_lt_ten_pow)
    omega
  have hinside : (decide (digits = 0) ||
      decide (((Nat.repr digits).length : Int) + power < -400)) = false := by
    rw [Bool.or_eq_false_iff, decide_eq_false_iff_not, decide_eq_false_iff_not]
    exact ⟨hdigits, by omega⟩
  unfold ofDecimal
  dsimp only
  rw [hinside, if_neg Bool.false_ne_true, if_neg hlarge.not_gt]
  split
  · rename_i hneg
    refine ofQuotient_eq negative hfits hdigits (Nat.pow_pos (by decide)) ?_
    rwa [zpow_of_neg 10 hneg, ← div_eq_mul_inv, ← Nat.cast_ofNat, ← Nat.cast_pow] at h
  · rename_i hnonneg
    have hnum : digits * Nat.pow 10 power.natAbs ≠ 0 :=
      Nat.mul_ne_zero hdigits (Nat.pow_pos (by decide)).ne'
    refine ofQuotient_eq negative hfits hnum Nat.one_pos ?_
    rw [zpow_of_not_neg 10 hnonneg] at h
    rw [Nat.pow_eq]
    push_cast
    rwa [div_one]

end Decimal

end Binary64
end Mosaic
