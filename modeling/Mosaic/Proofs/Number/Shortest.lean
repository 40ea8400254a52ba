import Mosaic.Number.Shortest
import Mosaic.Proofs.Number.Rounding

/-!
# The shortest decimal lies in the interval

The search takes a decimal only if it lies in the interval of the number, and sixteen places behind
the leading one the decimals are less than half a unit of the mantissa away from each other, so the
search ends there at the latest.
-/

namespace Mosaic
namespace Binary64

/-!
## Intervals
-/

/-- Whether a quotient lies in an interval, with or without its ends. -/
def Interval.Contains (interval : Interval) (x : ℚ) : Prop :=
  if interval.closed then interval.low ≤ x * interval.den ∧ x * interval.den ≤ interval.high
  else interval.low < x * interval.den ∧ x * interval.den < interval.high

theorem holds_iff {interval : Interval} {units : Nat} :
    interval.holds units = true ↔ interval.Contains units := by
  unfold Interval.holds Interval.Contains
  dsimp only
  split
  · rw [Bool.and_eq_true, decide_eq_true_eq, decide_eq_true_eq]
    exact_mod_cast Iff.rfl
  · rw [Bool.and_eq_true, decide_eq_true_eq, decide_eq_true_eq]
    exact_mod_cast Iff.rfl

def Interval.number (interval : Interval) : ℚ := interval.value / interval.den

section Units

variable {interval : Interval} {power : Int} {x : ℚ}

theorem contains_inUnits_iff :
    (interval.inUnits power).Contains x ↔ interval.Contains (x * 10 ^ power) := by
  unfold Interval.inUnits Interval.Contains
  dsimp only
  split
  · rename_i hneg
    have hfactor : (0 : ℚ) < 10 ^ power.natAbs := by positivity
    rw [zpow_of_neg 10 hneg, ← div_eq_mul_inv, div_mul_eq_mul_div, le_div_iff₀ hfactor,
      div_le_iff₀ hfactor, lt_div_iff₀ hfactor, div_lt_iff₀ hfactor]
    push_cast [Nat.pow_eq]
    rfl
  · rename_i hnonneg
    rw [zpow_of_not_neg 10 hnonneg, mul_assoc, mul_comm _ (interval.den : ℚ)]
    push_cast [Nat.pow_eq]
    rfl

theorem number_inUnits : (interval.inUnits power).number = interval.number / 10 ^ power := by
  unfold Interval.inUnits Interval.number
  dsimp only
  split
  · rename_i hneg
    rw [zpow_of_neg 10 hneg, div_inv_eq_mul, div_mul_eq_mul_div]
    push_cast [Nat.pow_eq]
    rfl
  · rename_i hnonneg
    rw [zpow_of_not_neg 10 hnonneg, div_div]
    push_cast [Nat.pow_eq]
    rfl

theorem den_inUnits_pos (h : 0 < interval.den) : 0 < (interval.inUnits power).den := by
  unfold Interval.inUnits
  dsimp only
  split
  · exact h
  · exact Nat.mul_pos h (Nat.pow_pos (by decide))

end Units

/-!
## The neighbours
-/

section Neighbours

variable {interval : Interval}

theorem holds_of_neighbour? {units : Nat} (h : interval.neighbour? = some units) :
    interval.holds units = true := by
  unfold Interval.neighbour? at h
  dsimp only at h
  cases hbelow : interval.holds (interval.value / interval.den) with
  | true =>
      cases habove : interval.holds (interval.value / interval.den + 1) with
      | true =>
          simp only [hbelow, habove] at h
          split at h
          · cases h
            exact hbelow
          · split at h
            · cases h
              exact habove
            · split at h
              · cases h
                exact hbelow
              · cases h
                exact habove
      | false =>
          simp only [hbelow, habove] at h
          cases h
          exact hbelow
  | false =>
      cases habove : interval.holds (interval.value / interval.den + 1) with
      | true =>
          simp only [hbelow, habove] at h
          cases h
          exact habove
      | false =>
          simp only [hbelow, habove] at h
          cases h

theorem not_holds_of_neighbour?_eq_none (h : interval.neighbour? = none) :
    interval.holds (interval.value / interval.den) = false ∧
      interval.holds (interval.value / interval.den + 1) = false := by
  unfold Interval.neighbour? at h
  dsimp only at h
  split at h
  · split at h
    · cases h
    · split at h
      · cases h
      · split at h
        · cases h
        · cases h
  · cases h
  · cases h
  · rename_i hbelow habove
    exact ⟨hbelow, habove⟩

theorem number_between (hden : 0 < interval.den) :
    ((interval.value / interval.den : Nat) : ℚ) ≤ interval.number ∧
      interval.number < (interval.value / interval.den + 1 : Nat) := by
  have hpos : (0 : ℚ) < interval.den := by exact_mod_cast hden
  unfold Interval.number
  rw [le_div_iff₀ hpos, div_lt_iff₀ hpos]
  constructor
  · exact_mod_cast Nat.div_mul_le_self interval.value interval.den
  · exact_mod_cast Nat.lt_mul_of_div_lt (Nat.lt_succ_self _) hden

theorem neighbour?_ne_none_of_half (hden : 0 < interval.den)
    (h : forall x, interval.number - 1 / 2 ≤ x -> x ≤ interval.number + 1 / 2 ->
      interval.Contains x) : interval.neighbour? ≠ none := by
  intro hnone
  rcases not_holds_of_neighbour?_eq_none hnone with ⟨hbelow, habove⟩
  rcases number_between hden with ⟨hfrom, hto⟩
  have hnext : ((interval.value / interval.den + 1 : Nat) : ℚ) =
      (interval.value / interval.den : Nat) + 1 := Nat.cast_succ _
  by_cases hhalf : interval.number - 1 / 2 ≤ (interval.value / interval.den : Nat)
  · rw [holds_iff.mpr (h _ hhalf (by linarith))] at hbelow
    cases hbelow
  · rw [holds_iff.mpr (h _ (by linarith) (by linarith))] at habove
    cases habove

theorem neighbour?_ne_none_of_whole (hden : 0 < interval.den)
    (h : forall x, interval.number < x -> x ≤ interval.number + 1 -> interval.Contains x) :
    interval.neighbour? ≠ none := by
  intro hnone
  rcases not_holds_of_neighbour?_eq_none hnone with ⟨_, habove⟩
  rcases number_between hden with ⟨hfrom, hto⟩
  have hnext : ((interval.value / interval.den + 1 : Nat) : ℚ) =
      (interval.value / interval.den : Nat) + 1 := Nat.cast_succ _
  rw [holds_iff.mpr (h _ hto (by linarith))] at habove
  cases habove

/-!
## The search
-/

theorem searchShortest_contains {tries more : Nat} {power : Int} (hmore : more < tries)
    (h : (interval.inUnits (power - more)).neighbour? ≠ none) :
    interval.Contains ((searchShortest interval tries power).1 *
      10 ^ (searchShortest interval tries power).2) := by
  induction tries generalizing more power with
  | zero => cases hmore
  | succ tries ih =>
      rw [searchShortest]
      cases hfound : (interval.inUnits power).neighbour? with
      | some units => exact contains_inUnits_iff.mp (holds_iff.mp (holds_of_neighbour? hfound))
      | none =>
          cases more with
          | zero =>
              rw [Nat.cast_zero, sub_zero] at h
              exact absurd hfound h
          | succ more =>
              refine @ih more (power - 1) (Nat.lt_of_succ_lt_succ hmore) ?_
              rwa [Nat.cast_succ, ← sub_sub, sub_right_comm] at h

end Neighbours

theorem ten_zpow_leadingPower_le {num den : Nat} (hnum : 0 < num) (hden : 0 < den) :
    (10 : ℚ) ^ leadingPower num den ≤ num / den := by
  have hpos : (0 : ℚ) < den := by exact_mod_cast hden
  rw [le_div_iff₀ hpos]
  unfold leadingPower
  split
  · rename_i hle
    have hquotient : num / den ≠ 0 := (Nat.div_pos hle hden).ne'
    have hdigits := ten_zpow_le_of_digits hquotient
    have hwhole : ((num / den : Nat) : ℚ) * den ≤ num := by
      exact_mod_cast Nat.div_mul_le_self num den
    exact le_trans (mul_le_mul_of_nonneg_right hdigits hpos.le) hwhole
  · have hdigits := lt_ten_zpow_of_digits ((den - 1) / num)
    have hless : den - 1 < 10 ^ (Nat.repr ((den - 1) / num)).length * num := by
      refine (Nat.div_lt_iff_lt_mul hnum).mp ?_
      exact Text.lt_pow_length_repr _
    rw [zpow_neg, inv_mul_le_iff₀ (ten_zpow_pos _), zpow_natCast]
    have hnat : den ≤ 10 ^ (Nat.repr ((den - 1) / num)).length * num := by omega
    exact_mod_cast hnat

/-!
## The interval of a number
-/

section Number

variable {mantissa : Nat} {exponent : Int} {x : ℚ}

theorem den_intervalOf_pos (mantissa : Nat) (exponent : Int) : 0 < (intervalOf mantissa exponent).den := by
  unfold intervalOf
  dsimp only
  split
  · exact Nat.pow_pos (by decide)
  · exact Nat.one_pos

theorem factor_intervalOf (mantissa : Nat) (exponent : Int) :
    ((if exponent - 2 < 0 then 1 else Nat.pow 2 (exponent - 2).natAbs : Nat) : ℚ) =
      2 ^ exponent / 4 * (intervalOf mantissa exponent).den := by
  have hquarter : (2 : ℚ) ^ exponent / 4 = 2 ^ (exponent - 2) := by
    rw [zpow_sub₀ two_ne_zero]
    norm_num
  rw [hquarter]
  unfold intervalOf
  dsimp only
  split
  · rename_i hneg
    rw [zpow_of_neg 2 hneg]
    push_cast [Nat.pow_eq]
    rw [inv_mul_cancel₀ (by positivity)]
  · rename_i hnonneg
    rw [zpow_of_not_neg 2 hnonneg]
    push_cast [Nat.pow_eq]
    rw [mul_one]

theorem value_intervalOf : ((intervalOf mantissa exponent).value : ℚ) =
    mantissa * 2 ^ exponent * (intervalOf mantissa exponent).den := by
  have hfactor := factor_intervalOf mantissa exponent
  calc ((intervalOf mantissa exponent).value : ℚ)
      = 4 * mantissa * (if exponent - 2 < 0 then 1 else Nat.pow 2 (exponent - 2).natAbs : Nat) := by
        unfold intervalOf
        exact_mod_cast rfl
    _ = mantissa * 2 ^ exponent * (intervalOf mantissa exponent).den := by
        rw [hfactor]
        linarith

theorem high_intervalOf : ((intervalOf mantissa exponent).high : ℚ) =
    (mantissa + 1 / 2) * 2 ^ exponent * (intervalOf mantissa exponent).den := by
  have hfactor := factor_intervalOf mantissa exponent
  calc ((intervalOf mantissa exponent).high : ℚ)
      = (4 * mantissa + 2) *
          (if exponent - 2 < 0 then 1 else Nat.pow 2 (exponent - 2).natAbs : Nat) := by
        unfold intervalOf
        exact_mod_cast rfl
    _ = (mantissa + 1 / 2) * 2 ^ exponent * (intervalOf mantissa exponent).den := by
        rw [hfactor]
        linarith

theorem low_intervalOf (hpos : 0 < mantissa) : ((intervalOf mantissa exponent).low : ℚ) =
    (mantissa - gap mantissa exponent) * 2 ^ exponent * (intervalOf mantissa exponent).den := by
  have hfactor := factor_intervalOf mantissa exponent
  have hlower : ((if mantissa = Nat.pow 2 52 && leastExponent < exponent then 4 * mantissa - 1
      else 4 * mantissa - 2 : Nat) : ℚ) = 4 * (mantissa - gap mantissa exponent) := by
    unfold gap
    by_cases hedge : mantissa = 2 ^ 52 ∧ leastExponent < exponent
    · rw [if_pos hedge, if_pos (by simpa using hedge), Nat.cast_sub (by omega)]
      push_cast
      linarith
    · rw [if_neg hedge, if_neg (by simpa using hedge), Nat.cast_sub (by omega)]
      push_cast
      linarith
  calc ((intervalOf mantissa exponent).low : ℚ)
      = (if mantissa = Nat.pow 2 52 && leastExponent < exponent then 4 * mantissa - 1
          else 4 * mantissa - 2 : Nat) *
          (if exponent - 2 < 0 then 1 else Nat.pow 2 (exponent - 2).natAbs : Nat) := by
        unfold intervalOf
        exact_mod_cast rfl
    _ = (mantissa - gap mantissa exponent) * 2 ^ exponent * (intervalOf mantissa exponent).den := by
        rw [hlower, hfactor]
        linarith

theorem number_intervalOf : (intervalOf mantissa exponent).number = mantissa * 2 ^ exponent := by
  have hden : ((intervalOf mantissa exponent).den : ℚ) ≠ 0 := by
    exact_mod_cast (den_intervalOf_pos mantissa exponent).ne'
  unfold Interval.number
  rw [value_intervalOf, mul_div_cancel_right₀ _ hden]

theorem contains_intervalOf_iff (hpos : 0 < mantissa) :
    (intervalOf mantissa exponent).Contains x ↔ Rounds mantissa exponent x := by
  have hden : (0 : ℚ) < (intervalOf mantissa exponent).den := by
    exact_mod_cast den_intervalOf_pos mantissa exponent
  have hunit := two_zpow_pos exponent
  have hclosed : (intervalOf mantissa exponent).closed = decide (mantissa % 2 = 0) := rfl
  unfold Interval.Contains
  rw [hclosed, low_intervalOf hpos, high_intervalOf, mul_le_mul_iff_left₀ hden,
    mul_le_mul_iff_left₀ hden, mul_lt_mul_iff_left₀ hden, mul_lt_mul_iff_left₀ hden,
    ← le_div_iff₀ hunit, ← div_le_iff₀ hunit, ← lt_div_iff₀ hunit, ← div_lt_iff₀ hunit]
  split
  · rename_i heven
    exact ⟨fun h => ⟨h.1, h.2, fun _ => of_decide_eq_true heven⟩, fun h => ⟨h.low, h.high⟩⟩
  · rename_i hodd
    have hnot : Not (mantissa % 2 = 0) := by simpa using hodd
    constructor
    · intro h
      refine ⟨h.1.le, h.2.le, ?_⟩
      rintro (hside | hside)
      · exact absurd hside h.1.ne'
      · exact absurd hside h.2.ne
    · intro h
      constructor
      · exact lt_of_le_of_ne h.low fun hside => hnot (h.even (Or.inl hside.symm))
      · exact lt_of_le_of_ne h.high fun hside => hnot (h.even (Or.inr hside))

/-!
## The shortest decimal
-/

theorem rounds_of_strict {unit : ℚ} (hunit : 0 < unit)
    (hlow : (mantissa - gap mantissa exponent) * (2 ^ exponent / unit) < x)
    (hhigh : x < (mantissa + 1 / 2) * (2 ^ exponent / unit)) :
    Rounds mantissa exponent (x * unit) := by
  have hpower := two_zpow_pos exponent
  rw [mul_div_assoc', div_lt_iff₀ hunit, ← lt_div_iff₀ hpower] at hlow
  rw [mul_div_assoc', lt_div_iff₀ hunit, ← div_lt_iff₀ hpower] at hhigh
  refine ⟨hlow.le, hhigh.le, ?_⟩
  rintro (hside | hside)
  · exact absurd hside hlow.ne'
  · exact absurd hside hhigh.ne

/-- Sixteen places behind the leading one a neighbour lies in the interval: a unit of the mantissa
is wider than a step there, and wider than two of them at the least mantissa. -/
theorem neighbour?_ne_none (hfits : Fits mantissa exponent) (hpos : 0 < mantissa) {power : Int}
    (hpower : (10 : ℚ) ^ power ≤ mantissa * 2 ^ exponent) :
    ((intervalOf mantissa exponent).inUnits (power - 16)).neighbour? ≠ none := by
  have hten := ten_zpow_pos (power - 16)
  have hunit := two_zpow_pos exponent
  have hden := @den_inUnits_pos _ (power - 16) (den_intervalOf_pos mantissa exponent)
  have hnumber : ((intervalOf mantissa exponent).inUnits (power - 16)).number =
      mantissa * (2 ^ exponent / 10 ^ (power - 16)) := by
    rw [number_inUnits, number_intervalOf, mul_div_assoc]
  have hsteps : (10 : ℚ) ^ 16 ≤ mantissa * (2 ^ exponent / 10 ^ (power - 16)) := by
    rw [mul_div_assoc', le_div_iff₀ hten, ← zpow_natCast, ← zpow_add₀ (by norm_num)]
    exact le_trans (le_of_eq (congrArg _ (by omega))) hpower
  have hcontains : forall x : ℚ,
      (mantissa - gap mantissa exponent) * (2 ^ exponent / 10 ^ (power - 16)) < x ->
        x < (mantissa + 1 / 2) * (2 ^ exponent / 10 ^ (power - 16)) ->
          ((intervalOf mantissa exponent).inUnits (power - 16)).Contains x := by
    intro x hlow hhigh
    exact contains_inUnits_iff.mpr ((contains_intervalOf_iff hpos).mpr
      (rounds_of_strict hten hlow hhigh))
  unfold gap at hcontains
  generalize (2 : ℚ) ^ exponent / 10 ^ (power - 16) = steps at *
  have hmost : (mantissa : ℚ) < 2 ^ 53 := by exact_mod_cast hfits.below
  split at hcontains
  · rename_i hedge
    have hleast : (mantissa : ℚ) = 2 ^ 52 := by exact_mod_cast hedge.left
    rw [hleast] at hsteps hnumber hcontains
    refine neighbour?_ne_none_of_whole hden fun x hfrom hto => hcontains x ?_ ?_
    · rw [hnumber] at hfrom
      linarith
    · rw [hnumber] at hto
      linarith
  · have hwide : 1 < steps := by
      by_contra hnarrow
      have hfew := mul_le_mul_of_nonneg_left (not_lt.mp hnarrow) (Nat.cast_nonneg (α := ℚ) mantissa)
      linarith
    refine neighbour?_ne_none_of_half hden fun x hfrom hto => hcontains x ?_ ?_
    · rw [hnumber] at hfrom
      linarith
    · rw [hnumber] at hto
      linarith

/-- The shortest decimal of a number is rounded to it. -/
theorem rounds_shortest (hfits : Fits mantissa exponent) (hpos : 0 < mantissa) :
    Rounds mantissa exponent
      ((shortest mantissa exponent).1 * 10 ^ (shortest mantissa exponent).2) := by
  have hvalue : 0 < (intervalOf mantissa exponent).value := by
    have hquotient : (0 : ℚ) < (intervalOf mantissa exponent).value := by
      rw [value_intervalOf]
      have hden : (0 : ℚ) < (intervalOf mantissa exponent).den := by
        exact_mod_cast den_intervalOf_pos mantissa exponent
      have hmantissa : (0 : ℚ) < mantissa := by exact_mod_cast hpos
      exact mul_pos (mul_pos hmantissa (two_zpow_pos exponent)) hden
    exact_mod_cast hquotient
  have hpower := ten_zpow_leadingPower_le hvalue (den_intervalOf_pos mantissa exponent)
  have hnumber := @number_intervalOf mantissa exponent
  unfold Interval.number at hnumber
  rw [hnumber] at hpower
  refine (contains_intervalOf_iff hpos).mp ?_
  exact @searchShortest_contains _ 17 16 _ (by decide) (neighbour?_ne_none hfits hpos hpower)

end Number

end Binary64
end Mosaic
