import Mathlib.Data.List.Chain
import Mosaic.Proofs.Text.Numeral
import Mosaic.Text.Letter

/-!
# Classes of characters that are apart

White space, digits with the digit-like signs, and letters are three classes of characters.  Their
tables, merged into one, are ascending, so no character is in two of the classes.
-/

namespace Mosaic
namespace Text

/-- Two ascending tables as one, as far as the steps last; what is left stands behind. -/
def mergedRanges : Nat -> List (Nat × Nat) -> List (Nat × Nat) -> List (Nat × Nat)
  | steps + 1, range :: rest, other :: others =>
      if range.1 ≤ other.1 then range :: mergedRanges steps rest (other :: others)
      else other :: mergedRanges steps (range :: rest) others
  | _, ranges, others => ranges ++ others

theorem mergedRanges_perm (steps : Nat) (ranges others : List (Nat × Nat)) :
    (mergedRanges steps ranges others).Perm (ranges ++ others) := by
  fun_induction mergedRanges steps ranges others with
  | case1 steps range rest other others _ ih => exact ih.cons range
  | case2 steps range rest other others _ ih =>
      exact (ih.cons other).trans List.perm_middle.symm
  | case3 => exact List.Perm.refl _

def classRanges : List (Nat × Nat) :=
  mergedRanges 1000 letterRanges (mergedRanges 200 blankRanges
    (mergedRanges 200 (zeroPoints.map fun first => (first, first + 9)) digitSignRanges))

def Precedes (range other : Nat × Nat) : Prop := range.2 < other.1 ∧ other.1 ≤ other.2

instance : DecidableRel Precedes := fun _ _ => inferInstanceAs (Decidable (_ ∧ _))

instance : Trans Precedes Precedes Precedes where
  trans h hnext := by
    unfold Precedes at *
    omega

theorem classRanges_ascending : classRanges.IsChain Precedes := by
  decide +kernel

theorem classRanges_perm : classRanges.Perm (letterRanges ++ (blankRanges ++ digitRanges)) :=
  (mergedRanges_perm _ _ _).trans (((mergedRanges_perm _ _ _).trans
    ((mergedRanges_perm _ _ _).append_left _)).append_left _)

/-- Two different ranges of the tables have no code point in common. -/
theorem ranges_apart :
    (letterRanges ++ (blankRanges ++ digitRanges)).Pairwise fun range other =>
      Precedes range other ∨ Precedes other range := by
  refine (classRanges_perm.pairwise_iff fun h => h.symm).mp ?_
  exact (List.isChain_iff_pairwise.mp classRanges_ascending).imp Or.inl

theorem not_inside_of_isLetter {c : Char} (h : isLetter c = true) {other : Nat × Nat}
    (hother : other ∈ blankRanges ++ digitRanges) :
    Not (other.1 ≤ c.toNat ∧ c.toNat ≤ other.2) := by
  rcases inRanges_mem h with ⟨range, hrange, hinside⟩
  rcases (List.pairwise_append.mp ranges_apart).right.right range hrange other hother with
    hfront | hbehind
  · have hapart := hfront.left
    omega
  · have hapart := hbehind.left
    omega

theorem isBlank_of_isLetter {c : Char} (h : isLetter c = true) : isBlank c = false := by
  cases hblank : isBlank c with
  | false => rfl
  | true =>
      rcases inRanges_mem hblank with ⟨other, hother, hinside⟩
      exact absurd hinside (not_inside_of_isLetter h (List.mem_append_left _ hother))

theorem isDigitLike_of_isLetter {c : Char} (h : isLetter c = true) : isDigitLike c = false := by
  cases hdigit : isDigitLike c with
  | false => rfl
  | true =>
      rcases isDigitLike_mem hdigit with ⟨other, hother, hinside⟩
      exact absurd hinside (not_inside_of_isLetter h (List.mem_append_right _ hother))

end Text
end Mosaic
