import Mathlib.Data.List.Perm.Subperm
import Mosaic.Random.Source

/-!
# What holds of all that can be drawn

A property always holds of a draw if it holds whatever the source of chance answers.  Such
properties are followed through draws one after the other.
-/

namespace Mosaic
namespace Draw

variable {σ α β : Type}

def Always (draw : Draw σ α) (P : α -> Prop) : Prop := forall source, P (draw source).1

theorem always_pure {P : α -> Prop} {value : α} (h : P value) :
    Always (pure value : Draw σ α) P := by
  intro source
  exact h

theorem always_bind {P : α -> Prop} {Q : β -> Prop} {draw : Draw σ α} {next : α -> Draw σ β}
    (h : Always draw P) (hnext : forall value, P value -> Always (next value) Q) :
    Always (draw >>= next) Q := by
  intro source
  exact hnext (draw source).1 (h source) (draw source).2

theorem Always.imp {P Q : α -> Prop} {draw : Draw σ α} (h : Always draw P)
    (himp : forall value, P value -> Q value) : Always draw Q := by
  intro source
  exact himp _ (h source)

theorem Always.and {P Q : α -> Prop} {draw : Draw σ α} (hP : Always draw P) (hQ : Always draw Q) :
    Always draw fun value => P value ∧ Q value := by
  intro source
  exact ⟨hP source, hQ source⟩

theorem always_any (draw : Draw σ α) : Always draw fun _ => True := by
  intro source
  trivial

theorem always_times {P : α -> Prop} {action : Draw σ α} (h : Always action P) (count : Nat) :
    Always (times count action) fun values =>
      values.length = count ∧ forall value, value ∈ values -> P value := by
  induction count with
  | zero => exact always_pure ⟨rfl, by simp⟩
  | succ count ih =>
      rw [times]
      refine always_bind h fun first hfirst => always_bind ih fun others hothers => always_pure ?_
      constructor
      · rw [List.length_cons, hothers.left]
      · intro value hvalue
        rcases List.mem_cons.mp hvalue with rfl | hlater
        · exact hfirst
        · exact hothers.right value hlater

variable [RandomSource σ]

theorem always_below {n : Nat} (h : 0 < n) : Always (below n : Draw σ Nat) (· < n) := by
  intro source
  exact RandomSource.below_lt n source h

theorem always_between {low high : Nat} (h : low ≤ high) :
    Always (between low high : Draw σ Nat) fun n => low ≤ n ∧ n ≤ high := by
  unfold between
  refine always_bind (always_below (by omega)) fun value hvalue => always_pure ?_
  omega

theorem always_choose (first : α) (others : List α) :
    Always (choose first others : Draw σ α) (· ∈ first :: others) := by
  unfold choose
  refine always_bind (always_below (by omega)) fun index hindex => always_pure ?_
  have hbound : index < (first :: others).length := by simpa using hindex
  rw [List.getElem?_eq_getElem hbound]
  exact List.getElem_mem hbound

/-!
## Shuffling
-/

theorem swapIfInBounds_perm (xs : Array α) (i j : Nat) :
    (xs.swapIfInBounds i j).toList.Perm xs.toList := by
  rw [Array.swapIfInBounds_def]
  split
  · split
    · exact Array.perm_iff_toList_perm.mp (Array.swap_perm _ _)
    · exact List.Perm.refl _
  · exact List.Perm.refl _

theorem always_shuffledUpTo (i : Nat) (xs : Array α) :
    Always (shuffledUpTo i xs : Draw σ (Array α)) fun ys => ys.toList.Perm xs.toList := by
  induction i generalizing xs with
  | zero => exact always_pure (List.Perm.refl _)
  | succ i ih =>
      rw [shuffledUpTo]
      refine always_bind (always_below (by omega)) fun j _ => ?_
      refine (ih (xs.swapIfInBounds (i + 1) j)).imp fun ys hys => ?_
      exact hys.trans (swapIfInBounds_perm xs (i + 1) j)

theorem always_shuffled (xs : List α) :
    Always (shuffled xs : Draw σ (List α)) fun ys => ys.Perm xs := by
  unfold shuffled
  exact always_bind (always_shuffledUpTo _ xs.toArray) fun ys hys => always_pure hys

/-!
## Samples
-/

/-- The value that is taken, and what is left once the last value is put in its place, are the values
that there were. -/
theorem perm_taken {pool : List Nat} {left j : Nat} (hj : j ≤ left) (hleft : left < pool.length) :
    ((pool[j]?).getD 0 :: (pool.set j ((pool[left]?).getD 0)).take left).Perm
      (pool.take (left + 1)) := by
  rw [List.getElem?_eq_getElem hleft, List.getElem?_eq_getElem (Nat.lt_of_le_of_lt hj hleft),
    Option.getD_some, Option.getD_some, List.take_succ_eq_append_getElem hleft]
  refine List.Perm.trans ?_ (List.perm_append_singleton _ _).symm
  rcases Nat.lt_or_eq_of_le hj with hbefore | rfl
  · have hinside : j < (pool.take left).length := by rw [List.length_take]; omega
    have herased := List.getElem_cons_eraseIdx_perm hinside
    rw [List.getElem_take] at herased
    rw [List.take_set]
    calc
      List.Perm (pool[j] :: (pool.take left).set j pool[left])
          (pool[j] :: pool[left] :: (pool.take left).eraseIdx j) :=
        (List.set_perm_cons_eraseIdx hinside _).cons _
      List.Perm _ (pool[left] :: pool[j] :: (pool.take left).eraseIdx j) := List.Perm.swap _ _ _
      List.Perm _ (pool[left] :: pool.take left) := herased.cons _
  · rw [List.take_set_of_le (Nat.le_refl j)]

theorem always_sampleFrom {count left : Nat} {pool : List Nat} (hcount : count ≤ left)
    (hleft : left ≤ pool.length) :
    Always (sampleFrom count left pool : Draw σ (List Nat)) fun values =>
      values.length = count ∧ values.Subperm (pool.take left) := by
  induction count generalizing left pool with
  | zero => exact always_pure ⟨rfl, List.nil_subperm⟩
  | succ count ih =>
      cases left with
      | zero => cases hcount
      | succ left =>
          unfold sampleFrom
          refine always_bind (always_below (Nat.succ_pos left)) fun j hj => ?_
          refine always_bind (ih (Nat.le_of_succ_le_succ hcount) ?_) fun others hothers => ?_
          · rw [List.length_set]
            exact Nat.le_of_succ_le hleft
          · refine always_pure ⟨congrArg Nat.succ hothers.left, ?_⟩
            have hsub := (List.subperm_cons ((pool[j]?).getD 0)).mpr hothers.right
            exact hsub.trans (perm_taken (Nat.le_of_lt_succ hj) hleft).subperm

/-- A sample has different values below its bound. -/
theorem always_sample {count bound : Nat} (h : count ≤ bound) :
    Always (sample count bound : Draw σ (List Nat)) fun values =>
      values.length = count ∧ values.Nodup ∧ forall value, value ∈ values -> value < bound := by
  refine (always_sampleFrom h (Nat.le_of_eq List.length_range.symm)).imp fun values hvalues => ?_
  rcases hvalues with ⟨hlength, hsub⟩
  rw [List.take_of_length_le (Nat.le_of_eq List.length_range)] at hsub
  refine ⟨hlength, ?_, fun value hvalue => List.mem_range.mp (hsub.subset hvalue)⟩
  rcases hsub with ⟨row, hperm, hrow⟩
  exact hperm.nodup_iff.mp (hrow.nodup List.nodup_range)

end Draw
end Mosaic
