import Mosaic.Text.Blank
import Mosaic.Text.Capital

/-!
# Letters in either case

Two characters that have one capital form are the same letter.  A keyword is spelled letter by letter
in either case, and the dotted and the dotless i stand for an i in it.  The capital form of a whole text
is one letter only if the text is.
-/

namespace Mosaic
namespace Text

def SameLetter (letter c : Char) : Prop := c.toUpper = letter.toUpper

def StandsFor (letter c : Char) : Prop :=
  SameLetter letter c ∨ letter = 'i' ∧ (c = '\u0130' ∨ c = '\u0131')

def charactersFrom (first : Char) (count : Nat) : List Char :=
  (List.range count).map fun n => Char.ofNat (first.toNat + n)

theorem forall_mem_of_all {p : Char -> Prop} [DecidablePred p] {cs : List Char}
    (h : (cs.all fun c => p c) = true) : forall c, c ∈ cs -> p c :=
  fun c hc => of_decide_eq_true (List.all_eq_true.mp h c hc)

theorem mem_charactersFrom {first c : Char} {count : Nat} (hfirst : first.toNat ≤ c.toNat)
    (hlast : c.toNat < first.toNat + count) : c ∈ charactersFrom first count := by
  refine List.mem_map.mpr ⟨c.toNat - first.toNat, List.mem_range.mpr (by omega), ?_⟩
  rw [show first.toNat + (c.toNat - first.toNat) = c.toNat by omega]
  exact Char.ofNat_toNat c

theorem mem_of_isLower {c : Char} (h : c.isLower = true) : c ∈ charactersFrom 'a' 26 := by
  unfold Char.isLower at h
  simp only [ge_iff_le, Bool.and_eq_true, decide_eq_true_eq, UInt32.le_iff_toNat_le] at h
  exact mem_charactersFrom h.left (Nat.lt_succ_of_le h.right)

theorem mem_of_isUpper {c : Char} (h : c.isUpper = true) : c ∈ charactersFrom 'A' 26 := by
  unfold Char.isUpper at h
  simp only [ge_iff_le, decide_eq_true_eq, UInt32.le_iff_toNat_le] at h
  exact mem_charactersFrom h.left (Nat.lt_succ_of_le h.right)

theorem toUpper_of_not_isLower {c : Char} (h : c.isLower = false) : c.toUpper = c := by
  unfold Char.isLower at h
  simp only [ge_iff_le, Bool.and_eq_false_iff, decide_eq_false_iff_not] at h
  unfold Char.toUpper
  rw [dif_neg fun hboth => h.elim (absurd hboth.left) (absurd hboth.right)]

theorem toLower_of_not_isUpper {c : Char} (h : c.isUpper = false) : c.toLower = c := by
  unfold Char.isUpper at h
  simp only [ge_iff_le, decide_eq_false_iff_not] at h
  unfold Char.toLower
  rw [dif_neg h]

theorem eq_of_sameLetter {letter c : Char} (h : SameLetter letter c) (hplain : letter.isAlpha = false) :
    c = letter := by
  unfold Char.isAlpha at hplain
  rw [Bool.or_eq_false_iff] at hplain
  unfold SameLetter at h
  rw [toUpper_of_not_isLower hplain.right] at h
  cases hlower : c.isLower with
  | false => rwa [toUpper_of_not_isLower hlower] at h
  | true =>
      have hcapital : forall d, d ∈ charactersFrom 'a' 26 -> d.toUpper.isUpper = true :=
        forall_mem_of_all (by decide)
      have hupper := hcapital c (mem_of_isLower hlower)
      rw [h, hplain.left] at hupper
      cases hupper

theorem toLower_eq_iff {letter c : Char} (h : letter.isLower = true) :
    c.toLower = letter ↔ SameLetter letter c := by
  have hletter := mem_of_isLower h
  unfold SameLetter
  cases hlower : c.isLower with
  | true =>
      have hsmall : forall d, d ∈ charactersFrom 'a' 26 -> ((charactersFrom 'a' 26).all fun k =>
          (d.toLower = k ↔ d.toUpper = k.toUpper)) = true := forall_mem_of_all (by decide)
      exact forall_mem_of_all (hsmall c (mem_of_isLower hlower)) letter hletter
  | false =>
      cases hupper : c.isUpper with
      | true =>
          have hcapital : forall d, d ∈ charactersFrom 'A' 26 ->
              ((charactersFrom 'a' 26).all fun k =>
                (d.toLower = k ↔ d.toUpper = k.toUpper)) = true := forall_mem_of_all (by decide)
          exact forall_mem_of_all (hcapital c (mem_of_isUpper hupper)) letter hletter
      | false =>
          rw [toLower_of_not_isUpper hupper, toUpper_of_not_isLower hlower]
          have hforms : forall k, k ∈ charactersFrom 'a' 26 -> k.toUpper.isUpper = true :=
            forall_mem_of_all (by decide)
          constructor
          · rintro rfl
            rw [h] at hlower
            cases hlower
          · rintro rfl
            rw [hforms letter hletter] at hupper
            cases hupper

theorem keywordLetter_eq_iff {letter c : Char} (h : letter.isLower = true) :
    keywordLetter c = letter ↔ StandsFor letter c := by
  unfold keywordLetter StandsFor
  split
  · rename_i hspecial
    rw [Bool.or_eq_true, decide_eq_true_eq, decide_eq_true_eq] at hspecial
    constructor
    · rintro rfl
      exact Or.inr ⟨rfl, hspecial⟩
    · rintro (hsame | ⟨rfl, _⟩)
      · have hforms : forall k, k ∈ charactersFrom 'a' 26 ->
            Not ('\u0130'.toUpper = k.toUpper) ∧ Not ('\u0131'.toUpper = k.toUpper) :=
          forall_mem_of_all (by decide)
        rcases hforms letter (mem_of_isLower h) with ⟨hdotted, hdotless⟩
        rcases hspecial with rfl | rfl
        · exact absurd hsame hdotted
        · exact absurd hsame hdotless
      · rfl
  · rename_i hplain
    rw [Bool.or_eq_true, decide_eq_true_eq, decide_eq_true_eq] at hplain
    rw [toLower_eq_iff h]
    constructor
    · exact Or.inl
    · rintro (hsame | ⟨_, hspecial⟩)
      · exact hsame
      · exact absurd hspecial hplain

/-!
## White space
-/

theorem isBlank_of_sameLetter {letter c : Char} (h : SameLetter letter c)
    (hplain : isBlank letter.toUpper = false) : isBlank c = false := by
  cases hlower : c.isLower with
  | true =>
      have hsmall : forall d, d ∈ charactersFrom 'a' 26 -> isBlank d = false :=
        forall_mem_of_all (by decide)
      exact hsmall c (mem_of_isLower hlower)
  | false =>
      unfold SameLetter at h
      rw [toUpper_of_not_isLower hlower] at h
      rwa [h]

theorem isBlank_of_standsFor {letter c : Char} (hletter : letter.isLower = true)
    (h : StandsFor letter c) : isBlank c = false := by
  rcases h with hsame | ⟨_, rfl | rfl⟩
  · have hcapital : forall d, d ∈ charactersFrom 'a' 26 -> isBlank d.toUpper = false :=
      forall_mem_of_all (by decide)
    exact isBlank_of_sameLetter hsame (hcapital letter (mem_of_isLower hletter))
  · decide
  · decide

/-!
## Capital forms

Some characters outside of ASCII have a capital form of more than one letter, and that of the dotless i
and of the long s is a letter of ASCII.  For any other letter of ASCII, a text with that capital form is
the letter itself, small or capital.
-/

/-- The capital form of a character outside of ASCII is itself or one of the foreign ones. -/
theorem capital_cases (c : Char) :
    capital c = [c.toUpper] ∨ 128 ≤ c.toNat ∧ capital c = [c] ∨
      capital c ∈ foreignCapitals.map Prod.snd := by
  unfold capital
  split
  · exact Or.inl rfl
  · rename_i hfar
    cases hlookup : foreignCapitals.lookup c with
    | none => exact Or.inr (Or.inl ⟨Nat.le_of_not_lt hfar, rfl⟩)
    | some letters =>
        rcases List.lookup_eq_some_iff.mp hlookup with ⟨before, after, hsplit, _⟩
        refine Or.inr (Or.inr (List.mem_map.mpr ⟨(c, letters), ?_, rfl⟩))
        rw [hsplit]
        exact List.mem_append_right before List.mem_cons_self

theorem capital_ne_nil (c : Char) : capital c ≠ [] := by
  rcases capital_cases c with h | ⟨_, h⟩ | h
  · rw [h]
    exact List.cons_ne_nil _ _
  · rw [h]
    exact List.cons_ne_nil _ _
  · intro hnil
    rw [hnil] at h
    revert h
    decide

section Letter

variable {letter : Char} (hnear : letter.toNat < 128)
  (hforeign : Not ([letter] ∈ foreignCapitals.map Prod.snd))

include hnear hforeign

theorem capital_eq_singleton_iff {c : Char} : capital c = [letter] ↔ c.toUpper = letter := by
  constructor
  · intro h
    rcases capital_cases c with hupper | ⟨hfar, hsame⟩ | hmem
    · rw [hupper] at h
      exact List.singleton_inj.mp h
    · rw [hsame] at h
      rw [List.singleton_inj.mp h] at hfar
      exact absurd hnear (Nat.not_lt_of_le hfar)
    · rw [h] at hmem
      exact absurd hmem hforeign
  · intro h
    have hc : c.toNat < 128 := by
      cases hlower : c.isLower with
      | true =>
          have hsmall : forall d, d ∈ charactersFrom 'a' 26 -> d.toNat < 128 :=
            forall_mem_of_all (by decide)
          exact hsmall c (mem_of_isLower hlower)
      | false =>
          rw [toUpper_of_not_isLower hlower] at h
          rwa [h]
    unfold capital
    rw [if_pos hc, h]

theorem capitals_eq_singleton_iff {cs : List Char} :
    capitals cs = [letter] ↔ exists c, cs = [c] ∧ c.toUpper = letter := by
  constructor
  · intro h
    cases cs with
    | nil => cases h
    | cons c rest =>
        rw [capitals, List.flatMap_cons] at h
        rcases List.append_eq_singleton_iff.mp h with ⟨hnil, _⟩ | ⟨hfirst, hrest⟩
        · exact absurd hnil (capital_ne_nil c)
        · cases rest with
          | nil => exact ⟨c, rfl, (capital_eq_singleton_iff hnear hforeign).mp hfirst⟩
          | cons other others =>
              rw [List.flatMap_cons] at hrest
              exact absurd (List.append_eq_nil_iff.mp hrest).left (capital_ne_nil other)
  · rintro ⟨c, rfl, h⟩
    rw [capitals, List.flatMap_singleton]
    exact (capital_eq_singleton_iff hnear hforeign).mpr h

end Letter
end Text
end Mosaic
