/-!
# Halves of surrogate pairs

The written form of a text may name half of a surrogate pair that stands alone.  Such a half is no
character, so a text holds a stand-in for it: the private character U+10D800 to U+10DFFF with the
same last four hexadecimal digits.  A private character that is one of these itself is held behind a
mark, the private character U+10E000, and so is the mark; a text from outside is thus never held
like another one, nor like one with lone halves.  Messages and written documents show what is held.
-/

namespace Mosaic
namespace Text

def isHighHalf (unit : Nat) : Bool := 0xD800 ≤ unit && unit < 0xDC00

def isLowHalf (unit : Nat) : Bool := 0xDC00 ≤ unit && unit < 0xE000

def isHalfUnit (unit : Nat) : Bool := isHighHalf unit || isLowHalf unit

def pairPoint (high low : Nat) : Nat := 0x10000 + (high - 0xD800) * 0x400 + (low - 0xDC00)

def highHalf (point : Nat) : Nat := 0xD800 + (point - 0x10000) / 0x400

def lowHalf (point : Nat) : Nat := 0xDC00 + (point - 0x10000) % 0x400

def standInOffset : Nat := 0x100000

def standIn (half : Nat) : Char := Char.ofNat (standInOffset + half)

def ofUnit (unit : Nat) : Char :=
  if isHalfUnit unit then standIn unit else Char.ofNat unit

def half? (c : Char) : Option Nat :=
  let unit := c.toNat - standInOffset
  if isHalfUnit unit then some unit else none

def isHalf (c : Char) : Bool := (half? c).isSome

def codePoint (c : Char) : Nat := (half? c).getD c.toNat

/-- The mark in front of a private character that stands for itself. -/
def mark : Char := Char.ofNat 0x10E000

def isReserved (c : Char) : Bool := isHalf c || c == mark

def hold (c : Char) : List Char := if isReserved c then [mark, c] else [c]

def held (text : String) : String := String.ofList (text.toList.flatMap hold)

def characters : List Char -> List (List Char)
  | [] => []
  | [c] => [[c]]
  | c :: d :: rest => if c = mark then [c, d] :: characters rest else [c] :: characters (d :: rest)

def heldPoint : List Char -> Nat
  | [c] => codePoint c
  | [_, c] => c.toNat
  | _ => 0

/-- The code points that are held, those of lone halves among them. -/
def points (cs : List Char) : List Nat := (characters cs).map heldPoint

/-- A text as it goes outside, where each lone half becomes the replacement character. -/
def released (text : String) : String :=
  String.ofList ((points text.toList).map fun point =>
    if isHalfUnit point then Char.ofNat 0xFFFD else Char.ofNat point)

/-!
## Lemmas on stand-ins
-/

theorem isHalfUnit_iff (unit : Nat) :
    isHalfUnit unit = true ↔ 0xD800 ≤ unit ∧ unit < 0xE000 := by
  simp only [isHalfUnit, isHighHalf, isLowHalf, Bool.or_eq_true, Bool.and_eq_true,
    decide_eq_true_eq]
  omega

theorem toNat_standIn {half : Nat} (hlow : 0xD800 ≤ half) (hhigh : half < 0xE000) :
    (standIn half).toNat = standInOffset + half := by
  unfold standIn standInOffset
  rw [Char.ofNat, dif_pos (Or.inr ⟨by omega, by omega⟩)]
  rfl

theorem half?_standIn {half : Nat} (hlow : 0xD800 ≤ half) (hhigh : half < 0xE000) :
    half? (standIn half) = some half := by
  have hunit : (standIn half).toNat - standInOffset = half := by
    rw [toNat_standIn hlow hhigh]
    omega
  simp only [half?, hunit]
  exact if_pos ((isHalfUnit_iff half).2 ⟨hlow, hhigh⟩)

/-!
## Lemmas on what is held

Holding a text loses nothing: its code points are those of the text itself, so two texts from
outside that are held alike are the same.
-/

theorem hold_of_not_isReserved {c : Char} (h : isReserved c = false) : hold c = [c] := by
  simp [hold, h]

theorem codePoint_of_not_isReserved {c : Char} (h : isReserved c = false) :
    codePoint c = c.toNat := by
  have hhalf : half? c = none := by
    simp only [isReserved, isHalf, Bool.or_eq_false_iff] at h
    simpa using h.1
  simp [codePoint, hhalf]

theorem points_mark_cons (c : Char) (rest : List Char) :
    points (mark :: c :: rest) = c.toNat :: points rest := by
  simp [points, characters, heldPoint]

theorem points_cons {c : Char} (h : c ≠ mark) (rest : List Char) :
    points (c :: rest) = codePoint c :: points rest := by
  cases rest with
  | nil => rfl
  | cons d rest => simp [points, characters, heldPoint, h]

theorem points_hold_append (c : Char) (rest : List Char) :
    points (hold c ++ rest) = c.toNat :: points rest := by
  cases h : isReserved c with
  | true =>
      have hhold : hold c = [mark, c] := by simp [hold, h]
      rw [hhold]
      exact points_mark_cons c rest
  | false =>
      have hmark : c ≠ mark := by
        intro heq
        simp [isReserved, heq] at h
      rw [hold_of_not_isReserved h, List.singleton_append, points_cons hmark,
        codePoint_of_not_isReserved h]

/-- The code points of a text that is held are those of the text. -/
theorem points_flatMap_hold (cs : List Char) : points (cs.flatMap hold) = cs.map Char.toNat := by
  induction cs with
  | nil => rfl
  | cons c rest ih => rw [List.flatMap_cons, points_hold_append, ih, List.map_cons]

end Text
end Mosaic
