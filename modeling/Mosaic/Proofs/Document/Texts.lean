import Mosaic.Document.Reader
import Mosaic.Document.Writer
import Mosaic.Proofs.Text.Digits

/-!
# Texts in documents

A text is written unit by unit, and its units are what is read again.  They are put together to the
same text, unless it holds the two halves of a surrogate pair one after the other as if they were
alone: these are read as the one character that they make up.
-/

namespace Mosaic
namespace Text

/-- The units that a code point is written in: two halves from U+10000 on. -/
def pointUnits (point : Nat) : List Nat :=
  if point < 0x10000 then [point] else [highHalf point, lowHalf point]

def units (cs : List Char) : List Nat := (points cs).flatMap pointUnits

def holdPoint (point : Nat) : List Char :=
  if isHalfUnit point then [standIn point] else hold (Char.ofNat point)

def ofPoints (points : List Nat) : String := String.ofList (points.flatMap holdPoint)

def Joined : List Nat -> Prop
  | [] => True
  | [_] => True
  | high :: low :: rest => (isHighHalf high && isLowHalf low) = false ∧ Joined (low :: rest)

/-- Code points with the halves of a pair that stand in a row put together. -/
def joinPairs : List Nat -> List Nat
  | [] => []
  | [point] => [point]
  | high :: low :: rest =>
      if isHighHalf high && isLowHalf low then pairPoint high low :: joinPairs rest
      else high :: joinPairs (low :: rest)

/-- A text with the halves of a pair in a row made one character. -/
def rejoined (text : String) : String := ofPoints (joinPairs (points text.toList))

/-- A text in which no two halves in a row make up a pair. -/
def IsJoined (text : String) : Prop :=
  exists values, (forall value, value ∈ values -> value < 0x110000) ∧ Joined values ∧
    text = ofPoints values

/-!
## Code points
-/

theorem toNat_lt (c : Char) : c.toNat < 0x110000 := by
  rcases c.valid with hlow | ⟨_, hhigh⟩
  · exact Nat.lt_trans hlow (by decide)
  · exact hhigh

theorem isHalfUnit_toNat (c : Char) : isHalfUnit c.toNat = false := by
  rw [Bool.eq_false_iff, ne_eq, isHalfUnit_iff]
  have hvalid : c.toNat < 0xD800 ∨ 0xDFFF < c.toNat ∧ c.toNat < 0x110000 := c.valid
  omega

theorem toNat_ofNat {point : Nat} (hhalf : isHalfUnit point = false) (hlt : point < 0x110000) :
    (Char.ofNat point).toNat = point := by
  rw [Bool.eq_false_iff, ne_eq, isHalfUnit_iff] at hhalf
  have hvalid : point.isValidChar := by
    unfold Nat.isValidChar
    omega
  rw [Char.ofNat, dif_pos hvalid]
  rfl

theorem codePoint_le (c : Char) : codePoint c ≤ c.toNat := by
  unfold codePoint half?
  simp only
  split
  · rw [Option.getD_some]
    exact Nat.sub_le _ _
  · exact Nat.le_refl _

theorem points_lt {cs : List Char} {point : Nat} (h : point ∈ points cs) : point < 0x110000 := by
  rcases List.mem_map.mp h with ⟨letters, _, rfl⟩
  unfold heldPoint
  split
  · exact Nat.lt_of_le_of_lt (codePoint_le _) (toNat_lt _)
  · exact toNat_lt _
  · decide

theorem standIn_ne_mark {half : Nat} (h : isHalfUnit half = true) : standIn half ≠ mark := by
  rcases (isHalfUnit_iff half).mp h with ⟨hlow, hhigh⟩
  intro hsame
  have htoNat := congrArg Char.toNat hsame
  rw [toNat_standIn hlow hhigh, show mark.toNat = 0x10E000 from rfl] at htoNat
  unfold standInOffset at htoNat
  omega

theorem points_holdPoint_append {point : Nat} (h : point < 0x110000) (rest : List Char) :
    points (holdPoint point ++ rest) = point :: points rest := by
  unfold holdPoint
  split
  · rename_i hhalf
    rcases (isHalfUnit_iff point).mp hhalf with ⟨hlow, hhigh⟩
    rw [List.singleton_append, points_cons (standIn_ne_mark hhalf), codePoint,
      half?_standIn hlow hhigh]
    rfl
  · rename_i hwhole
    rw [points_hold_append, toNat_ofNat (by simpa using hwhole) h]

theorem points_flatMap_holdPoint {values : List Nat}
    (h : forall value, value ∈ values -> value < 0x110000) :
    points (values.flatMap holdPoint) = values := by
  induction values with
  | nil => rfl
  | cons value rest ih =>
      rw [List.flatMap_cons, points_holdPoint_append (h value (by simp)),
        ih fun other hother => h other (List.mem_cons_of_mem value hother)]

theorem holdPoint_toNat (c : Char) : holdPoint c.toNat = hold c := by
  unfold holdPoint
  rw [isHalfUnit_toNat, Char.ofNat_toNat, if_neg Bool.false_ne_true]

theorem held_eq_ofPoints (text : String) : held text = ofPoints (text.toList.map Char.toNat) := by
  unfold held ofPoints
  rw [List.flatMap_map]
  simp only [holdPoint_toNat]

theorem isHighHalf_toNat (c : Char) : isHighHalf c.toNat = false := by
  have hwhole := isHalfUnit_toNat c
  unfold isHalfUnit at hwhole
  exact (Bool.or_eq_false_iff.mp hwhole).left

theorem joined_map_toNat (cs : List Char) : Joined (cs.map Char.toNat) := by
  induction cs with
  | nil => trivial
  | cons c rest ih =>
      cases rest with
      | nil => trivial
      | cons d others =>
          refine ⟨?_, ih⟩
          rw [isHighHalf_toNat]
          rfl

theorem joinPairs_of_joined {values : List Nat} (h : Joined values) : joinPairs values = values := by
  fun_induction joinPairs values with
  | case1 => rfl
  | case2 point => rfl
  | case3 high low rest hpair ih =>
      rw [h.left] at hpair
      cases hpair
  | case4 high low rest hpair ih => rw [ih h.right]

/-!
## Units
-/

theorem pointUnits_lt {point unit : Nat} (h : point < 0x110000) (hunit : unit ∈ pointUnits point) :
    unit < 0x10000 := by
  unfold pointUnits highHalf lowHalf at hunit
  split at hunit
  · rename_i hshort
    rw [List.mem_singleton.mp hunit]
    exact hshort
  · simp only [List.mem_cons, List.not_mem_nil, or_false] at hunit
    omega

theorem units_lt {cs : List Char} {unit : Nat} (h : unit ∈ units cs) : unit < 0x10000 := by
  rcases List.mem_flatMap.mp h with ⟨point, hpoint, hunit⟩
  exact pointUnits_lt (points_lt hpoint) hunit

theorem pointUnits_of_half {half : Nat} (h : isHighHalf half = true ∨ isLowHalf half = true) :
    pointUnits half = [half] := by
  unfold isHighHalf isLowHalf at h
  simp only [Bool.and_eq_true, decide_eq_true_eq] at h
  rw [pointUnits, if_pos (by omega)]

theorem halves_of_long {point : Nat} (hlong : 0x10000 ≤ point) (hlt : point < 0x110000) :
    isHighHalf (highHalf point) = true ∧ isLowHalf (lowHalf point) = true ∧
      pairPoint (highHalf point) (lowHalf point) = point := by
  unfold isHighHalf isLowHalf pairPoint highHalf lowHalf
  simp only [Bool.and_eq_true, decide_eq_true_eq]
  omega

theorem pointUnits_pairPoint {high low : Nat} (hhigh : isHighHalf high = true)
    (hlow : isLowHalf low = true) :
    pointUnits (pairPoint high low) = [high, low] ∧ isHalfUnit (pairPoint high low) = false ∧
      pairPoint high low < 0x110000 := by
  unfold isHighHalf at hhigh
  unfold isLowHalf at hlow
  simp only [Bool.and_eq_true, decide_eq_true_eq] at hhigh hlow
  rw [Bool.eq_false_iff, ne_eq, isHalfUnit_iff]
  unfold pointUnits pairPoint highHalf lowHalf
  have hfirst : 0xD800 + (0x10000 + (high - 0xD800) * 0x400 + (low - 0xDC00) - 0x10000) / 0x400 =
      high := by omega
  have hsecond : 0xDC00 + (0x10000 + (high - 0xD800) * 0x400 + (low - 0xDC00) - 0x10000) % 0x400 =
      low := by omega
  rw [if_neg (by omega), hfirst, hsecond]
  exact ⟨rfl, by omega, by omega⟩

theorem isReserved_of_low {c : Char} (h : c.toNat < 0x10D800) : isReserved c = false := by
  have hmark : c ≠ mark := by
    intro hsame
    rw [hsame, show mark.toNat = 0x10E000 from rfl] at h
    omega
  have hwhole : isHalfUnit (c.toNat - standInOffset) = false := by
    rw [Bool.eq_false_iff, ne_eq, isHalfUnit_iff]
    unfold standInOffset
    omega
  unfold isReserved isHalf half?
  simp only [hwhole, Bool.false_eq_true, if_false]
  rw [Option.isSome_none, Bool.false_or, beq_eq_false_iff_ne]
  exact hmark

theorem holdPoint_of_short {unit : Nat} (h : unit < 0x10000) : holdPoint unit = [ofUnit unit] := by
  unfold holdPoint ofUnit
  split
  · rfl
  · rename_i hwhole
    refine hold_of_not_isReserved (isReserved_of_low ?_)
    rw [toNat_ofNat (by simpa using hwhole) (by omega)]
    omega

end Text

namespace Document

open Text

/-!
## Putting units together
-/

/-- Whether the next unit closes a pair that a unit opens. -/
def Closes (unit : Nat) (rest : List Nat) : Prop :=
  exists low others, rest = low :: others ∧ isHighHalf unit = true ∧ isLowHalf low = true

theorem unitChars_cons {unit : Nat} {rest : List Nat} (h : Not (Closes unit rest)) :
    unitChars (unit :: rest) = ofUnit unit :: unitChars rest := by
  cases rest with
  | nil => rfl
  | cons low others =>
      rw [unitChars, if_neg]
      intro hpair
      rw [Bool.and_eq_true] at hpair
      exact h ⟨low, others, rfl, hpair.left, hpair.right⟩

theorem unitChars_pair {high low : Nat} (hhigh : isHighHalf high = true)
    (hlow : isLowHalf low = true) (rest : List Nat) :
    unitChars (high :: low :: rest) = holdPoint (pairPoint high low) ++ unitChars rest := by
  rw [unitChars, if_pos (by rw [hhigh, hlow]; rfl), holdPoint,
    (pointUnits_pairPoint hhigh hlow).right.left, if_neg Bool.false_ne_true]

theorem unitChars_pointUnits_append {point : Nat} (hlt : point < 0x110000) {rest : List Nat}
    (h : Not (Closes point rest)) :
    unitChars (pointUnits point ++ rest) = holdPoint point ++ unitChars rest := by
  unfold pointUnits
  split
  · rename_i hshort
    rw [holdPoint_of_short hshort]
    exact unitChars_cons h
  · rename_i hlong
    rcases halves_of_long (Nat.le_of_not_lt hlong) hlt with ⟨hhigh, hlow, hpair⟩
    show unitChars (highHalf point :: lowHalf point :: rest) = _
    rw [unitChars_pair hhigh hlow, hpair]

theorem not_closes_pointUnits {point next : Nat} (hlt : next < 0x110000)
    (h : (isHighHalf point && isLowHalf next) = false) (rest : List Nat) :
    Not (Closes point (pointUnits next ++ rest)) := by
  intro hcloses
  rcases hcloses with ⟨low, others, hfirst, hhigh, hlow⟩
  unfold pointUnits at hfirst
  split at hfirst
  · cases hfirst
    rw [hhigh, hlow] at h
    cases h
  · rename_i hlong
    cases hfirst
    have hopens := (halves_of_long (Nat.le_of_not_lt hlong) hlt).left
    unfold isHighHalf at hopens
    unfold isLowHalf at hlow
    simp only [Bool.and_eq_true, decide_eq_true_eq] at hopens hlow
    omega

theorem unitChars_flatMap_pointUnits {values : List Nat}
    (hlt : forall value, value ∈ values -> value < 0x110000) :
    unitChars (values.flatMap pointUnits) = (joinPairs values).flatMap holdPoint := by
  fun_induction joinPairs values with
  | case1 => rfl
  | case2 point =>
      refine unitChars_pointUnits_append (hlt point (by simp)) ?_
      intro hcloses
      rcases hcloses with ⟨low, others, hnone, _⟩
      cases hnone
  | case3 high low rest hpair ih =>
      rw [Bool.and_eq_true] at hpair
      have hrest := fun other hother =>
        hlt other (List.mem_cons_of_mem high (List.mem_cons_of_mem low hother))
      rw [List.flatMap_cons, List.flatMap_cons, List.flatMap_cons, pointUnits_of_half (Or.inl hpair.left),
        pointUnits_of_half (Or.inr hpair.right), List.singleton_append, List.singleton_append,
        unitChars_pair hpair.left hpair.right, ih hrest]
  | case4 high low rest hpair ih =>
      have hrest := fun other hother => hlt other (List.mem_cons_of_mem high hother)
      show unitChars (pointUnits high ++ (low :: rest).flatMap pointUnits) =
        holdPoint high ++ (joinPairs (low :: rest)).flatMap holdPoint
      rw [← ih hrest]
      refine unitChars_pointUnits_append (hlt high (by simp)) ?_
      exact not_closes_pointUnits (hrest low (by simp)) (by simpa using hpair) _

/-- Units put together have the same units again. -/
theorem units_unitChars {values : List Nat} (h : forall value, value ∈ values -> value < 0x10000) :
    units (unitChars values) = values := by
  have hone : forall (value : Nat) (cs : List Char), value < 0x10000 ->
      units (ofUnit value :: cs) = value :: units cs := by
    intro value cs hvalue
    have hpoints := @points_holdPoint_append value (by omega) cs
    rw [holdPoint_of_short hvalue, List.singleton_append] at hpoints
    unfold units pointUnits
    rw [hpoints, List.flatMap_cons, if_pos hvalue]
    rfl
  fun_induction unitChars values with
  | case1 => rfl
  | case2 value => exact hone value [] (h value (by simp))
  | case3 high low rest hpair ih =>
      rw [Bool.and_eq_true] at hpair
      rcases pointUnits_pairPoint hpair.left hpair.right with ⟨hunits, hwhole, hlt⟩
      unfold units at ih ⊢
      rw [points_hold_append, toNat_ofNat hwhole hlt, List.flatMap_cons, hunits,
        ih fun other hother => h other (List.mem_cons_of_mem high (List.mem_cons_of_mem low hother))]
      rfl
  | case4 high low rest hpair ih =>
      rw [hone high _ (h high (by simp)),
        ih fun other hother => h other (List.mem_cons_of_mem high hother)]

end Document

namespace Text

theorem rejoined_eq (text : String) :
    rejoined text = String.ofList (Document.unitChars (units text.toList)) := by
  unfold rejoined ofPoints units
  rw [Document.unitChars_flatMap_pointUnits fun point => points_lt]

theorem units_rejoined (text : String) : units (rejoined text).toList = units text.toList := by
  rw [rejoined_eq, String.toList_ofList]
  exact Document.units_unitChars fun unit => units_lt

@[simp] theorem rejoined_rejoined (text : String) : rejoined (rejoined text) = rejoined text := by
  rw [rejoined_eq, units_rejoined, ← rejoined_eq]

theorem rejoined_ofPoints {values : List Nat}
    (hlt : forall value, value ∈ values -> value < 0x110000) (h : Joined values) :
    rejoined (ofPoints values) = ofPoints values := by
  have hpoints : points (ofPoints values).toList = values := by
    unfold ofPoints
    rw [String.toList_ofList, points_flatMap_holdPoint hlt]
  rw [rejoined, hpoints, joinPairs_of_joined h]

theorem rejoined_of_isJoined {text : String} (h : IsJoined text) : rejoined text = text := by
  rcases h with ⟨values, hlt, hjoined, rfl⟩
  exact rejoined_ofPoints hlt hjoined

theorem isJoined_held (text : String) : IsJoined (held text) := by
  refine ⟨text.toList.map Char.toNat, ?_, joined_map_toNat text.toList, held_eq_ofPoints text⟩
  intro value hvalue
  rcases List.mem_map.mp hvalue with ⟨c, _, rfl⟩
  exact toNat_lt c

@[simp] theorem rejoined_held (text : String) : rejoined (held text) = held text :=
  rejoined_of_isJoined (isJoined_held text)

theorem held_of_no_reserved {text : String} (h : forall c, c ∈ text.toList -> isReserved c = false) :
    held text = text := by
  have hhold : forall cs : List Char, (forall c, c ∈ cs -> isReserved c = false) ->
      cs.flatMap hold = cs := by
    intro cs hcs
    induction cs with
    | nil => rfl
    | cons c rest ih =>
        rw [List.flatMap_cons, hold_of_not_isReserved (hcs c (by simp)), List.singleton_append,
          ih fun other hother => hcs other (List.mem_cons_of_mem c hother)]
  unfold held
  rw [hhold text.toList h, String.ofList_toList]

theorem rejoined_of_no_reserved {text : String}
    (h : forall c, c ∈ text.toList -> isReserved c = false) : rejoined text = text := by
  rw [← held_of_no_reserved h, rejoined_held]

end Text

namespace Document

open Text

/-!
## Reading what was written
-/

theorem hexValue?_digitChar {digit : Nat} (h : digit < 16) :
    hexValue? digit.digitChar = some digit := by
  have hall : forall digit, digit < 16 -> hexValue? (Nat.digitChar digit) = some digit := by decide
  exact hall digit h

theorem readUnits_unitEscape {unit : Nat} (h : unit < 0x10000) (before : List Nat)
    (rest : List Char) :
    readUnits before (unitEscape unit ++ rest) = readUnits (unit :: before) rest := by
  have hvalue : ((unit / 4096 * 16 + unit / 256 % 16) * 16 + unit / 16 % 16) * 16 + unit % 16 =
      unit := by omega
  unfold unitEscape
  rw [hexadecimal_four h]
  show readUnits before ('\\' :: 'u' :: _ :: _ :: _ :: _ :: rest) = _
  rw [readUnits]
  unfold hexUnit?
  rw [hexValue?_digitChar (by omega), hexValue?_digitChar (by omega),
    hexValue?_digitChar (by omega), hexValue?_digitChar (by omega)]
  simp only [Option.bind_eq_bind, Option.bind_some, Option.pure_def, hvalue]

theorem readUnits_plain {c : Char} (hquote : c ≠ '\x22') (hslash : c ≠ '\\')
    (hspace : 0x20 ≤ c.toNat) (before : List Nat) (rest : List Char) :
    readUnits before (c :: rest) = readUnits (c.toNat :: before) rest := by
  rw [readUnits]
  · rw [if_neg (Nat.not_lt_of_le hspace)]
  · exact hquote
  · intro _ _ _ _ _ hescape _
    exact hslash hescape
  · intro _ _ hescape _
    exact hslash hescape

theorem readUnits_writtenPoint {unit : Nat} (h : unit < 0x10000) (before : List Nat)
    (rest : List Char) :
    readUnits before (writtenPoint unit ++ rest) = readUnits (unit :: before) rest := by
  unfold writtenPoint
  split
  · rename_i hmarked
    simp only [Bool.or_eq_true, decide_eq_true_eq] at hmarked
    rcases hmarked with rfl | rfl
    · rfl
    · rfl
  · rename_i hplain
    simp only [Bool.or_eq_true, decide_eq_true_eq, not_or] at hplain
    repeat' split
    · subst unit
      rfl
    · subst unit
      rfl
    · subst unit
      rfl
    · subst unit
      rfl
    · subst unit
      rfl
    · rename_i hprinted
      simp only [Bool.and_eq_true, decide_eq_true_eq] at hprinted
      have htoNat := @toNat_ofNat unit (by
        rw [Bool.eq_false_iff, ne_eq, isHalfUnit_iff]
        omega) (by omega)
      have hread := @readUnits_plain (Char.ofNat unit) ?_ ?_ (by omega) before rest
      · rwa [htoNat] at hread
      · intro hsame
        rw [hsame] at htoNat
        exact hplain.left htoNat.symm
      · intro hsame
        rw [hsame] at htoNat
        exact hplain.right htoNat.symm
    · exact readUnits_unitEscape h before rest

theorem readUnits_written {values : List Nat}
    (h : forall value, value ∈ values -> value < 0x10000) (before : List Nat) (rest : List Char) :
    readUnits before (values.flatMap writtenPoint ++ '\x22' :: rest) =
      some (before.reverse ++ values, rest) := by
  induction values generalizing before with
  | nil =>
      rw [List.append_nil]
      rfl
  | cons value others ih =>
      rw [List.flatMap_cons, List.append_assoc, readUnits_writtenPoint (h value (by simp)),
        ih fun other hother => h other (List.mem_cons_of_mem value hother)]
      rw [List.reverse_cons, List.append_assoc, List.singleton_append]

theorem writtenPoint_of_half {unit : Nat} (h : isHalfUnit unit = true) :
    writtenPoint unit = unitEscape unit := by
  rcases (isHalfUnit_iff unit).mp h with ⟨hlow, hhigh⟩
  unfold writtenPoint
  simp only [Bool.or_eq_true, Bool.and_eq_true, decide_eq_true_eq]
  rw [if_neg (by omega), if_neg (by omega), if_neg (by omega), if_neg (by omega),
    if_neg (by omega), if_neg (by omega), if_neg (by omega), if_pos (by omega)]

theorem writtenPoint_eq_flatMap {point : Nat} (h : point < 0x110000) :
    writtenPoint point = (pointUnits point).flatMap writtenPoint := by
  unfold pointUnits
  split
  · rw [List.flatMap_singleton]
  · rename_i hlong
    rcases halves_of_long (Nat.le_of_not_lt hlong) h with ⟨hhigh, hlow, _⟩
    have hhalves : isHalfUnit (highHalf point) = true ∧ isHalfUnit (lowHalf point) = true := by
      unfold isHalfUnit
      rw [hhigh, hlow]
      simp
    rw [List.flatMap_cons, List.flatMap_singleton, writtenPoint_of_half hhalves.left,
      writtenPoint_of_half hhalves.right]
    unfold writtenPoint
    simp only [Bool.or_eq_true, Bool.and_eq_true, decide_eq_true_eq]
    rw [if_neg (by omega), if_neg (by omega), if_neg (by omega), if_neg (by omega),
      if_neg (by omega), if_neg (by omega), if_neg (by omega), if_neg (by omega)]

theorem writtenText_eq (value : String) :
    writtenText value = '\x22' :: ((units value.toList).flatMap writtenPoint ++ ['\x22']) := by
  have hunits : forall values : List Nat, (forall point, point ∈ values -> point < 0x110000) ->
      values.flatMap writtenPoint = (values.flatMap pointUnits).flatMap writtenPoint := by
    intro values hvalues
    induction values with
    | nil => rfl
    | cons point rest ih =>
        rw [List.flatMap_cons, List.flatMap_cons, List.flatMap_append,
          ← writtenPoint_eq_flatMap (hvalues point (by simp)),
          ih fun other hother => hvalues other (List.mem_cons_of_mem point hother)]
  unfold writtenText units
  rw [hunits _ fun point => points_lt]

theorem writtenText_rejoined (value : String) : writtenText (rejoined value) = writtenText value := by
  rw [writtenText_eq, writtenText_eq, units_rejoined]

/-- A text that was written is read with the halves of its pairs put together. -/
theorem readText_written (value : String) (rest : List Char) :
    readText ((units value.toList).flatMap writtenPoint ++ '\x22' :: rest) =
      .ok (rejoined value, rest) := by
  unfold readText
  rw [readUnits_written fun unit => units_lt, rejoined_eq]
  rfl

end Document
end Mosaic
