import Mosaic.Folder
import Mosaic.Proofs.Document.RoundTrip

/-!
# Documents in files

A document is written in printable characters and line feeds.  Such a text has bytes, and it comes
back from a file as it was put there.
-/

namespace Mosaic
namespace Text

def IsPrinted (c : Char) : Prop := c = '\n' ∨ 0x20 ≤ c.toNat ∧ c.toNat < 0x7F

instance (c : Char) : Decidable (IsPrinted c) :=
  inferInstanceAs (Decidable (c = '\n' ∨ 0x20 ≤ c.toNat ∧ c.toNat < 0x7F))

def Printed (cs : List Char) : Prop := forall c, c ∈ cs -> IsPrinted c

instance (cs : List Char) : Decidable (Printed cs) :=
  decidable_of_iff (cs.all (fun c => decide (IsPrinted c)) = true) (by simp [Printed])

section Printed

variable {c : Char} {cs front back : List Char}

theorem printed_nil : Printed [] := nofun

theorem printed_cons : Printed (c :: cs) ↔ IsPrinted c ∧ Printed cs := List.forall_mem_cons

theorem printed_append : Printed (front ++ back) ↔ Printed front ∧ Printed back :=
  List.forall_mem_append

theorem printed_replicate (count : Nat) (h : IsPrinted c) : Printed (List.replicate count c) :=
  fun _ hother => (List.mem_replicate.mp hother).right ▸ h

theorem isPrinted_of_isDigit (h : c.isDigit = true) : IsPrinted c := by
  unfold Char.isDigit at h
  rw [Bool.and_eq_true, decide_eq_true_eq, decide_eq_true_eq] at h
  have hlow := UInt32.le_iff_toNat_le.mp h.left
  have hhigh := UInt32.le_iff_toNat_le.mp h.right
  exact Or.inr ⟨Nat.le_trans (by decide) hlow, Nat.lt_of_le_of_lt hhigh (by decide)⟩

theorem printed_toDigits (n : Nat) : Printed (Nat.toDigits 10 n) :=
  fun _ hdigit => isPrinted_of_isDigit (isDigit_of_mem_toDigits hdigit)

theorem isPrinted_digitChar {digit : Nat} (h : digit < 16) : IsPrinted digit.digitChar := by
  have hall : forall digit, digit < 16 -> IsPrinted (Nat.digitChar digit) := by decide
  exact hall digit h

/-!
## In files
-/

theorem not_isReserved_of_isPrinted (h : IsPrinted c) : isReserved c = false := by
  apply isReserved_of_low
  rcases h with rfl | ⟨_, hhigh⟩
  · decide
  · omega

theorem points_of_printed (h : Printed cs) : points cs = cs.map Char.toNat := by
  have hheld : cs.flatMap hold = cs := by
    induction cs with
    | nil => rfl
    | cons c rest ih =>
        rcases printed_cons.mp h with ⟨hfirst, hrest⟩
        rw [List.flatMap_cons, hold_of_not_isReserved (not_isReserved_of_isPrinted hfirst), ih hrest,
          List.singleton_append]
  have hpoints := points_flatMap_hold cs
  rwa [hheld] at hpoints

theorem lonelyHalf?_map_toNat (hasBytes : Nat -> Bool) (position : Nat) (cs : List Char) :
    Folder.lonelyHalf? hasBytes position (cs.map Char.toNat) = none := by
  induction cs generalizing position with
  | nil => rfl
  | cons c rest ih =>
      rw [List.map_cons, Folder.lonelyHalf?, isHalfUnit_toNat, Bool.false_and]
      exact ih (position + 1)

theorem checkContent_of_printed {text : String} (h : Printed text.toList) :
    Folder.checkContent (.text text) = .ok () := by
  unfold Folder.checkContent
  simp only [points_of_printed h, lonelyHalf?_map_toNat]

theorem plainLineEnds_of_printed (h : Printed cs) : plainLineEnds cs = cs := by
  induction cs with
  | nil => rfl
  | cons c rest ih =>
      rcases printed_cons.mp h with ⟨hfirst, hrest⟩
      have hreturn : c ≠ '\r' := by
        intro hsame
        rw [hsame] at hfirst
        exact absurd hfirst (by decide)
      rw [plainLineEnds]
      · rw [if_neg hreturn, ih hrest]
      · intro others hsame
        exact absurd hsame hreturn

end Printed
end Text

namespace Document

open Text

theorem printed_newLine (depth : Nat) : Printed (newLine depth) :=
  printed_cons.mpr ⟨by decide, printed_replicate _ (by decide)⟩

theorem printed_unitEscape {unit : Nat} (h : unit < 0x10000) : Printed (unitEscape unit) := by
  unfold unitEscape
  rw [hexadecimal_four h]
  simp only [printed_cons, printed_nil, and_true]
  exact ⟨by decide, by decide, isPrinted_digitChar (by omega), isPrinted_digitChar (by omega),
    isPrinted_digitChar (by omega), isPrinted_digitChar (by omega)⟩

theorem isPrinted_ofNat {point : Nat} (hlow : 0x20 ≤ point) (hhigh : point < 0x7F) :
    IsPrinted (Char.ofNat point) := by
  have hvalue : (Char.ofNat point).toNat = point :=
    toNat_ofNat (by rw [Bool.eq_false_iff, ne_eq, isHalfUnit_iff]; omega) (by omega)
  refine Or.inr ?_
  rw [hvalue]
  exact ⟨hlow, hhigh⟩

theorem printed_writtenPoint {point : Nat} (h : point < 0x110000) : Printed (writtenPoint point) := by
  unfold writtenPoint
  split
  · rename_i hescaped
    rw [Bool.or_eq_true, decide_eq_true_eq, decide_eq_true_eq] at hescaped
    rcases hescaped with rfl | rfl
    · decide
    · decide
  · iterate 5
      split
      · decide
    split
    · rename_i hplain
      rw [Bool.and_eq_true, decide_eq_true_eq, decide_eq_true_eq] at hplain
      exact printed_cons.mpr ⟨isPrinted_ofNat hplain.left hplain.right, printed_nil⟩
    · split
      · rename_i hshort
        exact printed_unitEscape hshort
      · rename_i hlong
        refine printed_append.mpr ⟨printed_unitEscape ?_, printed_unitEscape ?_⟩
        · unfold highHalf
          omega
        · unfold lowHalf
          omega

theorem printed_writtenText (value : String) : Printed (writtenText value) := by
  unfold writtenText
  refine printed_cons.mpr ⟨by decide, printed_append.mpr ⟨fun c hc => ?_, by decide⟩⟩
  rcases List.mem_flatMap.mp hc with ⟨point, hpoint, hwritten⟩
  exact printed_writtenPoint (points_lt hpoint) c hwritten

theorem printed_positional {digits : List Char} (h : Printed digits) (point : Int) :
    Printed (Binary64.positional digits point) := by
  have hzeros := fun count => @printed_replicate '0' count (by decide)
  unfold Binary64.positional
  simp only
  split
  · exact printed_cons.mpr ⟨by decide, printed_cons.mpr ⟨by decide,
      printed_append.mpr ⟨hzeros _, h⟩⟩⟩
  · split
    · exact printed_append.mpr ⟨printed_append.mpr ⟨h, hzeros _⟩, by decide⟩
    · refine printed_append.mpr ⟨fun c hc => h c (List.mem_of_mem_take hc), ?_⟩
      exact printed_cons.mpr ⟨by decide, fun c hc => h c (List.mem_of_mem_drop hc)⟩

theorem printed_scientific {digits : List Char} (h : Printed digits) (power : Int) :
    Printed (Binary64.scientific digits power) := by
  have hlater : Printed (digits.drop 1) := fun c hc => h c (List.mem_of_mem_drop hc)
  have hsize : Printed (Nat.repr power.natAbs).toList := by
    rw [Nat.toList_repr]
    exact printed_toDigits _
  unfold Binary64.scientific
  simp only
  rw [printed_append, printed_append, printed_cons, printed_cons]
  refine ⟨⟨fun c hc => h c (List.mem_of_mem_take hc), ?_⟩, by decide, ?_, ?_⟩
  · split
    · exact printed_nil
    · exact printed_cons.mpr ⟨by decide, hlater⟩
  · split
    · decide
    · decide
  · split
    · exact printed_cons.mpr ⟨by decide, hsize⟩
    · exact hsize

theorem printed_magnitudeText (mantissa : Nat) (exponent : Int) :
    Printed (Binary64.magnitudeText mantissa exponent) := by
  have hdigits : forall n, Printed ((Nat.repr n).toList.reverse.dropWhile (· == '0')).reverse := by
    intro n c hc
    have hrow := (List.dropWhile_sublist _).mem (List.mem_reverse.mp hc)
    rw [List.mem_reverse, Nat.toList_repr] at hrow
    exact printed_toDigits n c hrow
  unfold Binary64.magnitudeText
  simp only
  split
  · exact printed_positional (hdigits _) _
  · exact printed_scientific (hdigits _) _

theorem printed_writtenReal (value : Binary64) : Printed (writtenReal value) := by
  cases value with
  | nan => exact (by decide : Printed "NaN".toList)
  | infinite negative =>
      cases negative with
      | true => exact (by decide : Printed "-Infinity".toList)
      | false => exact (by decide : Printed "Infinity".toList)
  | finite negative mantissa exponent =>
      refine printed_append.mpr ⟨?_, ?_⟩
      · split
        · decide
        · exact printed_nil
      · split
        · decide
        · exact printed_magnitudeText mantissa exponent

theorem printed_toString (value : Int) : Printed (toString value).toList := by
  cases value with
  | ofNat n =>
      rw [toList_toString_ofNat]
      exact printed_toDigits n
  | negSucc n =>
      rw [toList_toString_negSucc]
      exact printed_cons.mpr ⟨by decide, printed_toDigits _⟩

mutual

/-- A document is written in line feeds and printable characters. -/
theorem printed_written (depth : Nat) : forall document, Printed (written depth document)
  | null => (by decide : Printed "null".toList)
  | bool true => (by decide : Printed "true".toList)
  | bool false => (by decide : Printed "false".toList)
  | whole value => printed_toString value
  | real value => printed_writtenReal value
  | text value => printed_writtenText value
  | list [] => (by decide : Printed ['[', ']'])
  | list (item :: rest) => by
      have hitem := printed_written (depth + 1) item
      have hrest := printed_writtenItems (depth + 1) rest
      rw [written]
      simp only [printed_cons, printed_append]
      exact ⟨by decide, ⟨⟨⟨printed_newLine _, hitem⟩, hrest⟩, printed_newLine _⟩, by decide, printed_nil⟩
  | record [] => (by decide : Printed ['\x7b', '\x7d'])
  | record ((name, value) :: rest) => by
      have hvalue := printed_written (depth + 1) value
      have hrest := printed_writtenFields (depth + 1) rest
      rw [written]
      simp only [printed_cons, printed_append]
      exact ⟨by decide, ⟨⟨⟨⟨printed_newLine _, printed_writtenText name⟩, by decide, by decide,
        hvalue⟩, hrest⟩, printed_newLine _⟩, by decide, printed_nil⟩

theorem printed_writtenItems (depth : Nat) : forall items, Printed (writtenItems depth items)
  | [] => printed_nil
  | item :: rest => by
      have hitem := printed_written depth item
      have hrest := printed_writtenItems depth rest
      rw [writtenItems]
      simp only [printed_cons, printed_append]
      exact ⟨by decide, ⟨printed_newLine _, hitem⟩, hrest⟩

theorem printed_writtenFields (depth : Nat) : forall fields, Printed (writtenFields depth fields)
  | [] => printed_nil
  | (name, value) :: rest => by
      have hvalue := printed_written depth value
      have hrest := printed_writtenFields depth rest
      rw [writtenFields]
      simp only [printed_cons, printed_append]
      exact ⟨by decide, ⟨⟨printed_newLine _, printed_writtenText name⟩, by decide, by decide, hvalue⟩,
        hrest⟩

end

theorem printed_write (document : Document) : Printed document.write.toList := by
  unfold write
  rw [String.toList_ofList]
  exact printed_written 0 document

end Document
end Mosaic
