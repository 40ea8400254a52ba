import Mosaic.Proofs.Program.Printing
import Mosaic.Proofs.Program.Written

/-!
# Tables in writing

The size of a table is written as two numbers, and a strip as four words on a line: its length, the
letter of its colour, and the numbers that tell its place or its distance.  What is written is read
back, as long as its numbers are not too long to be read.
-/

namespace Mosaic

namespace Program

/-!
## Words
-/

theorem isBlank_letter (color : Color) : Text.isBlank color.letter = false := by
  cases color with
  | _ => decide

theorem isWord_words {action : Primitive} {word : List Char} (h : word ∈ action.words) :
    Text.IsWord word := by
  have hletter : forall color : Color, Text.IsWord [color.letter] := fun color =>
    ⟨List.cons_ne_nil _ _, fun c hc => by rw [List.mem_singleton.mp hc]; exact isBlank_letter color⟩
  cases action with
  | strip count color row column =>
      simp only [Primitive.words, List.mem_cons, List.not_mem_nil, or_false] at h
      rcases h with rfl | rfl | rfl | rfl
      · exact Text.isWord_toDigits count
      · exact hletter color
      · exact Text.isWord_toDigits row
      · exact Text.isWord_toDigits column
  | shifted count color dx dy =>
      simp only [Primitive.words, List.mem_cons, List.not_mem_nil, or_false] at h
      rcases h with rfl | rfl | rfl | rfl
      · exact Text.isWord_toDigits count
      · exact hletter color
      · exact Text.isWord_toString dx
      · exact Text.isWord_toString dy
  | _ => cases h

/-!
## Lines
-/

theorem isPrintable_of_isWritable {mode : Mode} {action : Primitive} (h : action.IsWritable mode) :
    action.IsPrintable mode := by
  cases action with
  | declare => exact h
  | strip => exact h
  | shifted => exact h
  | _ => cases h

theorem prints_written {mode : Mode} {action : Primitive} (h : action.IsWritable mode) :
    action.Prints action.written := by
  refine ⟨action.pieces, action.written, ?_, ?_, Text.pads_self action.written⟩
  · exact List.forall₂_same.mpr fun word _ => List.forall₂_same.mpr fun c _ => rfl
  · cases action with
    | declare rows columns =>
        exact .cons _ Text.isGap_nil (Nat.zero_le _)
          (.cons ['#'] Text.isGap_nil (Nat.zero_le _) (.single _))
    | strip => exact Text.laidOut_spaced _ _
    | shifted => exact Text.laidOut_spaced _ _
    | _ => cases h

theorem parseLine_written {mode : Mode} {action : Primitive} (h : action.IsWritable mode)
    (line : Int) : parseLine mode line action.written = .ok [.once ⟨line, action⟩] :=
  parseLine_of_prints (isPrintable_of_isWritable h) (prints_written h) line

theorem no_feed_written (action : Primitive) : '\n' ∉ action.written := by
  cases action with
  | declare rows columns =>
      have hdigits : forall n, '\n' ∉ Nat.toDigits 10 n := by
        intro n hfeed
        have hdigit := Text.isDigit_of_mem_toDigits hfeed
        revert hdigit
        decide
      rw [Primitive.written, List.mem_append, List.mem_cons, not_or, not_or]
      exact ⟨hdigits rows, by decide, hdigits columns⟩
  | _ => exact Text.no_feed_spaced fun word hword => isWord_words hword

/-!
## Texts
-/

def tableText (rows columns : Nat) (strips : List Primitive) : String :=
  String.ofList (Text.joinLines ((.declare rows columns :: strips).map Primitive.written))

theorem sizeAfter_of_plain {action : Primitive} (h : action.isDeclaration = false) (line : Int)
    (extent : Nat × Nat) : sizeAfter line (some extent) action = .ok (some extent) := by
  cases action with
  | declare rows columns => cases h
  | _ => rfl

theorem sizeAfter_declare {rows columns : Nat} (hrows : rows ≤ maxRows)
    (hcolumns : columns ≤ maxColumns) (line : Int) :
    sizeAfter line none (.declare rows columns) = .ok (some (rows, columns)) := by
  have hfits : (maxRows < rows || maxColumns < columns) = false := by
    simp only [Bool.or_eq_false_iff, decide_eq_false_iff_not]
    omega
  show (if (maxRows < rows || maxColumns < columns) = true then _ else _) = _
  rw [hfits]
  rfl

def tableProgram (mode : Mode) (rows columns : Nat) (strips : List Primitive) : Program :=
  ⟨mode, tableText rows columns strips,
    commandsOf 0 ([.declare rows columns] :: strips.map fun strip => [strip]), some (rows, columns)⟩

theorem isWritable_of_small {n : Int} (h : n.natAbs ≤ maxRows) : Text.IsWritable n :=
  @Text.isWritable_of_lt n 2 (Nat.lt_of_le_of_lt h (by decide)) (by decide)

theorem isWritable_strip {count row column : Nat} {color : Color} (hcolor : color.IsPrimary)
    (hcount : count ≤ maxRows) (hrow : row ≤ maxRows) (hcolumn : column ≤ maxRows) :
    (Primitive.strip count color row column).IsWritable .table :=
  ⟨rfl, hcolor, isWritable_of_small hcount, isWritable_of_small hrow, isWritable_of_small hcolumn⟩

theorem isWritable_shifted {count : Nat} {dx dy : Int} {color : Color} (hcolor : color.IsPrimary)
    (hcount : count ≤ maxRows) (hdx : dx.natAbs ≤ maxRows) (hdy : dy.natAbs ≤ maxRows) :
    (Primitive.shifted count color dx dy).IsWritable .grid :=
  ⟨rfl, hcolor, isWritable_of_small hcount, isWritable_of_small hdx, isWritable_of_small hdy⟩

structure Declarable (rows columns : Nat) : Prop where
  tall : 1 ≤ rows
  wide : 1 ≤ columns
  height : rows ≤ maxRows
  width : columns ≤ maxColumns

/-- A table and its strips are read from their text. -/
theorem load_tableText {mode : Mode} {rows columns : Nat} {strips : List Primitive}
    (hmode : mode.declaresSize = true) (hsize : Declarable rows columns)
    (hstrips : forall strip, strip ∈ strips ->
      strip.IsWritable mode ∧ strip.isDeclaration = false) :
    load mode (tableText rows columns strips) = .ok (tableProgram mode rows columns strips) := by
  have hwritable : (Primitive.declare rows columns).IsWritable mode :=
    ⟨hmode, hsize.tall, hsize.wide, isWritable_of_small hsize.height, isWritable_of_small hsize.width⟩
  have hdeclared : loadLine mode 0 none (Primitive.declare rows columns).written =
      .ok ([⟨0, .declare rows columns⟩], some (rows, columns)) :=
    loadLine_of_parseLine hmode (parseLine_written hwritable 0)
      (sizeAfter_declare hsize.height hsize.width 0)
  have hpainted : loadLines mode 1 (some (rows, columns)) (strips.map Primitive.written) =
      .ok (commandsOf 1 (strips.map fun strip => [strip]), some (rows, columns)) := by
    refine loadLines_of_items (fun strip hstrip start => ?_) 1
    rcases hstrips strip hstrip with ⟨hwritable, hplain⟩
    exact loadLine_of_parseLine hmode (parseLine_written hwritable start)
      (sizeAfter_of_plain hplain start (rows, columns))
  have hfeeds : forall row, row ∈ (Primitive.declare rows columns :: strips).map Primitive.written ->
      '\n' ∉ row := by
    intro row hrow
    rcases List.mem_map.mp hrow with ⟨action, _, rfl⟩
    exact no_feed_written action
  have hlines := Text.lines_joinLines (by simp) hfeeds
  rw [List.map_cons] at hlines
  unfold load tableText
  rw [String.toList_ofList, List.map_cons, hlines, Mode.fixedSize_of_declaresSize hmode,
    loadLines_of_loadLine hdeclared hpainted]
  rfl

end Program
end Mosaic
