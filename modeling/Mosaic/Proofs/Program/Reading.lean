import Mosaic.Program.Parsing
import Mosaic.Proofs.Text.Numeral

/-!
# What a line can ask for

Every mode has its own primitives, and the numbers in them come from the line, so they keep within
what can be written.
-/

namespace Mosaic

def Color.IsPrimary (color : Color) : Prop := color = .red ∨ color = .green ∨ color = .blue

/-- The primitives of a mode, with the numbers that a line can give them. -/
def Mode.Allows (mode : Mode) : Primitive -> Prop
  | .declare rows columns => mode.declaresSize = true ∧ 1 ≤ rows ∧ 1 ≤ columns
  | .strip _ _ row column =>
      mode = .table ∧ Text.IsWritable row ∧ Text.IsWritable column
  | .shifted _ _ dx dy => mode = .grid ∧ Text.IsWritable dx ∧ Text.IsWritable dy
  | .turn quarters => mode = .maze ∧ 1 ≤ quarters ∧ quarters ≤ 3
  | .advance _ => mode = .maze
  | .switch _ _ index => mode = .matrix ∧ index < 8
  | .paint _ => mode = .pixel
  | .erase => mode = .pixel

namespace Program

/-!
## Numbers
-/

theorem number_eq_ok_iff {cs : List Char} {n : Nat} :
    number cs = .ok n ↔ cs.length ≤ Text.digitLimit ∧ Text.decimalValue cs = n := by
  rw [← Text.readDigits_eq_ok_iff]
  unfold number
  cases Text.readDigits cs with
  | error fault =>
      constructor
      · intro h
        cases h
      · intro h
        cases h
  | ok value =>
      constructor
      · intro h
        cases h
        rfl
      · intro h
        cases h
        rfl

theorem isWritable_of_number {cs : List Char} {n : Nat} (h : number cs = .ok n) :
    Text.IsWritable n :=
  Text.lt_of_readDigits (Text.readDigits_eq_ok_iff.mpr (number_eq_ok_iff.mp h))

theorem isWritable_of_signedNumber {cs : List Char} {n : Int} (h : signedNumber cs = .ok n) :
    Text.IsWritable n := by
  unfold signedNumber at h
  rcases Attempts.bind_eq_ok_iff.mp h with ⟨value, hvalue, hsigned⟩
  have hn := Attempts.pure_eq_ok_iff.mp hsigned
  have hbound := isWritable_of_number hvalue
  unfold Text.IsWritable at hbound ⊢
  rw [← hn, Text.natAbs_signed]
  simpa using hbound

/-!
## Lines
-/

theorem declare_eq (line : Int) (rows columns : List Char) :
    declare line rows columns =
      number rows >>= fun height => number columns >>= fun width =>
        if height = 0 ∨ width = 0 then .error (problem line .sizeNotPositive)
        else .ok (.declare height width) := by
  unfold declare
  cases number rows with
  | error fault => rfl
  | ok height =>
      cases number columns with
      | error fault => rfl
      | ok width =>
          by_cases hflat : height = 0 ∨ width = 0
          · simp [bind, Except.bind, throw, throwThe, MonadExceptOf.throw, hflat]
          · simp [bind, Except.bind, pure, Except.pure, hflat]

theorem declare_allowed {mode : Mode} {line : Int} {rows columns : List Char} {action : Primitive}
    (hmode : mode.declaresSize = true) (h : declare line rows columns = .ok action) :
    mode.Allows action := by
  rw [declare_eq] at h
  rcases Attempts.bind_eq_ok_iff.mp h with ⟨height, _, h⟩
  rcases Attempts.bind_eq_ok_iff.mp h with ⟨width, _, h⟩
  split at h
  · cases h
  · rename_i hflat
    cases h
    exact ⟨hmode, by omega, by omega⟩

theorem tableLine_allowed {line : Int} {cs : List Char} {action : Primitive}
    (h : tableLine line cs = .ok action) : Mode.table.Allows action := by
  unfold tableLine at h
  split at h
  · exact declare_allowed rfl h
  · split at h
    · split at h
      · split at h
        · rcases Attempts.bind_eq_ok_iff.mp h with ⟨count, _, h⟩
          rcases Attempts.bind_eq_ok_iff.mp h with ⟨row, hrow, h⟩
          rcases Attempts.bind_eq_ok_iff.mp h with ⟨column, hcolumn, h⟩
          rw [← Attempts.pure_eq_ok_iff.mp h]
          exact ⟨rfl, isWritable_of_number hrow, isWritable_of_number hcolumn⟩
        · cases h
      · cases h
    · cases h

theorem gridLine_allowed {line : Int} {cs : List Char} {action : Primitive}
    (h : gridLine line cs = .ok action) : Mode.grid.Allows action := by
  unfold gridLine at h
  split at h
  · exact declare_allowed rfl h
  · split at h
    · split at h
      · split at h
        · rcases Attempts.bind_eq_ok_iff.mp h with ⟨count, _, h⟩
          rcases Attempts.bind_eq_ok_iff.mp h with ⟨dx, hdx, h⟩
          rcases Attempts.bind_eq_ok_iff.mp h with ⟨dy, hdy, h⟩
          rw [← Attempts.pure_eq_ok_iff.mp h]
          exact ⟨rfl, isWritable_of_signedNumber hdx, isWritable_of_signedNumber hdy⟩
        · cases h
      · cases h
    · cases h

theorem quarters?_range {cs : List Char} {quarters : Nat} (h : quarters? cs = some quarters) :
    1 ≤ quarters ∧ quarters ≤ 3 := by
  unfold quarters? at h
  split at h
  · cases h
    omega
  · cases h
    omega
  · cases h
    omega
  · cases h

theorem mazeLine_allowed {line : Int} {cs : List Char} {action : Primitive}
    (h : mazeLine line cs = .ok action) : Mode.maze.Allows action := by
  unfold mazeLine at h
  split at h
  · split at h
    · split at h
      · rename_i hquarters
        cases h
        exact ⟨rfl, quarters?_range hquarters⟩
      · cases h
    · split at h
      · rcases Attempts.bind_eq_ok_iff.mp h with ⟨steps, _, h⟩
        rw [← Attempts.pure_eq_ok_iff.mp h]
        exact rfl
      · cases h
  · cases h

theorem lamps?_index_lt {c : Char} {axis : Axis} {index : Nat} (h : lamps? c = some (axis, index)) :
    index < 8 := by
  have hone : '1'.toNat = 49 := rfl
  have height : '8'.toNat = 56 := rfl
  have hA : 'A'.toNat = 65 := rfl
  have hH : 'H'.toNat = 72 := rfl
  unfold lamps? at h
  split at h
  · rename_i hrange
    simp only [Bool.and_eq_true, decide_eq_true_eq, Char.le_def, UInt32.le_iff_toNat_le] at hrange
    cases h
    show c.toNat - '1'.toNat < 8
    have hlow : '1'.toNat ≤ c.toNat := hrange.left
    have hhigh : c.toNat ≤ '8'.toNat := hrange.right
    omega
  · split at h
    · rename_i hrange
      simp only [Bool.and_eq_true, decide_eq_true_eq, Char.le_def, UInt32.le_iff_toNat_le] at hrange
      cases h
      show c.toUpper.toNat - 'A'.toNat < 8
      have hlow : 'A'.toNat ≤ c.toUpper.toNat := hrange.left
      have hhigh : c.toUpper.toNat ≤ 'H'.toNat := hrange.right
      omega
    · cases h

theorem matrixLine_allowed {line : Int} {cs : List Char} {action : Primitive}
    (h : matrixLine line cs = .ok action) : Mode.matrix.Allows action := by
  unfold matrixLine at h
  split at h
  · split at h
    · split at h
      · rename_i hlamps
        cases h
        exact ⟨rfl, lamps?_index_lt hlamps⟩
      · cases h
    · cases h
  · cases h

end Program
end Mosaic
