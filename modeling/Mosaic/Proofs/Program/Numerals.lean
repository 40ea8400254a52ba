import Mosaic.Proofs.Program.Failures
import Mosaic.Proofs.Program.Reading
import Mosaic.Proofs.Program.Stream
import Mosaic.Proofs.Program.Tokens

/-!
# Numbers that cannot be read

Loading a text has a problem of the program wherever a line is not as it should be.  Only a number
that cannot be read is a fault of another kind: one with too many digits, or in PIXEL also one with
a sign that is like a digit but is none.
-/

namespace Mosaic
namespace Program

/-!
## Numerals of a line
-/

/-- Numbers that are written in a line of a mode when the line has the form of a command. -/
inductive Writes : Mode -> List Char -> List (List Char) -> Prop
  | declaration {mode : Mode} {cs rows columns : List Char} (hmode : mode.declaresSize = true)
      (hform : declaration? cs = some (rows, columns)) : Writes mode cs [rows, columns]
  | strip {cs count letter row column : List Char} {color : Color}
      (hother : declaration? cs = none) (hwords : Text.words cs = [count, letter, row, column])
      (hcolor : primary? letter = some color)
      (hnumbers : (isNumber count && isNumber row && isNumber column) = true) :
      Writes .table cs [count, row, column]
  | shifted {cs count letter dx dy : List Char} {color : Color}
      (hother : declaration? cs = none) (hwords : Text.words cs = [count, letter, dx, dy])
      (hcolor : primary? letter = some color)
      (hnumbers : (isNumber count && isSignedNumber dx && isSignedNumber dy) = true) :
      Writes .grid cs [count, (Text.splitSign dx).2, (Text.splitSign dy).2]
  | advance {cs word amount : List Char} (hwords : Text.words cs = [word, amount])
      (hother : Text.isKeyword turnWord word = false)
      (hmove : (Text.isKeyword moveWord word && isNumber amount) = true) :
      Writes .maze cs [amount]

def Overlong (mode : Mode) (cs : List Char) : Prop :=
  exists numerals numeral, Writes mode cs numerals ∧ numeral ∈ numerals ∧
    Text.digitLimit < numeral.length

theorem overlong_iff {mode : Mode} {cs : List Char} {given : List (List Char)}
    (h : forall numerals, Writes mode cs numerals ↔ numerals = given) :
    Overlong mode cs ↔ exists numeral, numeral ∈ given ∧ Text.digitLimit < numeral.length := by
  constructor
  · intro hlong
    rcases hlong with ⟨numerals, numeral, hwrites, hmem, hlong⟩
    rw [(h numerals).mp hwrites] at hmem
    exact ⟨numeral, hmem, hlong⟩
  · intro hlong
    rcases hlong with ⟨numeral, hmem, hlong⟩
    exact ⟨given, numeral, (h given).mpr rfl, hmem, hlong⟩

theorem not_overlong {mode : Mode} {cs : List Char}
    (h : forall numerals, Not (Writes mode cs numerals)) : Not (Overlong mode cs) := by
  intro hlong
  rcases hlong with ⟨numerals, numeral, hwrites, _⟩
  exact h numerals hwrites

theorem writes_declaration_iff {mode : Mode} {cs rows columns : List Char}
    (hmode : mode.declaresSize = true) (hform : declaration? cs = some (rows, columns))
    (numerals : List (List Char)) : Writes mode cs numerals ↔ numerals = [rows, columns] := by
  constructor
  · intro hwrites
    cases hwrites with
    | declaration _ hform' =>
        rw [hform] at hform'
        cases hform'
        rfl
    | strip hother => rw [hform] at hother; cases hother
    | shifted hother => rw [hform] at hother; cases hother
    | advance => cases hmode
  · intro hsame
    subst hsame
    exact Writes.declaration hmode hform

theorem writes_table_iff {cs : List Char} (hother : declaration? cs = none)
    (numerals : List (List Char)) :
    Writes .table cs numerals ↔
      exists count letter row column color, Text.words cs = [count, letter, row, column] ∧
        primary? letter = some color ∧
        (isNumber count && isNumber row && isNumber column) = true ∧
        numerals = [count, row, column] := by
  constructor
  · intro hwrites
    cases hwrites with
    | declaration _ hform => rw [hother] at hform; cases hform
    | strip _ hwords hcolor hnumbers => exact ⟨_, _, _, _, _, hwords, hcolor, hnumbers, rfl⟩
  · intro hgiven
    rcases hgiven with ⟨count, letter, row, column, color, hwords, hcolor, hnumbers, rfl⟩
    exact Writes.strip hother hwords hcolor hnumbers

theorem writes_grid_iff {cs : List Char} (hother : declaration? cs = none)
    (numerals : List (List Char)) :
    Writes .grid cs numerals ↔
      exists count letter dx dy color, Text.words cs = [count, letter, dx, dy] ∧
        primary? letter = some color ∧
        (isNumber count && isSignedNumber dx && isSignedNumber dy) = true ∧
        numerals = [count, (Text.splitSign dx).2, (Text.splitSign dy).2] := by
  constructor
  · intro hwrites
    cases hwrites with
    | declaration _ hform => rw [hother] at hform; cases hform
    | shifted _ hwords hcolor hnumbers => exact ⟨_, _, _, _, _, hwords, hcolor, hnumbers, rfl⟩
  · intro hgiven
    rcases hgiven with ⟨count, letter, dx, dy, color, hwords, hcolor, hnumbers, rfl⟩
    exact Writes.shifted hother hwords hcolor hnumbers

theorem writes_maze_iff {cs : List Char} (numerals : List (List Char)) :
    Writes .maze cs numerals ↔
      exists word amount, Text.words cs = [word, amount] ∧
        Text.isKeyword turnWord word = false ∧
        (Text.isKeyword moveWord word && isNumber amount) = true ∧ numerals = [amount] := by
  constructor
  · intro hwrites
    cases hwrites with
    | declaration hmode _ => cases hmode
    | advance hwords hother hmove => exact ⟨_, _, hwords, hother, hmove, rfl⟩
  · intro hgiven
    rcases hgiven with ⟨word, amount, hwords, hother, hmove, rfl⟩
    exact Writes.advance hwords hother hmove

/-!
## Lines
-/

theorem failsOver_declare {mode : Mode} {cs rows columns : List Char} {line : Int}
    (hmode : mode.declaresSize = true) (hform : declaration? cs = some (rows, columns)) :
    FailsOver (Overlong mode cs) (declare line rows columns) := by
  rw [declare_eq]
  have hsize : forall height width : Nat, FailsOver False
      (if height = 0 ∨ width = 0 then .error (problem line .sizeNotPositive)
        else .ok (.declare height width) : Except Fault Primitive) := by
    intro height width
    split
    · exact failsOver_problem id
    · exact failsOver_ok id
  have hboth := (reads_number rows).bind fun height =>
    (reads_number columns).bind fun width => hsize height width
  apply hboth.congr
  rw [overlong_iff (writes_declaration_iff hmode hform)]
  simp

def stripLine (line : Int) (cs : List Char) (fits : List Char -> List Char -> List Char -> Bool)
    (read : List Char -> Color -> List Char -> List Char -> Except Fault Primitive) :
    Except Fault Primitive :=
  match Text.words cs with
  | [count, letter, first, second] =>
      match primary? letter with
      | some color =>
          if fits count first second then read count color first second
          else .error (problem line .invalidFormat)
      | none => .error (problem line .invalidFormat)
  | _ => .error (problem line .invalidFormat)

theorem failsOver_stripLine {mode : Mode} {line : Int} {cs : List Char}
    {fits : List Char -> List Char -> List Char -> Bool}
    {read : List Char -> Color -> List Char -> List Char -> Except Fault Primitive}
    {numeralsOf : List Char -> List Char -> List Char -> List (List Char)}
    (hwrites : forall numerals, Writes mode cs numerals ↔
      exists count letter first second color, Text.words cs = [count, letter, first, second] ∧
        primary? letter = some color ∧ fits count first second = true ∧
        numerals = numeralsOf count first second)
    (hread : forall count color first second, FailsOver
      (exists numeral, numeral ∈ numeralsOf count first second ∧
        Text.digitLimit < numeral.length) (read count color first second)) :
    FailsOver (Overlong mode cs) (stripLine line cs fits read) := by
  unfold stripLine
  split
  · rename_i count letter first second hwords
    have hsame : forall numerals, Writes mode cs numerals ↔
        exists color, primary? letter = some color ∧ fits count first second = true ∧
          numerals = numeralsOf count first second := by
      intro numerals
      rw [hwrites]
      constructor
      · intro hgiven
        rcases hgiven with ⟨_, _, _, _, color, hwords', hcolor, hfits, hnumerals⟩
        rw [hwords] at hwords'
        cases hwords'
        exact ⟨color, hcolor, hfits, hnumerals⟩
      · intro hgiven
        rcases hgiven with ⟨color, hcolor, hfits, hnumerals⟩
        exact ⟨count, letter, first, second, color, hwords, hcolor, hfits, hnumerals⟩
    split
    · rename_i color hcolor
      split
      · rename_i hfits
        refine (hread count color first second).congr (overlong_iff fun numerals => ?_)
        rw [hsame]
        constructor
        · intro hgiven
          rcases hgiven with ⟨_, _, _, hnumerals⟩
          exact hnumerals
        · intro hnumerals
          exact ⟨color, hcolor, hfits, hnumerals⟩
      · rename_i hfits
        refine failsOver_problem (not_overlong fun numerals hgiven => ?_)
        rcases (hsame numerals).mp hgiven with ⟨_, _, hfits', _⟩
        exact hfits hfits'
    · rename_i hcolor
      refine failsOver_problem (not_overlong fun numerals hgiven => ?_)
      rcases (hsame numerals).mp hgiven with ⟨color, hcolor', _⟩
      rw [hcolor] at hcolor'
      cases hcolor'
  · rename_i hwords
    refine failsOver_problem (not_overlong fun numerals hgiven => ?_)
    rcases (hwrites numerals).mp hgiven with ⟨count, letter, first, second, _, hwords', _⟩
    exact hwords count letter first second hwords'

theorem tableLine_of_other {cs : List Char} (h : declaration? cs = none) (line : Int) :
    tableLine line cs = stripLine line cs
      (fun count row column => isNumber count && isNumber row && isNumber column)
      fun count color row column => do
        return .strip (<- number count) color (<- number row) (<- number column) := by
  unfold tableLine stripLine
  rw [h]
  rfl

theorem gridLine_of_other {cs : List Char} (h : declaration? cs = none) (line : Int) :
    gridLine line cs = stripLine line cs
      (fun count dx dy => isNumber count && isSignedNumber dx && isSignedNumber dy)
      fun count color dx dy => do
        return .shifted (<- number count) color (<- signedNumber dx) (<- signedNumber dy) := by
  unfold gridLine stripLine
  rw [h]
  rfl

theorem failsOver_tableLine (line : Int) (cs : List Char) :
    FailsOver (Overlong .table cs) (tableLine line cs) := by
  cases hform : declaration? cs with
  | some sizes =>
      rcases sizes with ⟨rows, columns⟩
      unfold tableLine
      rw [hform]
      exact failsOver_declare rfl hform
  | none =>
      rw [tableLine_of_other hform]
      refine failsOver_stripLine (writes_table_iff hform) fun count color row column => ?_
      have hthree := (reads_number count).bind fun n => (reads_number row).bind fun i =>
        (reads_number column).bind fun j => @failsOver_ok _ False (Primitive.strip n color i j) id
      exact hthree.congr (by simp)

theorem failsOver_gridLine (line : Int) (cs : List Char) :
    FailsOver (Overlong .grid cs) (gridLine line cs) := by
  cases hform : declaration? cs with
  | some sizes =>
      rcases sizes with ⟨rows, columns⟩
      unfold gridLine
      rw [hform]
      exact failsOver_declare rfl hform
  | none =>
      rw [gridLine_of_other hform]
      refine failsOver_stripLine (writes_grid_iff hform) fun count color dx dy => ?_
      have hthree := (reads_number count).bind fun n => (reads_signedNumber dx).bind fun i =>
        (reads_signedNumber dy).bind fun j =>
          @failsOver_ok _ False (Primitive.shifted n color i j) id
      exact hthree.congr (by simp)

theorem failsOver_mazeLine (line : Int) (cs : List Char) :
    FailsOver (Overlong .maze cs) (mazeLine line cs) := by
  unfold mazeLine
  split
  · rename_i word amount hwords
    have hsame : forall numerals, Writes .maze cs numerals ↔
        Text.isKeyword turnWord word = false ∧
          (Text.isKeyword moveWord word && isNumber amount) = true ∧ numerals = [amount] := by
      intro numerals
      rw [writes_maze_iff]
      constructor
      · intro hgiven
        rcases hgiven with ⟨_, _, hwords', hother, hmove, hnumerals⟩
        rw [hwords] at hwords'
        cases hwords'
        exact ⟨hother, hmove, hnumerals⟩
      · intro hgiven
        exact ⟨word, amount, hwords, hgiven⟩
    split
    · rename_i hturn
      have hnot : Not (Overlong .maze cs) := not_overlong fun numerals hgiven => by
        rw [((hsame numerals).mp hgiven).left] at hturn
        cases hturn
      split
      · exact failsOver_ok hnot
      · exact failsOver_problem hnot
    · rename_i hturn
      split
      · rename_i hmove
        have hwrites : forall numerals, Writes .maze cs numerals ↔ numerals = [amount] := by
          intro numerals
          rw [hsame]
          simp [hturn, hmove]
        have hone := (reads_number amount).bind fun n =>
          @failsOver_ok _ False (Primitive.advance n) id
        apply hone.congr
        rw [overlong_iff hwrites]
        simp
      · rename_i hmove
        refine failsOver_problem (not_overlong fun numerals hgiven => ?_)
        exact hmove ((hsame numerals).mp hgiven).right.left
  · rename_i hwords
    refine failsOver_problem (not_overlong fun numerals hgiven => ?_)
    rcases (writes_maze_iff numerals).mp hgiven with ⟨word, amount, hwords', _⟩
    exact hwords word amount hwords'

theorem failsOver_matrixLine (line : Int) (cs : List Char) :
    FailsOver (Overlong .matrix cs) (matrixLine line cs) := by
  have hnot : Not (Overlong .matrix cs) := by
    refine not_overlong fun numerals hgiven => ?_
    cases hgiven with
    | declaration hmode _ => cases hmode
  unfold matrixLine
  split
  · split
    · split
      · exact failsOver_ok hnot
      · exact failsOver_problem hnot
    · exact failsOver_problem hnot
  · exact failsOver_problem hnot

/-- A line with a number that cannot be read, in the place where it has to be read. -/
def LineStumbles (mode : Mode) (line : Int) (cs : List Char) : Prop :=
  (Text.trim cs).isEmpty = false ∧
    if mode = .pixel then Screen.LineStumbles line cs else Overlong mode (Text.trim cs)

theorem failsOver_parseLine (mode : Mode) (line : Int) (cs : List Char) :
    FailsOver (LineStumbles mode line cs) (parseLine mode line cs) := by
  unfold parseLine
  simp only
  split
  · rename_i hempty
    apply failsOver_ok
    intro hgiven
    rcases hgiven with ⟨hne, _⟩
    rw [hempty] at hne
    cases hne
  · rename_i hempty
    have hne : (Text.trim cs).isEmpty = false := by simpa using hempty
    have hline : LineStumbles mode line cs ↔ if mode = .pixel then Screen.LineStumbles line cs
        else Overlong mode (Text.trim cs) := by
      unfold LineStumbles
      simp only [hne, true_and]
    cases mode with
    | table => exact (failsOver_tableLine line _).map.congr hline
    | grid => exact (failsOver_gridLine line _).map.congr hline
    | maze => exact (failsOver_mazeLine line _).map.congr hline
    | matrix => exact (failsOver_matrixLine line _).map.congr hline
    | pixel => exact (Screen.failsOver_lineOps line cs).congr hline

theorem failsOver_sizeAfter (line : Int) (size : Option (Nat × Nat)) (action : Primitive) :
    FailsOver False (sizeAfter line size action) := by
  unfold sizeAfter
  split
  · exact failsOver_problem id
  · split
    · exact failsOver_problem id
    · exact failsOver_ok id
  · exact failsOver_ok id
  · exact failsOver_problem id

theorem failsOver_sizesAfter (line : Int) (actions : List Primitive) (size : Option (Nat × Nat)) :
    FailsOver False (actions.foldlM (sizeAfter line) size) := by
  apply (failsOver_foldlM fun action _ reached => failsOver_sizeAfter line reached action).congr
  simp

theorem failsOver_loadLine (mode : Mode) (line : Int) (size : Option (Nat × Nat))
    (cs : List Char) : FailsOver (LineStumbles mode line cs) (loadLine mode line size cs) := by
  unfold loadLine
  apply (failsOver_parseLine mode line cs).bind_of_clear
  intro ops
  split
  · exact failsOver_ok id
  · simp only
    split
    · apply (failsOver_sizesAfter line _ size).bind_of_clear
      intro extent
      exact failsOver_ok id
    · exact failsOver_ok id

/-!
## Texts
-/

def LinesStumble (mode : Mode) (line : Int) (size : Option (Nat × Nat))
    (rows : List (List Char)) : Prop :=
  exists before cs after loaded, rows = before ++ cs :: after ∧
    loadLines mode line size before = .ok loaded ∧ LineStumbles mode (line + before.length) cs

theorem not_linesStumble_nil (mode : Mode) (line : Int) (size : Option (Nat × Nat)) :
    Not (LinesStumble mode line size []) := by
  intro hgiven
  rcases hgiven with ⟨before, cs, after, loaded, happend, _⟩
  simp at happend

theorem linesStumble_cons_iff {mode : Mode} {line : Int} {size : Option (Nat × Nat)}
    {cs : List Char} {rest : List (List Char)} :
    LinesStumble mode line size (cs :: rest) ↔ LineStumbles mode line cs ∨
      exists read, loadLine mode line size cs = .ok read ∧
        LinesStumble mode (line + 1) read.2 rest := by
  have hcount : forall others : List (List Char),
      line + ((cs :: others).length : Nat) = line + 1 + (others.length : Nat) := by
    intro others
    rw [List.length_cons]
    omega
  constructor
  · intro hgiven
    rcases hgiven with ⟨before, other, after, loaded, happend, hbefore, hstumbles⟩
    cases before with
    | nil =>
        cases happend
        exact Or.inl (by simpa using hstumbles)
    | cons first others =>
        cases happend
        rcases loaded with ⟨commands, final⟩
        rcases loadLines_cons hbefore with ⟨actions, extent, _, hfirst, hrest, _⟩
        rw [hcount] at hstumbles
        exact Or.inr ⟨_, hfirst, others, other, after, _, rfl, hrest, hstumbles⟩
  · intro hgiven
    rcases hgiven with hhere | ⟨⟨actions, extent⟩, hline, hlater⟩
    · exact ⟨[], cs, rest, _, rfl, rfl, by simpa using hhere⟩
    · rcases hlater with ⟨before, other, after, ⟨commands, final⟩, rfl, hbefore, hstumbles⟩
      exact ⟨cs :: before, other, after, _, rfl, loadLines_of_loadLine hline hbefore,
        by rwa [hcount]⟩

theorem failsOver_loadLines (mode : Mode) (line : Int) (size : Option (Nat × Nat))
    (rows : List (List Char)) :
    FailsOver (LinesStumble mode line size rows) (loadLines mode line size rows) := by
  induction rows generalizing line size with
  | nil => exact failsOver_ok (not_linesStumble_nil mode line size)
  | cons cs rest ih =>
      rw [loadLines]
      refine ((failsOver_loadLine mode line size cs).bind fun read _ => ?_).congr
        linesStumble_cons_iff
      apply (ih (line + 1) read.2).bind_of_clear
      intro loaded
      exact failsOver_ok id

/-- A text whose first line that is not in order has a number that cannot be read. -/
def TextStumbles (mode : Mode) (source : String) : Prop :=
  LinesStumble mode 0 mode.fixedSize (Text.lines source.toList)

/-- Loading a text fails because of such a number, or else for no reason but the program. -/
theorem failsOver_load (mode : Mode) (source : String) :
    FailsOver (TextStumbles mode source) (load mode source) := by
  unfold load
  apply (failsOver_loadLines mode 0 mode.fixedSize (Text.lines source.toList)).bind_of_clear
  intro loaded
  exact failsOver_ok id

end Program
end Mosaic
