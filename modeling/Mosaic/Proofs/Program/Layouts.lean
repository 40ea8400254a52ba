import Mosaic.Proofs.Program.Blaming
import Mosaic.Proofs.Program.Forms
import Mosaic.Proofs.Text.Entries

/-!
# Programs and their layouts

Outside PIXEL a program is told by the entries of its text.  The layout of the text decides in which
line each entry stands, so it decides about the lines on the commands and in a problem, and about
nothing else.
-/

namespace Mosaic

def Command.relined (place : Int -> Int) (command : Command) : Command :=
  { command with line := place command.line }

def Problem.relined (place : Int -> Int) (problem : Problem) : Problem :=
  { problem with line := place problem.line }

def Fault.relined (place : Int -> Int) : Fault -> Fault
  | .program problem => .program (problem.relined place)
  | fault => fault

namespace Program

def relinedLoad (place : Int -> Int)
    (loaded : Except Fault (List Command × Option (Nat × Nat))) :
    Except Fault (List Command × Option (Nat × Nat)) :=
  (loaded.mapError (Fault.relined place)).map fun read =>
    (read.1.map (Command.relined place), read.2)

/-- The program of some entries, the first of them in the first line. -/
def ofEntries (mode : Mode) (entries : List (List Char)) : Except Fault Program := do
  let (commands, size) <- loadLines mode 0 mode.fixedSize entries
  return { mode, source := "", commands, size }

def relined (place : Int -> Int) (source : String) (program : Program) : Program :=
  { program with source := source, commands := program.commands.map (Command.relined place) }

section

variable {mode : Mode}

/-!
## Lines
-/

theorem parseLine_trim (hmode : mode ≠ .pixel) (line : Int) (cs : List Char) :
    parseLine mode line (Text.trim cs) = parseLine mode line cs := by
  unfold parseLine
  rw [Text.trim_trim]
  cases mode with
  | pixel => exact absurd rfl hmode
  | _ => rfl

theorem loadLine_trim (hmode : mode ≠ .pixel) (line : Int) (size : Option (Nat × Nat))
    (cs : List Char) : loadLine mode line size (Text.trim cs) = loadLine mode line size cs := by
  unfold loadLine
  rw [parseLine_trim hmode]

theorem loadLine_of_blank {cs : List Char} (h : Text.IsGap cs) (line : Int)
    (size : Option (Nat × Nat)) : loadLine mode line size cs = .ok ([], size) := by
  unfold loadLine
  rw [parseLine_of_blank mode line h]
  cases mode with
  | _ => rfl

/-!
## Texts
-/

theorem loadLines_relined (hmode : mode ≠ .pixel) {place : Int -> Int} {line first : Int}
    {rows : List (List Char)} (size : Option (Nat × Nat))
    (hplace : forall (index : Nat) found entry,
      (Text.numberedFrom line rows)[index]? = some (found, entry) -> place (first + index) = found) :
    loadLines mode line size rows =
      relinedLoad place (loadLines mode first size (Text.entriesOf rows)) := by
  induction rows generalizing line first size with
  | nil => rfl
  | cons row rest ih =>
      by_cases hblank : Text.IsGap row
      · rw [Text.numberedFrom_cons_of_blank hblank] at hplace
        rw [Text.entriesOf_cons_of_blank hblank, ← ih size hplace, loadLines,
          loadLine_of_blank hblank]
        cases hrest : loadLines mode (line + 1) size rest with
        | error fault => simp only [bind, Except.bind, hrest]
        | ok read =>
            simp only [bind, Except.bind, hrest]
            rfl
      · rw [Text.numberedFrom_cons_of_full hblank] at hplace
        have hhere : place first = line := by
          have hfirst := hplace 0 line (Text.trim row) rfl
          rwa [show first + ((0 : Nat) : Int) = first by omega] at hfirst
        have hlater : forall (index : Nat) found entry,
            (Text.numberedFrom (line + 1) rest)[index]? = some (found, entry) ->
              place (first + 1 + index) = found := by
          intro index found entry h
          have hnext := hplace (index + 1) found entry h
          rwa [show first + ((index + 1 : Nat) : Int) = first + 1 + index by omega] at hnext
        rw [Text.entriesOf_cons_of_full hblank, loadLines, loadLines, loadLine_trim hmode]
        -- a line is read alike wherever it stands, apart from the lines on its commands and in its
        -- problem
        cases uniform_loadLine mode size row with
        | value read h =>
            rw [h line, h first]
            simp only [bind, Except.bind, loadedOn]
            rw [ih read.2 hlater]
            cases loadLines mode (first + 1) read.2 (Text.entriesOf rest) with
            | error fault => rfl
            | ok others =>
                have hmoved : (read.1.map (Command.mk first)).map (Command.relined place) =
                    read.1.map (Command.mk line) := by
                  rw [List.map_map, ← hhere]
                  rfl
                show Except.ok _ = Except.ok ((read.1.map (Command.mk first) ++ others.1).map _, _)
                rw [List.map_append, hmoved]
        | problem cause _ h =>
            rw [h line, h first, ← hhere]
            rfl
        | numeral fault h =>
            rw [h line, h first]
            rfl

theorem relined_of_read (place : Int -> Int) (source : String)
    (read : Except Fault (List Command × Option (Nat × Nat))) :
    (relinedLoad place read >>= fun read => pure
      { mode := mode, source := source, commands := read.1, size := read.2 : Program }) =
      ((read >>= fun read => pure
        { mode := mode, source := "", commands := read.1, size := read.2 : Program }).mapError
          (Fault.relined place)).map (relined place source) := by
  cases read with
  | error fault => rfl
  | ok read => rfl

/-- A text loads as its entries do, on the lines where these stand. -/
theorem load_relined (hmode : mode ≠ .pixel) (source : String) :
    load mode source =
      ((ofEntries mode (Text.entries source)).mapError
        (Fault.relined (Text.place 0 (Text.lines source.toList)))).map
          (relined (Text.place 0 (Text.lines source.toList)) source) := by
  have hlines := @loadLines_relined mode hmode (Text.place 0 (Text.lines source.toList)) 0 0
    (Text.lines source.toList) mode.fixedSize (fun index found entry h => by
      rw [Int.zero_add]
      exact Text.place_of_numbered h)
  unfold load
  rw [hlines]
  exact relined_of_read _ source _

theorem ofEntries_relined (hmode : mode ≠ .pixel) {source : String} {place : Int -> Int}
    (hplace : forall index : Nat, index < (Text.entries source).length -> place index = index) :
    ofEntries mode (Text.entries source) =
      ((ofEntries mode (Text.entries source)).mapError (Fault.relined place)).map
        (relined place "") := by
  have hlines := @loadLines_relined mode hmode place 0 0 (Text.entries source) mode.fixedSize
    (fun index found entry h => by
      rcases Text.numberedFrom_of_full
        (fun _ hrow => (Text.trim_of_mem_entriesOf hrow).right) h with ⟨rfl, hless⟩
      rw [Int.zero_add]
      exact hplace index hless)
  have hsame : Text.entriesOf (Text.entries source) = Text.entries source :=
    Text.entriesOf_entriesOf _
  have hread := @relined_of_read mode place ""
    (loadLines mode 0 mode.fixedSize (Text.entries source))
  rw [hsame] at hlines
  rw [← hlines] at hread
  exact hread

end

end Program
end Mosaic
