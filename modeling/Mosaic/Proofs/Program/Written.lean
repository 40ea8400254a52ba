import Mosaic.Proofs.Program.Stream
import Mosaic.Proofs.Text.Layout

/-!
# Programs written line by line

A text that is put together from lines, each of which loads by itself, loads as a whole: it gives the
primitives of its lines, numbered by the lines.
-/

namespace Mosaic
namespace Program

/-- Rows of primitives as commands, each row on a line of its own. -/
def commandsOf (start : Int) : List (List Primitive) -> List Command
  | [] => []
  | row :: rest => row.map (Command.mk start) ++ commandsOf (start + 1) rest

theorem commandsOf_append (start : Int) (front back : List (List Primitive)) :
    commandsOf start (front ++ back) =
      commandsOf start front ++ commandsOf (start + front.length) back := by
  induction front generalizing start with
  | nil => simp [commandsOf]
  | cons row rest ih =>
      have hlength : start + ((row :: rest).length : Nat) = start + 1 + (rest.length : Nat) := by
        rw [List.length_cons]
        omega
      rw [List.cons_append, commandsOf, commandsOf, ih, hlength, List.append_assoc]

theorem length_commandsOf {α : Type} (start : Int) (action : α -> Primitive) (items : List α) :
    (commandsOf start (items.map fun item => [action item])).length = items.length := by
  induction items generalizing start with
  | nil => rfl
  | cons item rest ih =>
      show (commandsOf (start + 1) (rest.map fun item => [action item])).length + 1 = _
      rw [ih, List.length_cons]

theorem actions_commandsOf (start : Int) (actions : List Primitive) :
    (commandsOf start (actions.map fun action => [action])).map Command.action = actions := by
  induction actions generalizing start with
  | nil => rfl
  | cons action rest ih => exact congrArg (action :: ·) (ih (start + 1))

theorem line_commandsOf_le {start : Int} {rows : List (List Primitive)} {command : Command}
    (h : command ∈ commandsOf start rows) : start ≤ command.line := by
  induction rows generalizing start with
  | nil => cases h
  | cons row rest ih =>
      rcases List.mem_append.mp h with hhere | hlater
      · rcases List.mem_map.mp hhere with ⟨action, _, rfl⟩
        exact Int.le_refl start
      · have hbelow := ih hlater
        omega

theorem mem_commandsOf {start : Int} {rows : List (List Primitive)} {command : Command}
    (h : command ∈ commandsOf start rows) : exists row, row ∈ rows ∧ command.action ∈ row := by
  induction rows generalizing start with
  | nil => cases h
  | cons row rest ih =>
      rcases List.mem_append.mp h with hhere | hlater
      · rcases List.mem_map.mp hhere with ⟨action, haction, rfl⟩
        exact ⟨row, by simp, haction⟩
      · rcases ih hlater with ⟨other, hother, haction⟩
        exact ⟨other, by simp [hother], haction⟩

theorem map_line_row (start : Int) (row : List Primitive) :
    (row.map (Command.mk start)).map Command.line = List.replicate row.length start := by
  rw [List.map_map, List.eq_replicate_iff]
  exact ⟨by simp, by simp⟩

theorem removeAll_of_fresh {front back : List Int} (h : forall line, line ∈ back -> line ∉ front) :
    back.removeAll front = back := by
  rw [List.removeAll, List.filter_eq_self]
  intro line hline
  simpa using h line hline

theorem length_eraseDups_replicate (count : Nat) (line : Int) :
    (List.replicate count line).eraseDups.length ≤ 1 := by
  cases count with
  | zero => simp
  | succ count => simp [List.replicate_succ, List.eraseDups_cons]

theorem length_lines_commandsOf (start : Int) (rows : List (List Primitive)) :
    ((commandsOf start rows).map Command.line).eraseDups.length ≤ rows.length := by
  induction rows generalizing start with
  | nil => simp [commandsOf]
  | cons row rest ih =>
      have hfresh : forall line, line ∈ (commandsOf (start + 1) rest).map Command.line ->
          line ∉ List.replicate row.length start := by
        intro line hline hmem
        rcases List.mem_map.mp hline with ⟨command, hcommand, rfl⟩
        have hbelow := line_commandsOf_le hcommand
        rw [List.mem_replicate] at hmem
        omega
      have hfirst := length_eraseDups_replicate row.length start
      have hrest := ih (start + 1)
      rw [commandsOf, List.map_append, map_line_row, List.eraseDups_append,
        removeAll_of_fresh hfresh, List.length_append, List.length_cons]
      omega

/-!
## Texts
-/

variable {α : Type} {mode : Mode} {line : α -> List Char} {actions : α -> List Primitive}
  {items : List α}

theorem loadLines_of_items {size : Option (Nat × Nat)}
    (hline : forall item, item ∈ items -> forall start,
      loadLine mode start size (line item) = .ok ((actions item).map (Command.mk start), size))
    (start : Int) :
    loadLines mode start size (items.map line) =
      .ok (commandsOf start (items.map actions), size) := by
  induction items generalizing start with
  | nil => rfl
  | cons item rest ih =>
      rw [List.map_cons, List.map_cons]
      exact loadLines_of_loadLine (hline item (by simp) start)
        (ih (fun other hother => hline other (by simp [hother])) (start + 1))

theorem load_joinLines (hne : items ≠ []) (hfeed : forall item, item ∈ items -> '\n' ∉ line item)
    (hline : forall item, item ∈ items -> forall start,
      loadLine mode start mode.fixedSize (line item) =
        .ok ((actions item).map (Command.mk start), mode.fixedSize)) :
    load mode (String.ofList (Text.joinLines (items.map line))) =
      .ok ⟨mode, String.ofList (Text.joinLines (items.map line)),
        commandsOf 0 (items.map actions), mode.fixedSize⟩ := by
  have hfeeds : forall row, row ∈ items.map line -> '\n' ∉ row := by
    intro row hrow
    rcases List.mem_map.mp hrow with ⟨item, hitem, rfl⟩
    exact hfeed item hitem
  unfold load
  rw [String.toList_ofList, Text.lines_joinLines (by simpa using hne) hfeeds,
    loadLines_of_items hline 0]
  rfl

end Program
end Mosaic
