import Mosaic.Proofs.Program.Written

/-!
# Screen lines written out as far as they show

A screen line is written out no further than a row of the screen is wide, and what is written out are
the first commands of the whole line, however its loops are nested and however large their counts
are.  So a loaded screen program is known from the full meaning of its lines.
-/

namespace Mosaic
namespace Op

/-!
## Expansion up to a limit
-/

theorem take_append_take {α : Type} (limit : Nat) (front back : List α) :
    front.take limit ++ back.take (limit - (front.take limit).length) =
      (front ++ back).take limit := by
  rw [List.take_append, List.length_take]
  by_cases hlimit : limit ≤ front.length
  · rw [Nat.min_eq_left hlimit, Nat.sub_self, Nat.sub_eq_zero_of_le hlimit]
  · rw [Nat.min_eq_right (Nat.le_of_not_le hlimit)]

theorem length_flatten_replicate {α : Type} (count : Nat) (copy : List α) :
    (List.replicate count copy).flatten.length = count * copy.length := by
  rw [List.length_flatten, List.map_replicate, List.sum_replicate_nat]

theorem le_copiesFor_mul (limit : Nat) {size : Nat} (h : 0 < size) :
    limit ≤ copiesFor limit size * size := by
  unfold copiesFor
  have hdivided := Nat.div_add_mod (limit + size - 1) size
  have hrest := Nat.mod_lt (limit + size - 1) h
  rw [Nat.mul_comm]
  omega

/-- Copies beyond the limit make no difference. -/
theorem take_flatten_replicate_min {α : Type} {copy : List α} (h : 0 < copy.length)
    (count limit : Nat) :
    (List.replicate (min count (copiesFor limit copy.length)) copy).flatten.take limit =
      (List.replicate count copy).flatten.take limit := by
  by_cases hfew : count ≤ copiesFor limit copy.length
  · rw [Nat.min_eq_left hfew]
  · have hmany := Nat.le_of_not_le hfew
    have hreach := le_copiesFor_mul limit h
    have hsplit : count = copiesFor limit copy.length + (count - copiesFor limit copy.length) := by
      omega
    have hfull : limit ≤
        (List.replicate (copiesFor limit copy.length) copy).flatten.length := by
      rwa [length_flatten_replicate]
    rw [Nat.min_eq_right hmany, hsplit, ← List.replicate_append_replicate, List.flatten_append,
      List.take_append_of_le_length hfull]

theorem take_flatten_replicate_take {α : Type} (copy : List α) (count limit : Nat) :
    (List.replicate count (copy.take limit)).flatten.take limit =
      (List.replicate count copy).flatten.take limit := by
  cases count with
  | zero => rfl
  | succ count =>
      by_cases hlimit : copy.length ≤ limit
      · rw [List.take_of_length_le hlimit]
      · have hlong := Nat.le_of_not_le hlimit
        have hcut : limit ≤ (copy.take limit).length := by
          rw [List.length_take]
          omega
        rw [List.replicate_succ, List.replicate_succ, List.flatten_cons, List.flatten_cons,
          List.take_append_of_le_length hlong, List.take_append_of_le_length hcut, List.take_take,
          Nat.min_self]

/-- A loop stands for copies of its body, also if the body comes to nothing. -/
theorem expand_loop (line : Int) (count : Nat) (body : List Op) :
    expand (loop line count body) = (List.replicate count (expandAll body)).flatten := by
  rw [expand]
  cases expandAll body with
  | nil => simp
  | cons action rest => rfl

mutual

theorem expandUpTo_eq_take (limit : Nat) (op : Op) :
    expandUpTo limit op = (expand op).take limit := by
  cases op with
  | once command =>
      rw [expandUpTo, expand]
  | loop line count body =>
      rw [expandUpTo, expand_loop, expandAllUpTo_eq_take limit body]
      generalize expandAll body = copy
      have hcut := take_flatten_replicate_take copy count limit
      rw [← hcut]
      cases hlength : (copy.take limit).length with
      | zero =>
          rw [List.eq_nil_of_length_eq_zero hlength]
          simp
      | succ length =>
          have hpositive : 0 < (copy.take limit).length := by
            rw [hlength]
            exact Nat.succ_pos length
          rw [← hlength]
          exact take_flatten_replicate_min hpositive count limit

theorem expandAllUpTo_eq_take (limit : Nat) (ops : List Op) :
    expandAllUpTo limit ops = (expandAll ops).take limit := by
  cases ops with
  | nil =>
      rw [expandAllUpTo, expandAll, List.take_nil]
  | cons op rest =>
      rw [expandAllUpTo, expandAll, expandUpTo_eq_take limit op, expandAllUpTo_eq_take _ rest,
        take_append_take]

end

theorem expandAll_singleton (op : Op) : expandAll [op] = expand op := by
  rw [expandAll, expandAll, List.append_nil]

theorem expandAll_append (front back : List Op) :
    expandAll (front ++ back) = expandAll front ++ expandAll back := by
  induction front with
  | nil => rfl
  | cons op rest ih => rw [List.cons_append, expandAll, expandAll, ih, List.append_assoc]

/-- The full expansion is put together from the operations, a loop standing for so many copies of
its body, and the expansion up to a limit is the start of the full one. -/
theorem expansion_of_copies :
    (forall command, expandAll [once command] = [command]) ∧
      (forall line count body,
        expandAll [loop line count body] = (List.replicate count (expandAll body)).flatten) ∧
      (forall front back, expandAll (front ++ back) = expandAll front ++ expandAll back) ∧
      forall limit ops, expandAllUpTo limit ops = (expandAll ops).take limit := by
  refine ⟨?_, ?_, expandAll_append, expandAllUpTo_eq_take⟩
  · intro command
    rw [expandAll_singleton, expand]
  · intro line count body
    rw [expandAll_singleton, expand_loop]

/-- The third copy of a loop is cut, and an empty body in front of it adds nothing. -/
example :
    expandAllUpTo 5 [loop 2 7 [loop 2 0 [once ⟨2, .erase⟩]],
      loop 2 9 [once ⟨2, .paint .red⟩, once ⟨2, .erase⟩]] =
    [⟨2, .paint .red⟩, ⟨2, .erase⟩, ⟨2, .paint .red⟩, ⟨2, .erase⟩, ⟨2, .paint .red⟩] := by
  decide

end Op

/-!
## Cells
-/

def Cell.action : Cell -> Primitive
  | none => .erase
  | some color => .paint color

def Primitive.cell : Primitive -> Cell
  | .paint color => some color
  | _ => none

theorem Primitive.action_cell {action : Primitive} (h : Mode.pixel.Allows action) :
    action.cell.action = action := by
  cases action with
  | paint color => rfl
  | erase => rfl
  | declare rows columns => cases h.left
  | strip count color row column => cases h.left
  | shifted count color dx dy => cases h.left
  | turn quarters => cases h.left
  | advance steps => cases h
  | switch on axis index => cases h.left

namespace Program

/-!
## Lines of the screen
-/

/-- The primitives that a line stands for, with all its loops written out. -/
def screenRow (line : Int) (cs : List Char) : List Primitive :=
  match parseLine .pixel line cs with
  | .ok ops => (Op.expandAll ops).map Command.action
  | .error _ => []

def screenCells (line : Int) (cs : List Char) : List Cell :=
  ((screenRow line cs).take screenWidth).map Primitive.cell

/-- The cell that a text asks for at a place of the screen: the line of that row paints it with the
primitive at that column, and where there is none it stays unlit. -/
def screenCell (source : String) (row column : Nat) : Cell :=
  match (Text.lines source.toList)[row]? with
  | some cs => ((screenRow row cs)[column]?).elim none Primitive.cell
  | none => none

theorem length_screenCells_le (line : Int) (cs : List Char) :
    (screenCells line cs).length ≤ screenWidth := by
  unfold screenCells
  rw [List.length_map, List.length_take]
  exact Nat.min_le_left _ _

theorem getElem?_screenCells (line : Int) (cs : List Char) {column : Nat}
    (h : column < screenWidth) :
    (screenCells line cs)[column]?.getD none =
      ((screenRow line cs)[column]?).elim none Primitive.cell := by
  unfold screenCells
  rw [List.getElem?_map, List.getElem?_take_of_lt h]
  cases (screenRow line cs)[column]? with
  | none => rfl
  | some action => rfl

theorem loadLine_pixel {line : Int} {size extent : Option (Nat × Nat)} {cs : List Char}
    {actions : List Primitive}
    (h : loadLine .pixel line size cs = .ok (actions.map (Command.mk line), extent)) :
    actions = (screenCells line cs).map Cell.action ∧ extent = size := by
  have hallowed := (loadLine_adds h).allowed
  unfold loadLine at h
  rcases Attempts.bind_eq_ok_iff.mp h with ⟨ops, hops, hpure⟩
  rw [if_pos rfl] at hpure
  have hread := Attempts.pure_eq_ok_iff.mp hpure
  have hrow : (screenRow line cs).take screenWidth = actions := by
    unfold screenRow
    rw [hops, ← map_action_map_mk line actions, ← List.map_take, ← Op.expandAllUpTo_eq_take,
      (Prod.mk.inj hread).left]
  refine ⟨?_, (Prod.mk.inj hread).right.symm⟩
  unfold screenCells
  rw [hrow, List.map_map]
  refine (List.map_id _).symm.trans (List.map_congr_left fun action haction => ?_)
  exact (Primitive.action_cell (hallowed action haction)).symm

theorem loadLines_pixel {start : Int} {size extent : Option (Nat × Nat)}
    {lines : List (List Char)} {commands : List Command}
    (h : loadLines .pixel start size lines = .ok (commands, extent)) :
    commands = commandsOf start
      ((lines.mapIdx fun index cs => screenCells (start + index) cs).map (List.map Cell.action)) := by
  induction lines generalizing start size commands with
  | nil =>
      cases h
      rfl
  | cons cs rest ih =>
      rcases loadLines_cons h with ⟨actions, between, others, hline, hothers, rfl⟩
      have hshift : (fun (index : Nat) (cs : List Char) =>
            screenCells (start + ((index + 1 : Nat) : Int)) cs) =
          fun (index : Nat) cs => screenCells (start + 1 + (index : Int)) cs := by
        funext index cs
        congr 1
        omega
      rw [List.mapIdx_cons, List.map_cons, hshift, commandsOf, (loadLine_pixel hline).left,
        ih hothers]
      simp

def screenRows (source : String) : List (List Cell) :=
  (Text.lines source.toList).mapIdx fun index cs => screenCells index cs

theorem commands_of_load_pixel {source : String} {program : Program}
    (h : load .pixel source = .ok program) :
    program.commands = commandsOf 0 ((screenRows source).map (List.map Cell.action)) := by
  unfold load at h
  rcases Attempts.bind_eq_ok_iff.mp h with ⟨⟨commands, size⟩, hlines, hpure⟩
  cases Attempts.pure_eq_ok_iff.mp hpure
  have hcommands := loadLines_pixel hlines
  simp only [Int.zero_add] at hcommands
  exact hcommands

theorem length_screenRows_le {source : String} {cells : List Cell}
    (h : cells ∈ screenRows source) : cells.length ≤ screenWidth := by
  unfold screenRows at h
  rw [List.mem_mapIdx] at h
  rcases h with ⟨index, hindex, rfl⟩
  exact length_screenCells_le index _

theorem getD_screenRows (source : String) (row : Nat) {column : Nat} (h : column < screenWidth) :
    ((screenRows source)[row]?.getD [])[column]?.getD none = screenCell source row column := by
  unfold screenRows screenCell
  rw [List.getElem?_mapIdx]
  cases (Text.lines source.toList)[row]? with
  | none => rfl
  | some cs => exact getElem?_screenCells row cs h

theorem countP_line_commandsOf_le {start line : Int} {rows : List (List Primitive)} {bound : Nat}
    (h : forall row, row ∈ rows -> row.length ≤ bound) :
    (commandsOf start rows).countP (fun command => command.line == line) ≤ bound := by
  induction rows generalizing start with
  | nil => exact Nat.zero_le bound
  | cons row rest ih =>
      rw [commandsOf, List.countP_append]
      by_cases hstart : start = line
      · have hlater : (commandsOf (start + 1) rest).countP (fun command => command.line == line) =
            0 := by
          refine List.countP_eq_zero.mpr fun command hcommand hsame => ?_
          have hbelow := line_commandsOf_le hcommand
          rw [beq_iff_eq.mp hsame] at hbelow
          omega
        have hrow := h row (by simp)
        have hhere := List.countP_le_length
          (p := fun command : Command => command.line == line) (l := row.map (Command.mk start))
        rw [List.length_map] at hhere
        omega
      · have hhere : (row.map (Command.mk start)).countP (fun command => command.line == line) =
            0 := by
          refine List.countP_eq_zero.mpr fun command hcommand hsame => ?_
          rcases List.mem_map.mp hcommand with ⟨action, _, rfl⟩
          exact hstart (beq_iff_eq.mp hsame)
        rw [hhere, Nat.zero_add]
        exact ih fun other hother => h other (by simp [hother])

end Program
end Mosaic
