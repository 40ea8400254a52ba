import Mosaic.Program.Loading
import Mosaic.Proofs.Program.Loops
import Mosaic.Proofs.Program.Reading

/-!
# Streams of loaded programs

The commands of a loaded program stand in the order of their lines, each is one that the mode
allows, and in a mode that declares its size there is exactly one declaration, in front of all
other commands.  Only screen lines give more than one command.
-/

namespace Mosaic

theorem Mode.fixedSize_of_declaresSize {mode : Mode} (h : mode.declaresSize = true) :
    mode.fixedSize = none := by
  cases mode with
  | table => rfl
  | grid => rfl
  | _ => cases h

theorem Mode.ne_maze_of_declaresSize {mode : Mode} (h : mode.declaresSize = true) :
    mode ≠ .maze := by
  intro hmaze
  rw [hmaze] at h
  cases h

namespace Program

/-- What a loaded program promises to those who run it. -/
structure WellFormed (program : Program) : Prop where
  ordered : program.commands.Pairwise fun first second => first.line ≤ second.line
  separate : program.mode ≠ .pixel ->
    program.commands.Pairwise fun first second => first.line < second.line
  allowed : forall command, command ∈ program.commands -> program.mode.Allows command.action
  fixed : program.mode.declaresSize = false -> program.size = program.mode.fixedSize
  declared : program.mode.declaresSize = true ->
    program.commands = [] ∧ program.size = none ∨
      exists line rows columns rest,
        program.commands = ⟨line, .declare rows columns⟩ :: rest ∧
        program.size = some (rows, columns) ∧
        forall command, command ∈ rest -> command.action.isDeclaration = false

/-!
## Lines
-/

theorem parseLine_cases {mode : Mode} {line : Int} {cs : List Char} {ops : List Op}
    (h : parseLine mode line cs = .ok ops) :
    ops = [] ∨ (exists action, ops = [.once ⟨line, action⟩] ∧ mode.Allows action) ∨
      mode = .pixel ∧
        Op.EveryOf (fun command => command.line = line ∧ mode.Allows command.action) ops := by
  unfold parseLine at h
  simp only at h
  split at h
  · cases h
    exact Or.inl rfl
  · right
    cases mode with
    | table =>
        rcases Attempts.map_eq_ok_iff.mp h with ⟨action, haction, rfl⟩
        exact Or.inl ⟨action, rfl, tableLine_allowed haction⟩
    | grid =>
        rcases Attempts.map_eq_ok_iff.mp h with ⟨action, haction, rfl⟩
        exact Or.inl ⟨action, rfl, gridLine_allowed haction⟩
    | maze =>
        rcases Attempts.map_eq_ok_iff.mp h with ⟨action, haction, rfl⟩
        exact Or.inl ⟨action, rfl, mazeLine_allowed haction⟩
    | matrix =>
        rcases Attempts.map_eq_ok_iff.mp h with ⟨action, haction, rfl⟩
        exact Or.inl ⟨action, rfl, matrixLine_allowed haction⟩
    | pixel =>
        refine Or.inr ⟨rfl, Screen.lineOps_every ?_ h⟩
        intro text action haction
        rcases Screen.wordAction?_cases haction with rfl | ⟨color, rfl⟩
        · exact ⟨rfl, rfl⟩
        · exact ⟨rfl, rfl⟩

/-- What a line adds to a stream, and the size behind it. -/
structure LineAdds (mode : Mode) (size : Option (Nat × Nat)) (actions : List Primitive)
    (extent : Option (Nat × Nat)) : Prop where
  allowed : forall action, action ∈ actions -> mode.Allows action
  single : mode ≠ .pixel -> actions.length ≤ 1
  fixed : mode.declaresSize = false -> extent = size
  declared : mode.declaresSize = true ->
    actions = [] ∧ extent = size ∨
      (exists rows columns, size = none ∧ actions = [.declare rows columns] ∧
        extent = some (rows, columns)) ∨
      exists action, size ≠ none ∧ actions = [action] ∧ action.isDeclaration = false ∧
        extent = size

theorem sizeAfter_cases {line : Int} {size extent : Option (Nat × Nat)} {action : Primitive}
    (h : sizeAfter line size action = .ok extent) :
    (exists rows columns, size = none ∧ action = .declare rows columns ∧
      extent = some (rows, columns)) ∨
      size ≠ none ∧ action.isDeclaration = false ∧ extent = size := by
  unfold sizeAfter at h
  split at h
  · cases h
  · split at h
    · cases h
    · cases h
      exact Or.inl ⟨_, _, rfl, rfl, rfl⟩
  · rename_i hother
    cases h
    refine Or.inr ⟨by simp, ?_, rfl⟩
    cases action with
    | declare rows columns => exact absurd rfl (hother rows columns)
    | _ => rfl
  · cases h

theorem eq_map_mk_of_line {line : Int} {commands : List Command}
    (h : forall command, command ∈ commands -> command.line = line) :
    commands = (commands.map Command.action).map (Command.mk line) := by
  rw [List.map_map]
  refine ((List.map_id commands).symm.trans (List.map_congr_left fun command hcommand => ?_))
  show command = ⟨line, command.action⟩
  rw [← h command hcommand]

theorem map_action_map_mk (line : Int) (actions : List Primitive) :
    (actions.map (Command.mk line)).map Command.action = actions := by
  rw [List.map_map]
  exact List.map_id actions

theorem loadLine_cases {mode : Mode} {line : Int} {size extent : Option (Nat × Nat)}
    {cs : List Char} {commands : List Command}
    (h : loadLine mode line size cs = .ok (commands, extent)) :
    exists actions, commands = actions.map (Command.mk line) ∧
      LineAdds mode size actions extent := by
  unfold loadLine at h
  rcases Attempts.bind_eq_ok_iff.mp h with ⟨ops, hops, h⟩
  by_cases hpixel : mode = .pixel
  · subst hpixel
    rw [if_pos rfl] at h
    cases Attempts.pure_eq_ok_iff.mp h
    have hevery : Op.EveryOf (fun command => command.line = line ∧
        Mode.pixel.Allows command.action) ops := by
      rcases parseLine_cases hops with rfl | ⟨only, rfl, honly⟩ | ⟨_, hevery⟩
      · trivial
      · exact ⟨⟨rfl, honly⟩, trivial⟩
      · exact hevery
    have hcommands := @Op.of_mem_expandAllUpTo _ screenWidth ops hevery
    refine ⟨_, eq_map_mk_of_line fun command hcommand => (hcommands command hcommand).left, ?_⟩
    refine ⟨?_, fun hne => absurd rfl hne, fun _ => rfl, fun hsize => by cases hsize⟩
    intro action haction
    rcases List.mem_map.mp haction with ⟨command, hcommand, rfl⟩
    exact (hcommands command hcommand).right
  · rw [if_neg hpixel] at h
    have hactions : ops = [] ∨
        exists action, ops = [.once ⟨line, action⟩] ∧ mode.Allows action := by
      rcases parseLine_cases hops with hnil | honce | ⟨hmode, _⟩
      · exact Or.inl hnil
      · exact Or.inr honce
      · exact absurd hmode hpixel
    cases hsize : mode.declaresSize with
    | false =>
        have hfalse : Not (mode.declaresSize = true) := by simp [hsize]
        simp only [hsize, Bool.false_eq_true, if_false] at h
        cases Attempts.pure_eq_ok_iff.mp h
        rcases hactions with rfl | ⟨action, rfl, haction⟩
        · exact ⟨[], rfl, nofun, fun _ => Nat.zero_le 1, fun _ => rfl, fun h => absurd h hfalse⟩
        · exact ⟨[action], rfl, List.forall_mem_singleton.mpr haction, fun _ => Nat.le_refl 1,
            fun _ => rfl, fun h => absurd h hfalse⟩
    | true =>
        have hfixed : mode.declaresSize = false -> extent = size := by simp [hsize]
        simp only [hsize, if_true] at h
        rcases Attempts.bind_eq_ok_iff.mp h with ⟨after, hafter, h⟩
        cases Attempts.pure_eq_ok_iff.mp h
        rcases hactions with rfl | ⟨action, rfl, haction⟩
        · have hextent : size = extent := Attempts.pure_eq_ok_iff.mp hafter
          exact ⟨[], rfl, nofun, fun _ => Nat.zero_le 1, hfixed,
            fun _ => Or.inl ⟨rfl, hextent.symm⟩⟩
        · have hsizeAfter : sizeAfter line size action = .ok extent := by
            simpa [Op.expandAll, Op.expand] using hafter
          refine ⟨[action], rfl, List.forall_mem_singleton.mpr haction, fun _ => Nat.le_refl 1,
            hfixed, fun _ => ?_⟩
          rcases sizeAfter_cases hsizeAfter with ⟨rows, columns, hnone, rfl, rfl⟩ | hsome
          · exact Or.inr (Or.inl ⟨rows, columns, hnone, rfl, rfl⟩)
          · exact Or.inr (Or.inr ⟨action, hsome.left, rfl, hsome.right⟩)

theorem loadLine_adds {mode : Mode} {line : Int} {size extent : Option (Nat × Nat)}
    {cs : List Char} {actions : List Primitive}
    (h : loadLine mode line size cs = .ok (actions.map (Command.mk line), extent)) :
    LineAdds mode size actions extent := by
  rcases loadLine_cases h with ⟨others, hsame, hadds⟩
  have hactions := congrArg (List.map Command.action) hsame
  rw [map_action_map_mk, map_action_map_mk] at hactions
  rwa [hactions]

/-!
## Texts
-/

theorem loadLines_cons {mode : Mode} {line : Int} {size final : Option (Nat × Nat)}
    {cs : List Char} {rest : List (List Char)} {commands : List Command}
    (h : loadLines mode line size (cs :: rest) = .ok (commands, final)) :
    exists (actions : List Primitive) (extent : Option (Nat × Nat)) (others : List Command),
      loadLine mode line size cs = .ok (actions.map (Command.mk line), extent) ∧
        loadLines mode (line + 1) extent rest = .ok (others, final) ∧
        commands = actions.map (Command.mk line) ++ others := by
  rw [loadLines] at h
  rcases Attempts.bind_eq_ok_iff.mp h with ⟨⟨first, extent⟩, hline, h⟩
  rcases Attempts.bind_eq_ok_iff.mp h with ⟨⟨others, last⟩, hrest, h⟩
  cases Attempts.pure_eq_ok_iff.mp h
  rcases loadLine_cases hline with ⟨actions, rfl, _⟩
  exact ⟨actions, extent, others, hline, hrest, rfl⟩

theorem loadLines_nil (mode : Mode) (line : Int) (size : Option (Nat × Nat)) :
    loadLines mode line size [] = .ok ([], size) := rfl

theorem loadLines_of_loadLine {mode : Mode} {line : Int} {size extent final : Option (Nat × Nat)}
    {cs : List Char} {rest : List (List Char)} {commands others : List Command}
    (hline : loadLine mode line size cs = .ok (commands, extent))
    (hrest : loadLines mode (line + 1) extent rest = .ok (others, final)) :
    loadLines mode line size (cs :: rest) = .ok (commands ++ others, final) := by
  rw [loadLines, hline]
  simp only [bind, Except.bind, hrest]
  rfl

theorem loadLine_of_parseLine {mode : Mode} {line : Int} {size extent : Option (Nat × Nat)}
    {cs : List Char} {action : Primitive} (hmode : mode.declaresSize = true)
    (hparse : parseLine mode line cs = .ok [.once ⟨line, action⟩])
    (hsize : sizeAfter line size action = .ok extent) :
    loadLine mode line size cs = .ok ([⟨line, action⟩], extent) := by
  have hother : mode ≠ .pixel := by
    intro hpixel
    rw [hpixel] at hmode
    cases hmode
  have hexpand : Op.expandAll [.once ⟨line, action⟩] = [⟨line, action⟩] := rfl
  unfold loadLine
  rw [hparse]
  simp only [bind, Except.bind, if_neg hother, hmode, if_true, hexpand, List.map_cons, List.map_nil,
    List.foldlM_cons, List.foldlM_nil, hsize]
  rfl

theorem loadLines_line_le {mode : Mode} {line : Int} {size final : Option (Nat × Nat)}
    {rows : List (List Char)} {commands : List Command}
    (h : loadLines mode line size rows = .ok (commands, final)) :
    forall command, command ∈ commands -> line ≤ command.line := by
  induction rows generalizing line size commands with
  | nil =>
      cases h
      intro command hcommand
      cases hcommand
  | cons cs rest ih =>
      rcases loadLines_cons h with ⟨actions, extent, others, _, hrest, rfl⟩
      intro command hcommand
      rcases List.mem_append.mp hcommand with hhere | hlater
      · rcases List.mem_map.mp hhere with ⟨action, _, rfl⟩
        exact Int.le_refl line
      · have hle := ih hrest command hlater
        omega

theorem loadLines_ordered {mode : Mode} {line : Int} {size final : Option (Nat × Nat)}
    {rows : List (List Char)} {commands : List Command}
    (h : loadLines mode line size rows = .ok (commands, final)) :
    commands.Pairwise fun first second => first.line ≤ second.line := by
  induction rows generalizing line size commands with
  | nil =>
      cases h
      exact List.Pairwise.nil
  | cons cs rest ih =>
      rcases loadLines_cons h with ⟨actions, extent, others, _, hrest, rfl⟩
      refine List.pairwise_append.mpr ⟨?_, ih hrest, ?_⟩
      · apply List.pairwise_map.mpr
        exact List.pairwise_of_forall fun _ _ => Int.le_refl line
      · intro first hfirst second hsecond
        rcases List.mem_map.mp hfirst with ⟨action, _, rfl⟩
        have hle := loadLines_line_le hrest second hsecond
        show line ≤ second.line
        omega

theorem loadLines_separate {mode : Mode} (hmode : mode ≠ .pixel) {line : Int}
    {size final : Option (Nat × Nat)} {rows : List (List Char)} {commands : List Command}
    (h : loadLines mode line size rows = .ok (commands, final)) :
    commands.Pairwise fun first second => first.line < second.line := by
  induction rows generalizing line size commands with
  | nil =>
      cases h
      exact List.Pairwise.nil
  | cons cs rest ih =>
      rcases loadLines_cons h with ⟨actions, extent, others, hline, hrest, rfl⟩
      refine List.pairwise_append.mpr ⟨?_, ih hrest, ?_⟩
      · have hsingle := (loadLine_adds hline).single hmode
        match actions, hsingle with
        | [], _ => exact List.Pairwise.nil
        | [action], _ => exact List.pairwise_singleton _ _
      · intro first hfirst second hsecond
        rcases List.mem_map.mp hfirst with ⟨action, _, rfl⟩
        have hle := loadLines_line_le hrest second hsecond
        show line < second.line
        omega

theorem loadLines_allowed {mode : Mode} {line : Int} {size final : Option (Nat × Nat)}
    {rows : List (List Char)} {commands : List Command}
    (h : loadLines mode line size rows = .ok (commands, final)) :
    forall command, command ∈ commands -> mode.Allows command.action := by
  induction rows generalizing line size commands with
  | nil =>
      cases h
      intro command hcommand
      cases hcommand
  | cons cs rest ih =>
      rcases loadLines_cons h with ⟨actions, extent, others, hline, hrest, rfl⟩
      intro command hcommand
      rcases List.mem_append.mp hcommand with hhere | hlater
      · rcases List.mem_map.mp hhere with ⟨action, haction, rfl⟩
        exact (loadLine_adds hline).allowed action haction
      · exact ih hrest command hlater

theorem loadLines_fixed {mode : Mode} (hmode : mode.declaresSize = false) {line : Int}
    {size final : Option (Nat × Nat)} {rows : List (List Char)} {commands : List Command}
    (h : loadLines mode line size rows = .ok (commands, final)) : final = size := by
  induction rows generalizing line size commands with
  | nil =>
      cases h
      rfl
  | cons cs rest ih =>
      rcases loadLines_cons h with ⟨actions, extent, others, hline, hrest, rfl⟩
      rw [ih hrest, (loadLine_adds hline).fixed hmode]

theorem loadLines_declared_some {mode : Mode} (hmode : mode.declaresSize = true) {line : Int}
    {extent : Nat × Nat} {final : Option (Nat × Nat)} {rows : List (List Char)}
    {commands : List Command}
    (h : loadLines mode line (some extent) rows = .ok (commands, final)) :
    final = some extent ∧
      forall command, command ∈ commands -> command.action.isDeclaration = false := by
  induction rows generalizing line commands with
  | nil =>
      cases h
      exact ⟨rfl, fun command hcommand => by cases hcommand⟩
  | cons cs rest ih =>
      rcases loadLines_cons h with ⟨actions, after, others, hline, hrest, rfl⟩
      rcases (loadLine_adds hline).declared hmode with
        ⟨rfl, rfl⟩ | ⟨_, _, hnone, _⟩ | ⟨action, _, rfl, haction, rfl⟩
      · exact ih hrest
      · cases hnone
      · refine ⟨(ih hrest).left, ?_⟩
        intro command hcommand
        rcases List.mem_cons.mp hcommand with rfl | hlater
        · exact haction
        · exact (ih hrest).right command hlater

theorem loadLines_declared {mode : Mode} (hmode : mode.declaresSize = true) {line : Int}
    {final : Option (Nat × Nat)} {rows : List (List Char)} {commands : List Command}
    (h : loadLines mode line none rows = .ok (commands, final)) :
    commands = [] ∧ final = none ∨
      exists first rows columns rest,
        commands = ⟨first, .declare rows columns⟩ :: rest ∧ final = some (rows, columns) ∧
        forall command, command ∈ rest -> command.action.isDeclaration = false := by
  induction rows generalizing line commands with
  | nil =>
      cases h
      exact Or.inl ⟨rfl, rfl⟩
  | cons cs rest ih =>
      rcases loadLines_cons h with ⟨actions, after, others, hline, hrest, rfl⟩
      rcases (loadLine_adds hline).declared hmode with
        ⟨rfl, rfl⟩ | ⟨height, width, _, rfl, rfl⟩ | ⟨_, hsome, _⟩
      · exact ih hrest
      · have hothers := loadLines_declared_some hmode hrest
        exact Or.inr ⟨line, height, width, others, rfl, hothers.left, hothers.right⟩
      · exact absurd rfl hsome

theorem load_of_loadLines {mode : Mode} {source : String} {commands : List Command}
    {size : Option (Nat × Nat)}
    (h : loadLines mode 0 mode.fixedSize (Text.lines source.toList) = .ok (commands, size)) :
    load mode source = .ok ⟨mode, source, commands, size⟩ := by
  unfold load
  rw [h]
  rfl

theorem load_eq_ok {mode : Mode} {source : String} {program : Program}
    (h : load mode source = .ok program) :
    program.mode = mode ∧ program.source = source ∧
      loadLines mode 0 mode.fixedSize (Text.lines source.toList) =
        .ok (program.commands, program.size) := by
  unfold load at h
  rcases Attempts.bind_eq_ok_iff.mp h with ⟨⟨commands, size⟩, hlines, h⟩
  cases Attempts.pure_eq_ok_iff.mp h
  exact ⟨rfl, rfl, hlines⟩

theorem load_wellFormed {mode : Mode} {source : String} {program : Program}
    (h : load mode source = .ok program) : program.WellFormed := by
  rcases load_eq_ok h with ⟨hmode, _, hlines⟩
  refine ⟨loadLines_ordered hlines, ?_, ?_, ?_, ?_⟩
  · intro hpixel
    rw [hmode] at hpixel
    exact loadLines_separate hpixel hlines
  · rw [hmode]
    exact loadLines_allowed hlines
  · intro hdeclares
    rw [hmode] at hdeclares ⊢
    exact loadLines_fixed hdeclares hlines
  · intro hdeclares
    rw [hmode] at hdeclares
    have hfixed := Mode.fixedSize_of_declaresSize hdeclares
    rw [hfixed] at hlines
    exact loadLines_declared hdeclares hlines

end Program
end Mosaic
