import Mathlib.Data.List.Forall2
import Mosaic.Proofs.Program.Blaming
import Mosaic.Proofs.Program.Forms
import Mosaic.Proofs.Program.Tables

/-!
# Which programs are accepted

A text of TABLE or GRID loads exactly if each of its lines asks for something or is blank, and the
first that is not blank, and no other one, declares a size that is not too large.  Any other text is
refused for its first line that does not fit what stands above it: what stands above that line loads,
and what stands below it does not matter.
-/

namespace Mosaic
namespace Program

/-- What a line asks for: nothing if it is blank, and else one primitive, wherever it stands. -/
inductive Asks (mode : Mode) (cs : List Char) : List Primitive -> Prop
  | nothing (hblank : Text.IsGap cs) : Asks mode cs []
  | primitive {action : Primitive} (h : forall line, parseLine mode line cs = .ok [.once ⟨line, action⟩]) :
      Asks mode cs [action]

/-- Lines that declare no size and ask for nothing, or of which the first that asks for anything
declares the size, and no later one does. -/
inductive Structured : List (List Primitive) -> Option (Nat × Nat) -> Prop
  | empty {asked : List (List Primitive)} (h : forall actions, actions ∈ asked -> actions = []) :
      Structured asked none
  | table {front back : List (List Primitive)} {rows columns : Nat}
      (hfront : forall actions, actions ∈ front -> actions = []) (hsize : Declarable rows columns)
      (hback : forall actions, actions ∈ back -> forall action, action ∈ actions ->
        action.isDeclaration = false) :
      Structured (front ++ [.declare rows columns] :: back) (some (rows, columns))

/-!
## Lines
-/

theorem ne_pixel_of_declaresSize {mode : Mode} (h : mode.declaresSize = true) : mode ≠ .pixel := by
  rintro rfl
  cases h

theorem sizeAfter_none_iff {line : Int} {action : Primitive} {extent : Option (Nat × Nat)} :
    sizeAfter line none action = .ok extent ↔ exists rows columns, action = .declare rows columns ∧
      rows ≤ maxRows ∧ columns ≤ maxColumns ∧ extent = some (rows, columns) := by
  constructor
  · intro h
    cases action with
    | declare rows columns =>
        unfold sizeAfter at h
        simp only at h
        split at h
        · cases h
        · rename_i hfits
          cases h
          simp only [Bool.or_eq_true, decide_eq_true_eq] at hfits
          exact ⟨rows, columns, rfl, by omega, by omega, rfl⟩
    | _ => cases h
  · rintro ⟨rows, columns, rfl, hrows, hcolumns, rfl⟩
    exact sizeAfter_declare hrows hcolumns line

theorem sizeAfter_some_iff {line : Int} {size : Nat × Nat} {action : Primitive}
    {extent : Option (Nat × Nat)} :
    sizeAfter line (some size) action = .ok extent ↔
      action.isDeclaration = false ∧ extent = some size := by
  constructor
  · intro h
    rcases sizeAfter_cases h with ⟨_, _, hnone, _⟩ | ⟨_, hother, hsame⟩
    · cases hnone
    · exact ⟨hother, hsame⟩
  · rintro ⟨hother, rfl⟩
    exact sizeAfter_of_plain hother line size

theorem parseLine_elsewhere {mode : Mode} {line : Int} {cs : List Char} {action : Primitive}
    (h : parseLine mode line cs = .ok [.once ⟨line, action⟩]) (other : Int) :
    parseLine mode other cs = .ok [.once ⟨other, action⟩] := by
  rcases (uniform_parseLine mode cs).value_of_ok h with ⟨ops, hops, hother⟩
  rw [hother other]
  match ops, hops with
  | [.once ⟨start, only⟩], hops =>
      cases hops
      rfl

theorem loadLine_eq_ok_iff {mode : Mode} (hmode : mode.declaresSize = true) {line : Int}
    {size extent : Option (Nat × Nat)} {cs : List Char} {actions : List Primitive} :
    loadLine mode line size cs = .ok (actions.map (Command.mk line), extent) ↔
      Asks mode cs actions ∧ (actions = [] ∧ extent = size ∨
        exists action, actions = [action] ∧ sizeAfter line size action = .ok extent) := by
  have hother := ne_pixel_of_declaresSize hmode
  constructor
  · intro h
    unfold loadLine at h
    rcases Attempts.bind_eq_ok_iff.mp h with ⟨ops, hops, h⟩
    rw [if_neg hother, if_pos hmode] at h
    rcases Attempts.bind_eq_ok_iff.mp h with ⟨after, hafter, h⟩
    rcases Prod.mk.inj (Attempts.pure_eq_ok_iff.mp h) with ⟨hcommands, rfl⟩
    have hactions := congrArg (List.map Command.action) hcommands
    rw [map_action_map_mk] at hactions
    rcases parseLine_cases hops with rfl | ⟨action, rfl, _⟩ | ⟨hpixel, _⟩
    · cases hactions
      cases Attempts.pure_eq_ok_iff.mp hafter
      exact ⟨.nothing ((parseLine_eq_nil_iff hother).mp hops), Or.inl ⟨rfl, rfl⟩⟩
    · cases hactions
      refine ⟨.primitive fun other => parseLine_elsewhere hops other, Or.inr ⟨action, rfl, ?_⟩⟩
      simpa [Op.expandAll, Op.expand] using hafter
    · exact absurd hpixel hother
  · rintro ⟨hasks, hsizes⟩
    cases hasks with
    | nothing hblank =>
        rcases hsizes with ⟨_, rfl⟩ | ⟨action, hnone, _⟩
        · unfold loadLine
          rw [parseLine_of_blank mode line hblank]
          simp only [bind, Except.bind, if_neg hother, hmode, if_true]
          rfl
        · cases hnone
    | primitive hparse =>
        rcases hsizes with ⟨hnone, _⟩ | ⟨action, hsame, hsize⟩
        · cases hnone
        · cases hsame
          exact loadLine_of_parseLine hmode (hparse line) hsize

/-!
## Texts
-/

theorem loadLines_cons_iff {mode : Mode} {line : Int} {size final : Option (Nat × Nat)}
    {cs : List Char} {rest : List (List Char)} {commands : List Command} :
    loadLines mode line size (cs :: rest) = .ok (commands, final) ↔
      exists (actions : List Primitive) (extent : Option (Nat × Nat)) (others : List Command),
        loadLine mode line size cs = .ok (actions.map (Command.mk line), extent) ∧
          loadLines mode (line + 1) extent rest = .ok (others, final) ∧
          commands = actions.map (Command.mk line) ++ others := by
  constructor
  · exact loadLines_cons
  · rintro ⟨actions, extent, others, hline, hrest, rfl⟩
    exact loadLines_of_loadLine hline hrest

section Declaring

variable {mode : Mode}

theorem loadLines_some_iff (hmode : mode.declaresSize = true) {line : Int} {size : Nat × Nat}
    {final : Option (Nat × Nat)} {rows : List (List Char)} {commands : List Command} :
    loadLines mode line (some size) rows = .ok (commands, final) ↔
      exists asked, List.Forall₂ (Asks mode) rows asked ∧
        (forall actions, actions ∈ asked -> forall action, action ∈ actions ->
          action.isDeclaration = false) ∧
        commands = commandsOf line asked ∧ final = some size := by
  induction rows generalizing line commands with
  | nil =>
      constructor
      · intro h
        cases h
        exact ⟨[], .nil, nofun, rfl, rfl⟩
      · rintro ⟨asked, hasked, _, rfl, rfl⟩
        cases hasked
        rfl
  | cons cs rest ih =>
      rw [loadLines_cons_iff]
      constructor
      · rintro ⟨actions, extent, others, hline, hrest, rfl⟩
        rcases (loadLine_eq_ok_iff hmode).mp hline with
          ⟨hasks, ⟨rfl, rfl⟩ | ⟨action, rfl, hsize⟩⟩
        · rcases ih.mp hrest with ⟨asked, hasked, hplain, rfl, rfl⟩
          exact ⟨[] :: asked, .cons hasks hasked, List.forall_mem_cons.mpr ⟨nofun, hplain⟩, rfl, rfl⟩
        · rcases sizeAfter_some_iff.mp hsize with ⟨hother, rfl⟩
          rcases ih.mp hrest with ⟨asked, hasked, hplain, rfl, rfl⟩
          exact ⟨[action] :: asked, .cons hasks hasked,
            List.forall_mem_cons.mpr ⟨List.forall_mem_singleton.mpr hother, hplain⟩, rfl, rfl⟩
      · rintro ⟨asked, hasked, hplain, rfl, rfl⟩
        cases hasked with
        | cons hasks hothers =>
            rcases List.forall_mem_cons.mp hplain with ⟨hfirst, hlater⟩
            refine ⟨_, some size, _, (loadLine_eq_ok_iff hmode).mpr ⟨hasks, ?_⟩,
              ih.mpr ⟨_, hothers, hlater, rfl, rfl⟩, rfl⟩
            cases hasks with
            | nothing => exact Or.inl ⟨rfl, rfl⟩
            | primitive hparse =>
                exact Or.inr ⟨_, rfl,
                  sizeAfter_some_iff.mpr ⟨hfirst _ List.mem_cons_self, rfl⟩⟩

theorem declarable_of_asks {cs : List Char} {rows columns : Nat}
    (h : Asks mode cs [.declare rows columns]) (hrows : rows ≤ maxRows)
    (hcolumns : columns ≤ maxColumns) : Declarable rows columns := by
  cases h with
  | primitive hparse =>
      rcases parseLine_cases (hparse 0) with hnone | ⟨action, hsame, hallowed⟩ | ⟨_, hevery⟩
      · cases hnone
      · cases hsame
        exact ⟨hallowed.right.left, hallowed.right.right, hrows, hcolumns⟩
      · exact ⟨hevery.left.right.right.left, hevery.left.right.right.right, hrows, hcolumns⟩

theorem Structured.cons_blank {asked : List (List Primitive)} {size : Option (Nat × Nat)}
    (h : Structured asked size) : Structured ([] :: asked) size := by
  cases h with
  | empty h => exact .empty (List.forall_mem_cons.mpr ⟨rfl, h⟩)
  | table hfront hsize hback =>
      rw [← List.cons_append]
      exact .table (List.forall_mem_cons.mpr ⟨rfl, hfront⟩) hsize hback

/-- A structure whose first line asks for nothing is one without that line; else it declares the
size there. -/
theorem structured_cons_iff {actions : List Primitive} {asked : List (List Primitive)}
    {size : Option (Nat × Nat)} :
    Structured (actions :: asked) size ↔ actions = [] ∧ Structured asked size ∨
      exists rows columns, actions = [.declare rows columns] ∧ Declarable rows columns ∧
        (forall actions, actions ∈ asked -> forall action, action ∈ actions ->
          action.isDeclaration = false) ∧ size = some (rows, columns) := by
  constructor
  · intro h
    generalize hall : actions :: asked = whole at h
    cases h with
    | empty h =>
        rw [← hall, List.forall_mem_cons] at h
        exact Or.inl ⟨h.left, .empty h.right⟩
    | @table front back rows columns hfront hsize hback =>
        cases front with
        | nil =>
            cases hall
            exact Or.inr ⟨rows, columns, rfl, hsize, hback, rfl⟩
        | cons first others =>
            cases hall
            rw [List.forall_mem_cons] at hfront
            exact Or.inl ⟨hfront.left, .table hfront.right hsize hback⟩
  · rintro (⟨rfl, h⟩ | ⟨rows, columns, rfl, hsize, hback, rfl⟩)
    · exact h.cons_blank
    · exact @Structured.table [] asked rows columns nofun hsize hback

theorem loadLines_none_iff (hmode : mode.declaresSize = true) {line : Int}
    {final : Option (Nat × Nat)} {rows : List (List Char)} {commands : List Command} :
    loadLines mode line none rows = .ok (commands, final) ↔
      exists asked, List.Forall₂ (Asks mode) rows asked ∧ Structured asked final ∧
        commands = commandsOf line asked := by
  induction rows generalizing line commands with
  | nil =>
      constructor
      · intro h
        cases h
        exact ⟨[], .nil, .empty nofun, rfl⟩
      · rintro ⟨asked, hasked, hstructured, rfl⟩
        cases hasked
        generalize hnone : ([] : List (List Primitive)) = whole at hstructured
        cases hstructured with
        | empty => cases hnone; rfl
        | table => simp at hnone
  | cons cs rest ih =>
      rw [loadLines_cons_iff]
      constructor
      · rintro ⟨actions, extent, others, hline, hrest, rfl⟩
        rcases (loadLine_eq_ok_iff hmode).mp hline with
          ⟨hasks, ⟨rfl, rfl⟩ | ⟨action, rfl, hsize⟩⟩
        · rcases ih.mp hrest with ⟨asked, hasked, hstructured, rfl⟩
          exact ⟨[] :: asked, .cons hasks hasked, hstructured.cons_blank, rfl⟩
        · rcases sizeAfter_none_iff.mp hsize with ⟨height, width, rfl, hheight, hwidth, rfl⟩
          rcases (loadLines_some_iff hmode).mp hrest with ⟨asked, hasked, hplain, rfl, rfl⟩
          exact ⟨_ :: asked, .cons hasks hasked, structured_cons_iff.mpr (Or.inr
            ⟨height, width, rfl, declarable_of_asks hasks hheight hwidth, hplain, rfl⟩), rfl⟩
      · rintro ⟨asked, hasked, hstructured, rfl⟩
        cases hasked with
        | cons hasks hothers =>
            rcases structured_cons_iff.mp hstructured with
              ⟨rfl, hlater⟩ | ⟨height, width, rfl, hsize, hplain, rfl⟩
            · exact ⟨[], none, _, (loadLine_eq_ok_iff hmode).mpr ⟨hasks, Or.inl ⟨rfl, rfl⟩⟩,
                ih.mpr ⟨_, hothers, hlater, rfl⟩, rfl⟩
            · have hdeclared : sizeAfter line none (.declare height width) =
                  .ok (some (height, width)) := sizeAfter_declare hsize.height hsize.width line
              exact ⟨_, _, _, (loadLine_eq_ok_iff hmode).mpr ⟨hasks, Or.inr ⟨_, rfl, hdeclared⟩⟩,
                (loadLines_some_iff hmode).mpr ⟨_, hothers, hplain, rfl, rfl⟩, rfl⟩

theorem load_eq_ok_iff (hmode : mode.declaresSize = true) {source : String} {program : Program} :
    load mode source = .ok program ↔ exists asked size,
      List.Forall₂ (Asks mode) (Text.lines source.toList) asked ∧ Structured asked size ∧
        program = ⟨mode, source, commandsOf 0 asked, size⟩ := by
  have hfixed := Mode.fixedSize_of_declaresSize hmode
  constructor
  · intro h
    rcases load_eq_ok h with ⟨hsame, hsource, hlines⟩
    rw [hfixed] at hlines
    rcases (loadLines_none_iff hmode).mp hlines with ⟨asked, hasked, hstructured, hcommands⟩
    rcases program with ⟨_, _, _, size⟩
    cases hsame
    cases hsource
    cases hcommands
    exact ⟨asked, size, hasked, hstructured, rfl⟩
  · rintro ⟨asked, size, hasked, hstructured, rfl⟩
    have hlines : loadLines mode 0 none (Text.lines source.toList) = .ok (commandsOf 0 asked, size) :=
      (loadLines_none_iff hmode).mpr ⟨asked, hasked, hstructured, rfl⟩
    unfold load
    rw [hfixed, hlines]
    rfl

end Declaring

/-!
## The first line that does not fit
-/

theorem loadLines_eq_error_iff {mode : Mode} {line : Int} {size : Option (Nat × Nat)}
    {rows : List (List Char)} {fault : Fault} :
    loadLines mode line size rows = .error fault ↔
      exists before cs after commands extent, rows = before ++ cs :: after ∧
        loadLines mode line size before = .ok (commands, extent) ∧
        loadLine mode (line + before.length) extent cs = .error fault := by
  have hcount : forall (line : Int) (others : List (List Char)),
      line + 1 + (others.length : Nat) = line + (others.length + 1 : Nat) := by
    intro line others
    omega
  constructor
  · intro h
    induction rows generalizing line size with
    | nil => cases h
    | cons first rest ih =>
        rw [loadLines] at h
        rcases Attempts.bind_eq_error_iff.mp h with hfirst | ⟨⟨actions, after⟩, hline, h⟩
        · exact ⟨[], first, rest, [], size, rfl, rfl, by simpa using hfirst⟩
        · rcases Attempts.bind_eq_error_iff.mp h with hrest | ⟨_, _, hpure⟩
          · rcases ih hrest with ⟨before, cs, behind, commands, extent, rfl, hbefore, hfault⟩
            rw [hcount] at hfault
            exact ⟨first :: before, cs, behind, _, extent, rfl, loadLines_of_loadLine hline hbefore,
              hfault⟩
          · cases hpure
  · rintro ⟨before, cs, after, commands, extent, rfl, hbefore, hfault⟩
    induction before generalizing line size commands with
    | nil =>
        cases hbefore
        rw [List.length_nil] at hfault
        rw [List.nil_append, loadLines, show line = line + (0 : Nat) by omega, hfault]
        rfl
    | cons first others ih =>
        rcases loadLines_cons hbefore with ⟨actions, middle, later, hfirst, hothers, _⟩
        rw [List.length_cons, ← hcount] at hfault
        rw [List.cons_append, loadLines, hfirst]
        show loadLines mode (line + 1) middle (others ++ cs :: after) >>= _ = _
        rw [ih later hothers hfault]
        rfl

theorem load_eq_error_iff {mode : Mode} {source : String} {fault : Fault} :
    load mode source = .error fault ↔
      loadLines mode 0 mode.fixedSize (Text.lines source.toList) = .error fault := by
  unfold load
  rw [Attempts.bind_eq_error_iff]
  constructor
  · rintro (h | ⟨_, _, hpure⟩)
    · exact h
    · cases hpure
  · exact Or.inl

theorem load_of_front {mode : Mode} {source : String} {before after : List (List Char)}
    (hlines : Text.lines source.toList = before ++ after)
    {read : List Command × Option (Nat × Nat)}
    (hbefore : loadLines mode 0 mode.fixedSize before = .ok read) :
    exists program, load mode (String.ofList (Text.joinLines before)) = .ok program := by
  unfold load
  rw [String.toList_ofList]
  cases before with
  | nil =>
      have hempty : Text.lines (Text.joinLines []) = [[]] := rfl
      have hblank : forall size, loadLines mode 0 size [[]] = .ok ([], size) := by
        intro size
        cases mode with
        | _ => rfl
      rw [hempty, hblank]
      exact ⟨_, rfl⟩
  | cons first others =>
      have hfeed : forall row, row ∈ first :: others -> '\n' ∉ row := by
        intro row hrow
        have hmem : row ∈ Text.lines source.toList := by
          rw [hlines]
          exact List.mem_append_left _ hrow
        exact Text.no_feed_of_mem_lines hmem
      rw [Text.lines_joinLines (List.cons_ne_nil _ _) hfeed, hbefore]
      exact ⟨_, rfl⟩

/-- A problem names a line of the text, what stands above it loads, and what stands below it does
not matter. -/
theorem problem_of_load {mode : Mode} {source : String} {problem : Problem}
    (h : load mode source = .error (.program problem)) :
    exists n : Nat, problem.line = n ∧ n < (Text.lines source.toList).length ∧
      (exists program, load mode
        (String.ofList (Text.joinLines ((Text.lines source.toList).take n))) = .ok program) ∧
      forall other : String,
        (Text.lines other.toList).take (n + 1) = (Text.lines source.toList).take (n + 1) ->
          load mode other = .error (.program problem) := by
  rcases loadLines_eq_error_iff.mp (load_eq_error_iff.mp h) with
    ⟨before, cs, after, commands, extent, hlines, hbefore, hfault⟩
  have hfront : (before ++ cs :: after).take before.length = before := by simp
  have hshared : (before ++ cs :: after).take (before.length + 1) = before ++ [cs] := by
    rw [List.take_append, List.take_of_length_le (Nat.le_succ _), Nat.add_sub_cancel_left]
    rfl
  refine ⟨before.length, ?_, ?_, ?_, ?_⟩
  · have hline := ((uniform_loadLine mode extent cs).problem_of_error hfault).left
    rw [hline, Int.zero_add]
  · rw [hlines, List.length_append, List.length_cons]
    omega
  · rw [hlines, hfront]
    exact load_of_front hlines hbefore
  · intro other hother
    rw [hlines, hshared] at hother
    rw [load_eq_error_iff, loadLines_eq_error_iff]
    refine ⟨before, cs, (Text.lines other.toList).drop (before.length + 1), commands, extent, ?_,
      hbefore, hfault⟩
    have hsplit := List.take_append_drop (before.length + 1) (Text.lines other.toList)
    rw [hother, List.append_assoc, List.singleton_append] at hsplit
    exact hsplit.symm

/-- Exactly the texts with a structure load in TABLE and GRID, and they give what their lines ask
for.  Other texts have a problem, as far as their numbers can be read.  In every mode, a problem is
that of the first line that does not fit. -/
theorem load_by_structure (mode : Mode) (source : String) :
    (mode.declaresSize = true ->
      (forall program, load mode source = .ok program ↔ exists asked size,
        List.Forall₂ (Asks mode) (Text.lines source.toList) asked ∧ Structured asked size ∧
          program = ⟨mode, source, commandsOf 0 asked, size⟩) ∧
      (Text.HasShortNumbers source.toList ->
        (exists program, load mode source = .ok program) ∨
          exists problem, load mode source = .error (.program problem))) ∧
    forall problem, load mode source = .error (.program problem) ->
      exists n : Nat, problem.line = n ∧ n < (Text.lines source.toList).length ∧
        (exists program, load mode
          (String.ofList (Text.joinLines ((Text.lines source.toList).take n))) = .ok program) ∧
        forall other : String,
          (Text.lines other.toList).take (n + 1) = (Text.lines source.toList).take (n + 1) ->
            load mode other = .error (.program problem) := by
  refine ⟨fun hmode => ⟨fun program => load_eq_ok_iff hmode, fun hshort => ?_⟩,
    fun problem h => problem_of_load h⟩
  rcases (failsOver_load_of_short (ne_pixel_of_declaresSize hmode) hshort).cases with
    ⟨hfalse, _⟩ | ⟨_, hproblem | hloads⟩
  · cases hfalse
  · exact Or.inr hproblem
  · exact Or.inl hloads

theorem load_twoDeclarations : load .table "\n2#3\n2#3" = .error (.program ⟨2, .secondDeclaration⟩) := by
  have hlines : Text.lines "\n2#3\n2#3".toList =
      [[], (Primitive.declare 2 3).written, (Primitive.declare 2 3).written] := by decide
  have hwritable : (Primitive.declare 2 3).IsWritable .table :=
    ⟨rfl, by decide, by decide, isWritable_of_small (by decide), isWritable_of_small (by decide)⟩
  have hblank : loadLine .table 0 none [] = .ok ([], none) := rfl
  have hfirst : loadLine .table 1 none (Primitive.declare 2 3).written = .ok _ :=
    loadLine_of_parseLine rfl (parseLine_written hwritable 1) rfl
  have hagain : loadLine .table 2 (some (2, 3)) (Primitive.declare 2 3).written =
      .error (.program ⟨2, .secondDeclaration⟩) := by
    unfold loadLine
    rw [parseLine_written hwritable]
    rfl
  rw [load_eq_error_iff, hlines, loadLines_eq_error_iff]
  exact ⟨[_, _], _, [], _, _, rfl,
    loadLines_of_loadLine hblank (loadLines_of_loadLine hfirst (loadLines_nil _ _ _)), hagain⟩

/-- A second declaration: the text has no structure and is refused, the text in front of that line
loads, and what follows the line does not matter. -/
theorem load_by_structure_twoDeclarations :
    Text.HasShortNumbers "\n2#3\n2#3".toList ∧
      load .table "\n2#3\n2#3" = .error (.program ⟨2, .secondDeclaration⟩) ∧
      Not (exists asked size,
        List.Forall₂ (Asks .table) (Text.lines "\n2#3\n2#3".toList) asked ∧ Structured asked size) ∧
      (exists program, load .table "\n2#3" = .ok program) ∧
      load .table "\n2#3\n2#3\nno table" = .error (.program ⟨2, .secondDeclaration⟩) := by
  have hshort : Text.HasShortNumbers "\n2#3\n2#3".toList :=
    Text.hasShortNumbers_of_length (by decide)
  rcases load_by_structure .table "\n2#3\n2#3" with ⟨hdeclares, hfirst⟩
  rcases hdeclares rfl with ⟨hstructure, hrefused⟩
  have hnone : Not (exists asked size,
      List.Forall₂ (Asks .table) (Text.lines "\n2#3\n2#3".toList) asked ∧
        Structured asked size) := by
    rintro ⟨asked, size, hasked, hstructured⟩
    cases load_twoDeclarations.symm.trans
      ((hstructure _).mpr ⟨asked, size, hasked, hstructured, rfl⟩)
  rcases hrefused hshort with ⟨program, hprogram⟩ | ⟨problem, hproblem⟩
  · rcases (hstructure program).mp hprogram with ⟨asked, size, hasked, hstructured, _⟩
    exact absurd ⟨asked, size, hasked, hstructured⟩ hnone
  · cases load_twoDeclarations.symm.trans hproblem
    rcases hfirst _ hproblem with ⟨n, hn, _, habove, hbelow⟩
    cases Int.ofNat_inj.mp hn
    refine ⟨hshort, hproblem, hnone, ?_, hbelow "\n2#3\n2#3\nno table" (by decide)⟩
    have hcut : String.ofList (Text.joinLines ((Text.lines "\n2#3\n2#3".toList).take 2)) =
        "\n2#3" := by decide
    rwa [hcut] at habove

end Program
end Mosaic
