import Mathlib.Data.List.Chain
import Mathlib.Data.List.Forall2
import Mosaic.Proofs.Run.Screens
import Mosaic.Run.Replay

/-!
# Batches of commands

A stream of commands falls into stretches, each of them on one line, and two side by side on
different lines.  Its batches are the intervals of these stretches: they lie one behind the other and
cover the whole stream.

The stretches of a loaded program are the lines of its text, without the blank ones and those of which
nothing is left when they are written out.  So there are as many batches as lines with commands, and
each batch holds all commands of its line.
-/

namespace Mosaic
namespace Program

/-!
## Intervals of indices
-/

/-- Intervals of indices that lie one behind the other from a first index up to a last one, none of
them empty. -/
inductive Tiles : Nat -> List (Nat × Nat) -> Nat -> Prop
  | nil (stop : Nat) : Tiles stop [] stop
  | cons {start middle stop : Nat} {rest : List (Nat × Nat)} (nonempty : start < middle)
      (behind : Tiles middle rest stop) : Tiles start ((start, middle) :: rest) stop

def within (commands : List Command) (interval : Nat × Nat) : List Command :=
  (commands.drop interval.1).take (interval.2 - interval.1)

theorem within_append (before batch after : List Command) :
    within (before ++ (batch ++ after)) (before.length, before.length + batch.length) = batch := by
  unfold within
  rw [List.drop_left, Nat.add_sub_cancel_left, List.take_left]

/-!
## Stretches
-/

/-- What stands on a line, one after the other. -/
structure Stretch where
  line : Int
  actions : List Primitive

namespace Stretch

def commands (stretch : Stretch) : List Command := stretch.actions.map (Command.mk stretch.line)

def allCommands (stretches : List Stretch) : List Command := stretches.flatMap commands

theorem allCommands_cons (stretch : Stretch) (rest : List Stretch) :
    allCommands (stretch :: rest) = stretch.commands ++ allCommands rest := rfl

theorem line_of_mem_commands {stretch : Stretch} {command : Command}
    (h : command ∈ stretch.commands) : command.line = stretch.line := by
  rcases List.mem_map.mp h with ⟨action, _, rfl⟩
  rfl

/-- Stretches with something in each, and a change of the line between any two side by side. -/
structure AreApart (stretches : List Stretch) : Prop where
  full : forall stretch, stretch ∈ stretches -> stretch.actions ≠ []
  changing : stretches.IsChain fun first second => first.line ≠ second.line

theorem AreApart.tail {stretch : Stretch} {rest : List Stretch} (h : AreApart (stretch :: rest)) :
    AreApart rest :=
  ⟨fun other hother => h.full other (List.mem_cons_of_mem stretch hother), h.changing.tail⟩

theorem exists_stretches (commands : List Command) :
    exists stretches, AreApart stretches ∧ allCommands stretches = commands := by
  induction commands with
  | nil => exact ⟨[], ⟨nofun, List.isChain_nil⟩, rfl⟩
  | cons command rest ih =>
      rcases ih with ⟨stretches, hapart, rfl⟩
      cases stretches with
      | nil => exact ⟨[⟨command.line, [command.action]⟩], ⟨by simp, List.isChain_singleton _⟩, rfl⟩
      | cons stretch others =>
          have hbehind := List.isChain_cons.mp hapart.changing
          by_cases hsame : command.line = stretch.line
          · -- the command is on the line of the first stretch and belongs to it
            refine ⟨⟨stretch.line, command.action :: stretch.actions⟩ :: others, ⟨?_, ?_⟩, ?_⟩
            · intro other hother
              rcases List.mem_cons.mp hother with rfl | hlater
              · exact List.cons_ne_nil _ _
              · exact hapart.full other (List.mem_cons_of_mem stretch hlater)
            · exact List.isChain_cons.mpr hbehind
            · show Command.mk stretch.line command.action :: _ = command :: _
              exact congrArg (· :: _) (congrArg (Command.mk · command.action) hsame.symm)
          · refine ⟨⟨command.line, [command.action]⟩ :: stretch :: others, ⟨?_, ?_⟩, rfl⟩
            · intro other hother
              rcases List.mem_cons.mp hother with rfl | hlater
              · exact List.cons_ne_nil _ _
              · exact hapart.full other hlater
            · exact List.isChain_cons_cons.mpr ⟨hsame, hapart.changing⟩

/-!
## Intervals of stretches
-/

def intervals (start : Nat) : List Stretch -> List (Nat × Nat)
  | [] => []
  | stretch :: rest =>
      (start, start + stretch.actions.length) :: intervals (start + stretch.actions.length) rest

@[simp] theorem length_intervals (start : Nat) (stretches : List Stretch) :
    (intervals start stretches).length = stretches.length := by
  induction stretches generalizing start with
  | nil => rfl
  | cons stretch rest ih => rw [intervals, List.length_cons, ih, List.length_cons]

theorem head_allCommands {stretches : List Stretch} (h : AreApart stretches) :
    (allCommands stretches).head?.map Command.line = stretches.head?.map line := by
  cases stretches with
  | nil => rfl
  | cons stretch rest =>
      rcases stretch with ⟨line, actions⟩
      cases actions with
      | nil => exact absurd rfl (h.full _ List.mem_cons_self)
      | cons action others => rfl

/-- The batches of a stream are the intervals of its stretches. -/
theorem batchesFrom_allCommands (start : Nat) {stretches : List Stretch} (h : AreApart stretches) :
    batchesFrom start (allCommands stretches) = intervals start stretches := by
  induction stretches generalizing start with
  | nil =>
      rw [allCommands, List.flatMap_nil, batchesFrom]
      rfl
  | cons stretch rest ih =>
      rcases stretch with ⟨line, actions⟩
      cases actions with
      | nil => exact absurd rfl (h.full _ List.mem_cons_self)
      | cons action others =>
          have hhere : forall command, command ∈ others.map (Command.mk line) ->
              (command.line == line) = true := by
            intro command hcommand
            rcases List.mem_map.mp hcommand with ⟨other, _, rfl⟩
            exact beq_self_eq_true line
          have hbehind : forall command, (allCommands rest).head? = some command ->
              (command.line == line) = false := by
            intro command hcommand
            have hnext := head_allCommands h.tail
            rw [hcommand, Option.map_some] at hnext
            rcases Option.map_eq_some_iff.mp hnext.symm with ⟨next, hfirst, hline⟩
            have hchange := (List.isChain_cons.mp h.changing).left next hfirst
            rw [beq_eq_false_iff_ne, ← hline]
            exact fun hsame => hchange hsame.symm
          rcases Text.run_append hhere hbehind with ⟨hbatch, hrest⟩
          have hlength : start + 1 + others.length = start + (action :: others).length := by
            rw [List.length_cons]
            omega
          show batchesFrom start
            (⟨line, action⟩ :: (others.map (Command.mk line) ++ allCommands rest)) = _
          rw [batchesFrom]
          simp only [hbatch, hrest, List.length_map, hlength, ih _ h.tail]
          rfl

theorem tiles_intervals (start : Nat) {stretches : List Stretch} (h : AreApart stretches) :
    Tiles start (intervals start stretches) (start + (allCommands stretches).length) := by
  induction stretches generalizing start with
  | nil => exact Tiles.nil start
  | cons stretch rest ih =>
      have hfull := List.length_pos_of_ne_nil (h.full stretch List.mem_cons_self)
      rw [allCommands_cons, List.length_append, ← Nat.add_assoc, commands, List.length_map]
      exact Tiles.cons (by omega) (ih (start + stretch.actions.length) h.tail)

theorem within_intervals (before : List Command) (stretches : List Stretch) :
    List.Forall₂ (fun interval stretch =>
        within (before ++ allCommands stretches) interval = commands stretch)
      (intervals before.length stretches) stretches := by
  induction stretches generalizing before with
  | nil => exact List.Forall₂.nil
  | cons stretch rest ih =>
      have hlength : stretch.actions.length = (commands stretch).length := by
        rw [commands, List.length_map]
      have hbehind := ih (before ++ commands stretch)
      rw [List.append_assoc, List.length_append, ← hlength] at hbehind
      refine List.Forall₂.cons ?_ hbehind
      rw [hlength]
      exact within_append before (commands stretch) (allCommands rest)

theorem exists_of_mem_intervals {stretches : List Stretch} {interval : Nat × Nat}
    (h : interval ∈ intervals 0 stretches) : exists stretch, stretch ∈ stretches ∧
      within (allCommands stretches) interval = commands stretch := by
  have hall := within_intervals [] stretches
  rcases List.mem_iff_getElem.mp h with ⟨index, hindex, rfl⟩
  have hinside : index < stretches.length := by rwa [length_intervals] at hindex
  exact ⟨stretches[index], List.getElem_mem hinside, hall.get hindex hinside⟩

end Stretch

/-!
## Loaded programs
-/

def stretchesOf (start : Int) : List (List Primitive) -> List Stretch
  | [] => []
  | row :: rest =>
      if row = [] then stretchesOf (start + 1) rest else ⟨start, row⟩ :: stretchesOf (start + 1) rest

theorem allCommands_stretchesOf (start : Int) (rows : List (List Primitive)) :
    Stretch.allCommands (stretchesOf start rows) = commandsOf start rows := by
  induction rows generalizing start with
  | nil => rfl
  | cons row rest ih =>
      rw [stretchesOf, commandsOf]
      split
      · rename_i hrow
        rw [ih, hrow]
        rfl
      · rw [Stretch.allCommands_cons, ih]
        rfl

theorem mem_stretchesOf {start : Int} {rows : List (List Primitive)} {stretch : Stretch}
    (h : stretch ∈ stretchesOf start rows) :
    stretch.actions ≠ [] ∧
      exists n : Nat, stretch.line = start + n ∧ rows[n]? = some stretch.actions := by
  induction rows generalizing start with
  | nil => cases h
  | cons row rest ih =>
      rw [stretchesOf] at h
      have hlater : stretch ∈ stretchesOf (start + 1) rest -> stretch.actions ≠ [] ∧
          exists n : Nat, stretch.line = start + n ∧ (row :: rest)[n]? = some stretch.actions := by
        intro hmem
        rcases ih hmem with ⟨hfull, n, hline, hrow⟩
        exact ⟨hfull, n + 1, by rw [hline]; omega, hrow⟩
      split at h
      · exact hlater h
      · rename_i hfull
        rcases List.mem_cons.mp h with rfl | hmem
        · exact ⟨hfull, 0, by simp, rfl⟩
        · exact hlater hmem

theorem pairwise_stretchesOf (start : Int) (rows : List (List Primitive)) :
    (stretchesOf start rows).Pairwise fun first second => first.line < second.line := by
  induction rows generalizing start with
  | nil => exact List.Pairwise.nil
  | cons row rest ih =>
      rw [stretchesOf]
      split
      · exact ih (start + 1)
      · refine List.pairwise_cons.mpr ⟨?_, ih (start + 1)⟩
        intro stretch hstretch
        rcases (mem_stretchesOf hstretch).right with ⟨n, hline, _⟩
        show start < stretch.line
        omega

theorem areApart_stretchesOf (start : Int) (rows : List (List Primitive)) :
    Stretch.AreApart (stretchesOf start rows) := by
  refine ⟨fun stretch hstretch => (mem_stretchesOf hstretch).left, ?_⟩
  exact (pairwise_stretchesOf start rows).isChain.imp fun _ _ hlt => Int.ne_of_lt hlt

theorem eraseDups_allCommands {stretches : List Stretch}
    (hfull : forall stretch, stretch ∈ stretches -> stretch.actions ≠ [])
    (hlines : stretches.Pairwise fun first second => first.line < second.line) :
    ((Stretch.allCommands stretches).map Command.line).eraseDups = stretches.map Stretch.line := by
  induction stretches with
  | nil => rfl
  | cons stretch rest ih =>
      rcases List.pairwise_cons.mp hlines with ⟨hbelow, hrest⟩
      have hfresh : forall line, line ∈ (Stretch.allCommands rest).map Command.line ->
          line ∉ List.replicate stretch.actions.length stretch.line := by
        intro line hline hmem
        rcases List.mem_map.mp hline with ⟨command, hcommand, rfl⟩
        rcases List.mem_flatMap.mp hcommand with ⟨other, hother, hother'⟩
        have hlt := hbelow other hother
        rw [Stretch.line_of_mem_commands hother', List.mem_replicate] at hmem
        omega
      have hlength := List.length_pos_of_ne_nil (hfull stretch List.mem_cons_self)
      have hone : (List.replicate stretch.actions.length stretch.line).eraseDups = [stretch.line] := by
        rcases Nat.exists_eq_add_one.mpr hlength with ⟨count, hcount⟩
        rw [hcount]
        simp [List.replicate_succ, List.eraseDups_cons]
      rw [Stretch.allCommands_cons, List.map_append, Stretch.commands, map_line_row,
        List.eraseDups_append, removeAll_of_fresh hfresh, hone, ih (fun other hother => hfull other (by simp [hother])) hrest]
      rfl

/-- The commands that a line gives: a screen line is written out as far as it fills a row. -/
def lineCommands (mode : Mode) (ops : List Op) : List Command :=
  if mode = .pixel then Op.expandAllUpTo screenWidth ops else Op.expandAll ops

theorem parseLine_of_loadLine {mode : Mode} {line : Int} {size extent : Option (Nat × Nat)}
    {cs : List Char} {commands : List Command}
    (h : loadLine mode line size cs = .ok (commands, extent)) :
    exists ops, parseLine mode line cs = .ok ops ∧ commands = lineCommands mode ops := by
  unfold loadLine at h
  rcases Attempts.bind_eq_ok_iff.mp h with ⟨ops, hops, h⟩
  refine ⟨ops, hops, ?_⟩
  unfold lineCommands
  split at h
  · rename_i hpixel
    rw [if_pos hpixel]
    cases Attempts.pure_eq_ok_iff.mp h
    rfl
  · rename_i hpixel
    rw [if_neg hpixel]
    split at h
    · rcases Attempts.bind_eq_ok_iff.mp h with ⟨after, _, h⟩
      cases Attempts.pure_eq_ok_iff.mp h
      rfl
    · cases Attempts.pure_eq_ok_iff.mp h
      rfl

theorem exists_rows_of_loadLines {mode : Mode} {line : Int} {size final : Option (Nat × Nat)}
    {texts : List (List Char)} {commands : List Command}
    (h : loadLines mode line size texts = .ok (commands, final)) :
    exists rows, commands = commandsOf line rows ∧
      forall (n : Nat) (row : List Primitive), rows[n]? = some row ->
        exists cs ops, texts[n]? = some cs ∧ parseLine mode (line + n) cs = .ok ops ∧
          row.map (Command.mk (line + n)) = lineCommands mode ops := by
  induction texts generalizing line size commands with
  | nil =>
      cases h
      exact ⟨[], rfl, by simp⟩
  | cons cs rest ih =>
      rcases loadLines_cons h with ⟨actions, extent, others, hline, hrest, rfl⟩
      rcases ih hrest with ⟨rows, rfl, hrows⟩
      rcases parseLine_of_loadLine hline with ⟨ops, hops, hcommands⟩
      refine ⟨actions :: rows, rfl, ?_⟩
      intro n row hrow
      cases n with
      | zero =>
          cases hrow
          rw [show line + ((0 : Nat) : Int) = line by omega]
          exact ⟨cs, ops, rfl, hops, hcommands⟩
      | succ n =>
          rw [show line + ((n + 1 : Nat) : Int) = line + 1 + n by omega]
          exact hrows n row hrow

/-- On different lines, a stretch is all that there is on its line. -/
theorem filter_allCommands {stretches : List Stretch}
    (hlines : stretches.Pairwise fun first second => first.line < second.line) {stretch : Stretch}
    (h : stretch ∈ stretches) :
    ((Stretch.allCommands stretches).filter fun command => command.line = stretch.line) =
      stretch.commands := by
  have hall : forall other : Stretch, other.line = stretch.line ->
      (other.commands.filter fun command => command.line = stretch.line) = other.commands := by
    intro other hother
    rw [List.filter_eq_self]
    intro command hcommand
    rw [decide_eq_true_eq, Stretch.line_of_mem_commands hcommand, hother]
  have hnone : forall commands : List Command,
      (forall command, command ∈ commands -> command.line ≠ stretch.line) ->
        (commands.filter fun command => command.line = stretch.line) = [] := by
    intro commands hcommands
    rw [List.filter_eq_nil_iff]
    intro command hcommand
    rw [decide_eq_true_eq]
    exact hcommands command hcommand
  induction stretches with
  | nil => cases h
  | cons first rest ih =>
      rcases List.pairwise_cons.mp hlines with ⟨hbelow, hrest⟩
      rw [Stretch.allCommands_cons, List.filter_append]
      rcases List.mem_cons.mp h with rfl | hlater
      · rw [hall stretch rfl, hnone, List.append_nil]
        intro command hcommand
        rcases List.mem_flatMap.mp hcommand with ⟨other, hother, hmem⟩
        have hlt := hbelow other hother
        rw [Stretch.line_of_mem_commands hmem]
        omega
      · rw [ih hrest hlater, hnone, List.nil_append]
        intro command hcommand
        have hlt := hbelow stretch hlater
        rw [Stretch.line_of_mem_commands hcommand]
        omega

/-!
## Main statement
-/

/-- The batches of any stream are intervals without gaps that cover it, each on one line, and two side
by side on different lines.  Those of a loaded program are as many as its lines with commands, and
each holds what a line of the text asks for, which is all that is on that line. -/
theorem batches_by_line :
    (forall commands : List Command,
      Tiles 0 (batches commands) commands.length ∧
        exists lines : List Int, lines.IsChain (· ≠ ·) ∧
          List.Forall₂ (fun batch line =>
              forall command, command ∈ within commands batch -> command.line = line)
            (batches commands) lines) ∧
    forall mode source program, load mode source = .ok program ->
      (batches program.commands).length = program.lineCount ∧
        forall batch, batch ∈ batches program.commands ->
          exists n : Nat, exists cs ops, (Text.lines source.toList)[n]? = some cs ∧
            parseLine mode n cs = .ok ops ∧
            within program.commands batch = lineCommands mode ops ∧
            within program.commands batch =
              program.commands.filter fun command => command.line = (n : Int) := by
  constructor
  · intro commands
    rcases Stretch.exists_stretches commands with ⟨stretches, hapart, rfl⟩
    have hbatches : batches (Stretch.allCommands stretches) = Stretch.intervals 0 stretches :=
      Stretch.batchesFrom_allCommands 0 hapart
    have htiles := Stretch.tiles_intervals 0 hapart
    rw [Nat.zero_add] at htiles
    rw [hbatches]
    refine ⟨htiles, stretches.map Stretch.line, (List.isChain_map Stretch.line).mpr hapart.changing, ?_⟩
    rw [List.forall₂_map_right_iff]
    refine (Stretch.within_intervals [] stretches).imp fun batch stretch hbatch => ?_
    intro command hcommand
    rw [List.nil_append] at hbatch
    rw [hbatch] at hcommand
    exact Stretch.line_of_mem_commands hcommand
  · intro mode source program hload
    rcases load_eq_ok hload with ⟨_, _, hlines⟩
    rcases exists_rows_of_loadLines hlines with ⟨rows, hcommands, hrows⟩
    have hapart := areApart_stretchesOf 0 rows
    have hpairwise := pairwise_stretchesOf 0 rows
    rw [← allCommands_stretchesOf] at hcommands
    have hbatches : batches program.commands = Stretch.intervals 0 (stretchesOf 0 rows) := by
      rw [hcommands]
      exact Stretch.batchesFrom_allCommands 0 hapart
    constructor
    · rw [hbatches, Stretch.length_intervals, lineCount, hcommands,
        eraseDups_allCommands hapart.full hpairwise, List.length_map]
    · intro batch hbatch
      rw [hbatches] at hbatch
      rcases Stretch.exists_of_mem_intervals hbatch with ⟨stretch, hstretch, hwithin⟩
      rcases (mem_stretchesOf hstretch).right with ⟨n, hline, hrow⟩
      rcases hrows n stretch.actions hrow with ⟨cs, ops, hcs, hops, hcommandsHere⟩
      rw [Int.zero_add] at hline hops hcommandsHere
      rw [← hcommands] at hwithin
      refine ⟨n, cs, ops, hcs, hops, ?_, ?_⟩
      · rw [hwithin, Stretch.commands, hline, hcommandsHere]
      · rw [hwithin, hcommands, ← hline, filter_allCommands hpairwise hstretch]

theorem load_twoRows : load .pixel "9 * ( RG + Off )\n\n16 * ( R )" =
    .ok ⟨.pixel, "9 * ( RG + Off )\n\n16 * ( R )",
      (List.replicate 8 [⟨0, .paint .yellow⟩, ⟨0, .erase⟩]).flatten ++
        List.replicate 16 ⟨2, .paint .red⟩, some (16, 16)⟩ := by
  have hlines : Text.lines "9 * ( RG + Off )\n\n16 * ( R )".toList =
      ["9 * ( RG + Off )".toList, [], (Goal.Pattern.full .red).line] := by decide
  have hblank : loadLine .pixel 1 (some (16, 16)) [] = .ok ([], some (16, 16)) := by rfl
  have hloaded := loadLines_of_loadLine Run.loadLine_longLoop (loadLines_of_loadLine hblank
    (loadLines_of_loadLine ((Goal.Pattern.full .red).loadLine_line 2) (loadLines_nil _ _ _)))
  apply load_of_loadLines
  rw [hlines]
  exact hloaded

/-- Two lines of cells with a blank line between them: two batches, each with what its line asks
for. -/
theorem batches_by_line_two_rows :
    exists program, load .pixel "9 * ( RG + Off )\n\n16 * ( R )" = .ok program ∧
      program.lineCount = 2 ∧ batches program.commands = [(0, 16), (16, 32)] ∧
      Tiles 0 [(0, 16), (16, 32)] program.commands.length ∧
      exists n : Nat, exists cs ops,
        (Text.lines "9 * ( RG + Off )\n\n16 * ( R )".toList)[n]? = some cs ∧
        parseLine .pixel n cs = .ok ops ∧
        within program.commands (16, 32) = lineCommands .pixel ops ∧
        within program.commands (16, 32) =
          program.commands.filter fun command => command.line = (n : Int) := by
  have htwo : batches ((List.replicate 8 [⟨0, .paint .yellow⟩, ⟨0, .erase⟩]).flatten ++
      List.replicate 16 ⟨2, .paint .red⟩) = [(0, 16), (16, 32)] :=
    @Stretch.batchesFrom_allCommands 0
      [⟨0, (List.replicate 8 [Primitive.paint .yellow, .erase]).flatten⟩,
        ⟨2, List.replicate 16 (.paint .red)⟩] ⟨by simp, by simp⟩
  rcases batches_by_line with ⟨hany, hloaded⟩
  rcases hloaded _ _ _ load_twoRows with ⟨hlength, hbatch⟩
  rw [htwo] at hlength
  have htiles := (hany ((List.replicate 8 [⟨0, .paint .yellow⟩, ⟨0, .erase⟩]).flatten ++
    List.replicate 16 ⟨2, .paint .red⟩)).left
  rw [htwo] at htiles
  refine ⟨_, load_twoRows, hlength.symm, htwo, htiles, hbatch (16, 32) ?_⟩
  rw [htwo]
  simp

end Program
end Mosaic
