import Mosaic.Proofs.Goal.Patterns
import Mosaic.Proofs.Run.Drawing
import Mosaic.Proofs.Run.Filling

/-!
# Screen programs

A screen program that can be loaded runs to its end without a problem, whatever its loops say.  What
is on the screen then can be read off the text: the line of a row, written out to the full, has a
primitive for each cell of the row or leaves the cell unlit.
-/

namespace Mosaic
namespace Run

theorem atRow_of_atStart {run : Run} {program : Program} {commands : List Command}
    (h : AtStart program commands run) (hwell : program.WellFormed) (hmode : program.mode = .pixel) :
    run.AtRow [] (Grid.blank 16 16) := by
  refine ⟨h.mode.trans hmode, ?_, ?_, h.outcome⟩
  · intro row _ hline
    rw [h.line] at hline
    cases hline
  · rw [h.grid, hwell.fixed (by rw [hmode]; rfl), hmode]
    rfl

/-- The commands of a screen program fill the screen with the cells of its lines. -/
theorem carryOut_screenRows {run : Run} {source : String} {program : Program}
    (hprogram : Program.load .pixel source = .ok program)
    (h : AtStart program program.commands run) :
    exists final, carryOut 0 run program.commands = .ok (final, .complete) ∧
      final.grid = some (screenOf 16 16 (Program.screenRows source)) := by
  have hblank := atRow_of_atStart h (Program.load_wellFormed hprogram)
    (Program.load_eq_ok hprogram).left
  have hrows : forall row, row ∈ Program.screenRows source -> row.length ≤ 16 :=
    fun row hrow => Program.length_screenRows_le hrow
  have hscreen := carryOut_screen hrows hblank 0
  rwa [← Program.commands_of_load_pixel hprogram] at hscreen

theorem countP_line_le_of_pixel {source : String} {program : Program}
    (hprogram : Program.load .pixel source = .ok program) (line : Int) :
    program.commands.countP (fun command => command.line == line) ≤ 16 := by
  rw [Program.commands_of_load_pixel hprogram]
  refine Program.countP_line_commandsOf_le fun row hrow => ?_
  rcases List.mem_map.mp hrow with ⟨cells, hcells, rfl⟩
  rw [List.length_map]
  exact Program.length_screenRows_le hcells

/-- A screen program runs to its end, and each cell of the screen is then the one that the full
meaning of its line asks for. -/
theorem runToHalt_screen {run : Run} {source : String} {program : Program} (asTarget : Bool)
    {maxSteps : Int} (hmode : run.mode = .pixel)
    (hprogram : Program.load run.mode source = .ok program)
    (hsteps : max (program.lineCount : Int) 1 ≤ maxSteps) :
    exists loaded halted picture,
      run.load source asTarget = .ok loaded ∧ loaded.runToHalt maxSteps = .ok halted ∧
        halted.error = none ∧ halted.counter = loaded.commands.length ∧
        halted.grid = some picture ∧ picture.length = 16 ∧ picture.IsRectangular 16 ∧
        (forall row column, row < 16 -> column < 16 ->
          picture.cell? row column = some (Program.screenCell source row column)) ∧
        forall line, loaded.commands.countP (fun command => command.line == line) ≤ 16 := by
  have hscreen : Program.load .pixel source = .ok program := by rwa [← hmode]
  rcases carryOut_screenRows hscreen (atStart_blankRun program) with ⟨drawn, hdrawn, _⟩
  rcases exists_load_of_complete hprogram (by simp [hmode]) ⟨drawn, hdrawn⟩ asTarget with
    ⟨loaded, hload⟩
  have hstart := atStart_of_load hprogram hload
  rcases carryOut_screenRows hscreen hstart with ⟨final, hfinal, hgrid⟩
  have hlines : (program.lineCount : Int) ≤ maxSteps := by omega
  have hpositive : 0 < maxSteps := by omega
  rcases runToHalt_of_complete (ready_of_load hprogram hload) hstart.counter hpositive hlines
    hfinal with ⟨halted, hhalted, herror, hcounter, hend⟩
  have hrows : forall row, row ∈ Program.screenRows source -> row.length ≤ 16 :=
    fun row hrow => Program.length_screenRows_le hrow
  refine ⟨loaded, halted, screenOf 16 16 (Program.screenRows source), hload, hhalted, herror, ?_,
    hend.trans hgrid, length_screenOf _ _ _, isRectangular_screenOf hrows, ?_, ?_⟩
  · rw [hcounter, hstart.commands]
  · intro row column hrow hcolumn
    rw [cell?_screenOf hrows hrow hcolumn, Program.getD_screenRows source row hcolumn]
  · rw [hstart.commands]
    exact countP_line_le_of_pixel hscreen

theorem parseLine_longLoop (line : Int) :
    Program.parseLine .pixel line "9 * ( RG + Off )".toList =
      .ok [.loop line 9 [.once ⟨line, .paint .yellow⟩, .once ⟨line, .erase⟩]] := by
  have hcount : Goal.Pattern.IsCount ['9'] 9 := Goal.Pattern.isCount_digit (by decide) rfl
  have hloop := Goal.Pattern.lineOps_loop hcount line .redGreen [.off]
  have hgiven : (Text.trim "9 * ( RG + Off )".toList).isEmpty = false := by decide
  unfold Program.parseLine
  simp only [hgiven, Bool.false_eq_true, if_false]
  exact hloop

theorem lines_longLoop : Text.lines "9 * ( RG + Off )\n".toList = ["9 * ( RG + Off )".toList, []] := by
  decide

theorem loadLine_longLoop : Program.loadLine .pixel 0 (some (16, 16)) "9 * ( RG + Off )".toList =
    .ok ((List.replicate 8 [⟨0, .paint .yellow⟩, ⟨0, .erase⟩]).flatten, some (16, 16)) := by
  unfold Program.loadLine
  rw [parseLine_longLoop]
  rfl

theorem load_longLoop : Program.load .pixel "9 * ( RG + Off )\n" =
    .ok ⟨.pixel, "9 * ( RG + Off )\n",
      (List.replicate 8 [⟨0, .paint .yellow⟩, ⟨0, .erase⟩]).flatten, some (16, 16)⟩ := by
  have hblank : Program.loadLine .pixel 1 (some (16, 16)) [] = .ok ([], some (16, 16)) := by rfl
  have hloaded := Program.loadLines_of_loadLine loadLine_longLoop
    (Program.loadLines_of_loadLine hblank (Program.loadLines_nil _ _ _))
  apply Program.load_of_loadLines
  rw [lines_longLoop]
  exact hloaded

/-- A line that asks for eighteen cells, and a blank one below it. -/
theorem runToHalt_screen_loop :
    exists loaded halted picture,
      (start .pixel none).load "9 * ( RG + Off )\n" true = .ok loaded ∧
        loaded.runToHalt 1 = .ok halted ∧ halted.error = none ∧ halted.counter = 16 ∧
        halted.grid = some picture ∧ picture.cell? 0 14 = some (some .yellow) ∧
        picture.cell? 0 15 = some none ∧ picture.cell? 1 0 = some none := by
  have hprogram : Program.load (start .pixel none).mode "9 * ( RG + Off )\n" = _ := load_longLoop
  have hsteps : max (((List.replicate 16 (0 : Int)).eraseDups.length : Nat) : Int) 1 ≤ 1 := by
    decide
  rcases runToHalt_screen true rfl hprogram hsteps with
    ⟨loaded, halted, picture, hload, hhalted, herror, hcounter, hgrid, _, _, hcells, _⟩
  have hrow : Program.screenRow 0 "9 * ( RG + Off )".toList =
      (List.replicate 9 [.paint .yellow, .erase]).flatten := by
    unfold Program.screenRow
    rw [parseLine_longLoop]
    rfl
  have hcell : forall column, Program.screenCell "9 * ( RG + Off )\n" 0 column =
      (((List.replicate 9 [.paint .yellow, .erase]).flatten)[column]?).elim none
        Primitive.cell := by
    intro column
    unfold Program.screenCell
    rw [lines_longLoop, ← hrow]
    rfl
  refine ⟨loaded, halted, picture, hload, hhalted, herror, ?_, hgrid, ?_, ?_, ?_⟩
  · rw [hcounter, (atStart_of_load hprogram hload).commands]
    rfl
  · rw [hcells 0 14 (by decide) (by decide), hcell]
    rfl
  · rw [hcells 0 15 (by decide) (by decide), hcell]
    rfl
  · rw [hcells 1 0 (by decide) (by decide)]
    unfold Program.screenCell
    rw [lines_longLoop]
    rfl

end Run
end Mosaic
