import Mosaic.Run.Stepping
import Mosaic.Proofs.Program.Numerals
import Mosaic.Proofs.Run.Replaying

/-!
# What loading leads to

Loading a text leads to a run again: the text is in place, or its problem is noted in a run that is
otherwise as it was.  This fails in two cases.  A number in the text cannot be read, or the text is a
target whose replay comes to a place that cannot be put into words.
-/

namespace Mosaic
namespace Run

/-- A text whose loading ends in a fault that is no problem of the program. -/
def LoadStumbles (run : Run) (source : String) (asTarget : Bool) : Prop :=
  Program.TextStumbles run.mode source ∨
    asTarget = true ∧ run.mode ≠ .maze ∧
      exists program, Program.load run.mode source = .ok program ∧ program.ReplayStumbles

/-- A run in which loading a text has led to a problem and to nothing else. -/
structure Refuses (run : Run) (source : String) (after : Run) : Prop where
  cause : exists problem, Program.load run.mode source = .error (.program problem) ∧
    after.error = some problem
  rest : { after with error := run.error, isRunning := run.isRunning } = run
  stopped : after.isRunning = false

structure Accepts (run : Run) (source : String) (after : Run) : Prop where
  program : exists program, Program.load run.mode source = .ok program ∧
    after.commands = program.commands
  source : after.source = source
  counter : after.counter = 0
  error : after.error = none
  outcome : after.outcome = .idle

theorem accepts_withProgram {run : Run} {source : String} {program : Program}
    (h : Program.load run.mode source = .ok program) :
    Accepts run source (run.withProgram program) :=
  ⟨⟨program, h, rfl⟩, (Program.load_eq_ok h).right.left, rfl, rfl, rfl⟩

theorem refuses_or_accepts {run after : Run} {source : String} {asTarget : Bool}
    (h : run.load source asTarget = .ok after) :
    Refuses run source after ∨ Accepts run source after := by
  unfold load at h
  split at h
  · rename_i problem hproblem
    cases h
    exact Or.inl ⟨⟨problem, hproblem, rfl⟩, rfl, rfl⟩
  · cases h
  · rename_i program hprogram
    have haccepts := accepts_withProgram hprogram
    simp only at h
    split at h
    · rcases Attempts.bind_eq_ok_iff.mp h with ⟨target, _, hpure⟩
      cases Attempts.pure_eq_ok_iff.mp hpure
      exact Or.inr
        ⟨haccepts.program, haccepts.source, haccepts.counter, haccepts.error, haccepts.outcome⟩
    · cases h
      exact Or.inr haccepts

theorem loadStumbles_iff_of_load {run : Run} {source : String} {asTarget : Bool}
    {program : Program} (hclear : Not (Program.TextStumbles run.mode source))
    (hload : Program.load run.mode source = .ok program) :
    run.LoadStumbles source asTarget ↔
      (asTarget && run.mode != .maze) = true ∧ program.ReplayStumbles := by
  unfold LoadStumbles
  rw [Bool.and_eq_true, bne_iff_ne]
  constructor
  · intro hgiven
    rcases hgiven with htext | ⟨htarget, hmode, other, hother, hstumbles⟩
    · exact absurd htext hclear
    · rw [hload] at hother
      cases hother
      exact ⟨⟨htarget, hmode⟩, hstumbles⟩
  · intro hgiven
    rcases hgiven with ⟨⟨htarget, hmode⟩, hstumbles⟩
    exact Or.inr ⟨htarget, hmode, program, hload, hstumbles⟩

theorem load_isOk_iff (run : Run) (source : String) (asTarget : Bool) :
    (exists after, run.load source asTarget = .ok after) ↔
      Not (run.LoadStumbles source asTarget) := by
  rcases (Program.failsOver_load run.mode source).cases with
    ⟨hstumbles, fault, hload⟩ | ⟨hclear, ⟨problem, hload⟩ | ⟨program, hload⟩⟩
  · unfold load
    rw [hload]
    constructor
    · intro hgiven
      rcases hgiven with ⟨after, hafter⟩
      cases hafter
    · intro h
      exact absurd (Or.inl hstumbles) h
  · have hnot : Not (run.LoadStumbles source asTarget) := by
      intro hgiven
      rcases hgiven with htext | ⟨_, _, program, hprogram, _⟩
      · exact hclear htext
      · rw [hload] at hprogram
        cases hprogram
    unfold load
    rw [hload]
    exact iff_of_true ⟨_, rfl⟩ hnot
  · rw [loadStumbles_iff_of_load hclear hload]
    unfold load
    rw [hload]
    simp only
    split
    · rename_i hasked
      have hmode : program.mode ≠ .maze := by
        rw [(Program.load_eq_ok hload).left]
        simp only [Bool.and_eq_true, bne_iff_ne] at hasked
        exact hasked.right
      have hreplay := Program.replay_isOk_iff (Program.load_wellFormed hload) hmode
      constructor
      · intro hgiven
        rcases hgiven with ⟨after, hafter⟩
        rcases Attempts.bind_eq_ok_iff.mp hafter with ⟨target, hdrawn, _⟩
        intro hboth
        exact hreplay.mp ⟨target, hdrawn⟩ hboth.right
      · intro h
        rcases hreplay.mpr (fun hstumbles => h ⟨hasked, hstumbles⟩) with ⟨target, hdrawn⟩
        rw [hdrawn]
        exact ⟨_, rfl⟩
    · rename_i hasked
      exact iff_of_true ⟨_, rfl⟩ fun hboth => hasked hboth.left

/-- Loading leads to a run that has refused or accepted the text, exactly when no number of the text
is out of reach and no place of its replay either. -/
theorem load_lands_iff (run : Run) (source : String) (asTarget : Bool) :
    (exists after, run.load source asTarget = .ok after ∧
        (Refuses run source after ∨ Accepts run source after)) ↔
      Not (run.LoadStumbles source asTarget) := by
  rw [← load_isOk_iff]
  constructor
  · intro hgiven
    rcases hgiven with ⟨after, hafter, _⟩
    exact ⟨after, hafter⟩
  · intro hgiven
    rcases hgiven with ⟨after, hafter⟩
    exact ⟨after, hafter, refuses_or_accepts hafter⟩

theorem tokens_superscript (line : Int) :
    Screen.tokens line ['²'] = .ok [⟨.number ['²'], 0⟩] := by
  have hblank : Text.isBlank '²' = false := by decide
  have hsign : Screen.Token.ofSign? '²' = none := by decide
  have hdigit : Text.isDigitLike '²' = true := by decide
  have hend : forall position, Screen.tokensFrom line position 0 [] = .ok [] := by
    intro position
    rw [Screen.tokensFrom]
    rfl
  unfold Screen.tokens
  rw [Screen.tokensFrom]
  simp only [hblank, hsign, hdigit, List.takeWhile_nil, List.dropWhile_nil, hend]
  rfl

theorem textStumbles_superscript : Program.TextStumbles .pixel "²" := by
  have hlines : Text.lines "²".toList = [['²']] := by decide
  have hunreadable : Not (Text.IsReadable ['²']) := by
    intro hreadable
    exact absurd (hreadable.left '²' (by simp)) (by decide)
  unfold Program.TextStumbles
  rw [hlines]
  exact ⟨[], ['²'], [], _, rfl, Program.loadLines_nil _ _ _, by decide, _, [], ['²'], [], [], [],
    tokens_superscript _, rfl, rfl, hunreadable⟩

/-- A superscript digit is taken for a digit in PIXEL but has no value. -/
theorem not_load_lands_superscript :
    Not (forall (mode : Mode) (source : String) (asTarget : Bool),
      exists after, (start mode none).load source asTarget = .ok after) := by
  intro h
  exact (load_isOk_iff (start .pixel none) "²" false).mp (h .pixel "²" false)
    (Or.inl textStumbles_superscript)

end Run
end Mosaic
