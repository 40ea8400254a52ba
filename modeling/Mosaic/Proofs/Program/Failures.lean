import Mosaic.Program.Line
import Mosaic.Proofs.Attempts
import Mosaic.Proofs.Text.Numeral

/-!
# How reading fails

Reading a program fails with a problem of the program, or over a number that cannot be read.  The
rules below say over which number, for one attempt after another.
-/

namespace Mosaic

/-- An attempt that fails over a number exactly where one cannot be read, and else for no reason but
the program. -/
def FailsOver {α : Type} (unreadable : Prop) (attempt : Except Fault α) : Prop :=
  unreadable ∧ (exists fault, attempt = .error (.numeral fault)) ∨
    Not unreadable ∧ forall fault, attempt = .error fault ->
      exists problem, fault = .program problem

section

variable {α β : Type} {unreadable : Prop} {attempt : Except Fault α}

theorem FailsOver.congr {other : Prop} (h : FailsOver unreadable attempt)
    (hsame : other ↔ unreadable) : FailsOver other attempt := by
  rwa [hsame]

theorem failsOver_ok {value : α} (h : Not unreadable) :
    FailsOver unreadable (.ok value : Except Fault α) := by
  refine Or.inr ⟨h, ?_⟩
  intro fault hfault
  cases hfault

theorem failsOver_problem {problem : Problem} (h : Not unreadable) :
    FailsOver unreadable (.error (.program problem) : Except Fault α) := by
  refine Or.inr ⟨h, ?_⟩
  intro fault hfault
  cases hfault
  exact ⟨problem, rfl⟩

theorem FailsOver.cases (h : FailsOver unreadable attempt) :
    (unreadable ∧ exists fault, attempt = .error (.numeral fault)) ∨
      Not unreadable ∧ ((exists problem, attempt = .error (.program problem)) ∨
        exists value, attempt = .ok value) := by
  rcases h with hfails | ⟨hclear, hproblem⟩
  · exact Or.inl hfails
  · cases attempt with
    | error fault =>
        rcases hproblem fault rfl with ⟨problem, rfl⟩
        exact Or.inr ⟨hclear, Or.inl ⟨problem, rfl⟩⟩
    | ok value => exact Or.inr ⟨hclear, Or.inr ⟨value, rfl⟩⟩

theorem FailsOver.bind {next : α -> Except Fault β} {later : α -> Prop}
    (h : FailsOver unreadable attempt)
    (hnext : forall value, attempt = .ok value -> FailsOver (later value) (next value)) :
    FailsOver (unreadable ∨ exists value, attempt = .ok value ∧ later value)
      (attempt >>= next) := by
  rcases h.cases with ⟨hfirst, fault, rfl⟩ | ⟨hclear, ⟨problem, rfl⟩ | ⟨value, rfl⟩⟩
  · exact Or.inl ⟨Or.inl hfirst, fault, rfl⟩
  · refine Or.inr ⟨?_, ?_⟩
    · intro hgiven
      rcases hgiven with hfirst | ⟨value, hvalue, _⟩
      · exact hclear hfirst
      · cases hvalue
    · intro fault hfault
      cases hfault
      exact ⟨problem, rfl⟩
  · apply (hnext value rfl).congr
    constructor
    · intro hgiven
      rcases hgiven with hfirst | ⟨other, hother, hlater⟩
      · exact absurd hfirst hclear
      · cases hother
        exact hlater
    · intro hlater
      exact Or.inr ⟨value, rfl, hlater⟩

theorem FailsOver.bind_of_clear {next : α -> Except Fault β} (h : FailsOver unreadable attempt)
    (hnext : forall value, FailsOver False (next value)) :
    FailsOver unreadable (attempt >>= next) := by
  apply (h.bind fun value _ => hnext value).congr
  simp

theorem FailsOver.map {change : α -> β} (h : FailsOver unreadable attempt) :
    FailsOver unreadable (attempt.map change) := by
  rcases h with ⟨hfails, fault, rfl⟩ | ⟨hclear, hproblem⟩
  · exact Or.inl ⟨hfails, fault, rfl⟩
  · refine Or.inr ⟨hclear, ?_⟩
    intro fault hfault
    exact hproblem fault (Attempts.map_eq_error_iff.mp hfault)

theorem failsOver_foldlM {step : β -> α -> Except Fault β} {stumbles : β -> α -> Prop}
    {items : List α} {start : β}
    (h : forall item, item ∈ items ->
      forall reached, FailsOver (stumbles reached item) (step reached item)) :
    FailsOver (exists before item after reached, items = before ++ item :: after ∧
      before.foldlM step start = .ok reached ∧ stumbles reached item)
      (items.foldlM step start) := by
  -- an item over which the chain stumbles decides how the chain ends
  have hstumbling : forall before item after reached, items = before ++ item :: after ->
      before.foldlM step start = .ok reached -> stumbles reached item ->
        exists fault, items.foldlM step start = .error (.numeral fault) := by
    intro before item after reached happend hbefore hitem
    rcases h item (by simp [happend]) reached with ⟨_, fault, hfault⟩ | ⟨hclear, _⟩
    · exact ⟨fault, Attempts.foldlM_eq_error_iff.mpr
        ⟨before, item, after, reached, happend, hbefore, hfault⟩⟩
    · exact absurd hitem hclear
  by_cases hgiven : exists before item after reached, items = before ++ item :: after ∧
      before.foldlM step start = .ok reached ∧ stumbles reached item
  · rcases hgiven with ⟨before, item, after, reached, happend, hbefore, hitem⟩
    exact Or.inl ⟨⟨before, item, after, reached, happend, hbefore, hitem⟩,
      hstumbling before item after reached happend hbefore hitem⟩
  · refine Or.inr ⟨hgiven, ?_⟩
    intro fault hfault
    rcases Attempts.foldlM_eq_error_iff.mp hfault with
      ⟨before, item, after, reached, happend, hbefore, hitem⟩
    rcases h item (by simp [happend]) reached with ⟨hstumbles, _⟩ | ⟨_, hproblem⟩
    · exact absurd ⟨before, item, after, reached, happend, hbefore, hstumbles⟩ hgiven
    · exact hproblem fault hitem

end

/-!
## Numerals
-/

namespace Program

def Reads {α : Type} (cs : List Char) (attempt : Except Fault α) : Prop :=
  (cs.length ≤ Text.digitLimit ∧ exists n, attempt = .ok n) ∨
    Text.digitLimit < cs.length ∧ exists fault, attempt = .error (.numeral fault)

theorem Reads.bind {α β : Type} {cs : List Char} {attempt : Except Fault α}
    {next : α -> Except Fault β} {later : Prop}
    (h : Reads cs attempt) (hnext : forall value, FailsOver later (next value)) :
    FailsOver (Text.digitLimit < cs.length ∨ later) (attempt >>= next) := by
  rcases h with ⟨hshort, value, rfl⟩ | ⟨hlong, fault, rfl⟩
  · apply (hnext value).congr
    have hnot : Not (Text.digitLimit < cs.length) := Nat.not_lt.mpr hshort
    simp [hnot]
  · exact Or.inl ⟨Or.inl hlong, fault, rfl⟩

theorem reads_number (cs : List Char) : Reads cs (number cs) := by
  unfold number
  by_cases hlong : Text.digitLimit < cs.length
  · rw [Text.readDigits_eq_error_iff.mpr ⟨hlong, rfl⟩]
    exact Or.inr ⟨hlong, _, rfl⟩
  · rw [Text.readDigits_eq_ok_iff.mpr ⟨Nat.le_of_not_lt hlong, rfl⟩]
    exact Or.inl ⟨Nat.le_of_not_lt hlong, _, rfl⟩

theorem reads_signedNumber (cs : List Char) : Reads (Text.splitSign cs).2 (signedNumber cs) := by
  unfold signedNumber
  rcases reads_number (Text.splitSign cs).2 with ⟨hshort, n, hn⟩ | ⟨hlong, fault, hfault⟩
  · refine Or.inl ⟨hshort, Text.signed (Text.splitSign cs).1 n, ?_⟩
    simp only [hn]
    rfl
  · refine Or.inr ⟨hlong, fault, ?_⟩
    simp only [hfault]
    rfl

end Program
end Mosaic
