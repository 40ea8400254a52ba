import Mosaic.Program.Screen.Sequence
import Mosaic.Proofs.Program.Failures

/-!
# Numbers of screen lines

Cutting a screen line into tokens can fail with a problem of the program only.  Its number tokens
are rows of digits and digit-like signs; whether such a row stands for a number shows when a count
is expected.
-/

namespace Mosaic
namespace Screen

def Token.IsSound (token : Token) : Prop :=
  forall text, token = .number text -> Text.IsCount text

theorem isSound_of_ofSign? {c : Char} {token : Token} (h : Token.ofSign? c = some token) :
    token.IsSound := by
  intro text htext
  subst htext
  unfold Token.ofSign? at h
  split at h
  · cases h
  · cases h
  · cases h
  · cases h
  · cases h

def CutsSoundly (cut : Except Fault (List Placed)) : Prop :=
  (exists placed, cut = .ok placed ∧ forall item, item ∈ placed -> item.token.IsSound) ∨
    exists problem, cut = .error (.program problem)

theorem cutsSoundly_cons {cut : Except Fault (List Placed)} {item : Placed} (h : CutsSoundly cut)
    (hitem : item.token.IsSound) : CutsSoundly (cut >>= fun placed => .ok (item :: placed)) := by
  rcases h with ⟨placed, rfl, hsound⟩ | ⟨problem, rfl⟩
  · refine Or.inl ⟨item :: placed, rfl, ?_⟩
    intro other hother
    rcases List.mem_cons.mp hother with rfl | hlater
    · exact hitem
    · exact hsound other hlater
  · exact Or.inr ⟨problem, rfl⟩

theorem cutsSoundly_tokensFrom (line : Int) (position depth : Nat) (cs : List Char) :
    CutsSoundly (tokensFrom line position depth cs) := by
  fun_induction tokensFrom line position depth cs with
  | case1 => exact Or.inl ⟨[], rfl, fun item hitem => by cases hitem⟩
  | case2 => exact Or.inr ⟨_, rfl⟩
  | case3 _ _ _ _ _ ih => exact ih
  | case4 _ _ _ _ _ token htoken _ _ ih => exact cutsSoundly_cons ih (isSound_of_ofSign? htoken)
  | case5 => exact Or.inr ⟨_, rfl⟩
  | case6 _ _ c rest _ _ hdigit run ih =>
      apply cutsSoundly_cons ih
      intro text htext
      injection htext with htext
      rw [← htext]
      refine ⟨by simp [run], ?_⟩
      intro other hother
      rcases List.mem_cons.mp hother with rfl | hmem
      · exact hdigit
      · exact List.all_eq_true.mp List.all_takeWhile other hmem
  | case7 _ _ _ _ _ _ _ _ run ih =>
      apply cutsSoundly_cons ih
      intro text htext
      cases htext
  | case8 => exact Or.inr ⟨_, rfl⟩

theorem isSound_of_mem_tokens {line : Int} {cs : List Char} {placed : List Placed}
    (h : tokens line cs = .ok placed) :
    forall token, token ∈ placed.map Placed.token -> token.IsSound := by
  intro token htoken
  rcases List.mem_map.mp htoken with ⟨item, hitem, rfl⟩
  rcases cutsSoundly_tokensFrom line 0 0 cs with ⟨others, hothers, hsound⟩ | ⟨problem, hproblem⟩
  · have hboth := h.symm.trans hothers
    injection hboth with hsame
    subst hsame
    exact hsound item hitem
  · have hboth := h.symm.trans hproblem
    cases hboth

theorem failsOver_tokens (line : Int) (cs : List Char) : FailsOver False (tokens line cs) := by
  unfold tokens
  rcases cutsSoundly_tokensFrom line 0 0 cs with ⟨placed, hplaced, _⟩ | ⟨problem, hproblem⟩
  · rw [hplaced]
    exact failsOver_ok id
  · rw [hproblem]
    exact failsOver_problem id

/-!
## Counts
-/

def Progress.Stumbles (progress : Progress) (token : Token) : Prop :=
  exists frames ops text, progress = .items frames ops ∧ token = .number text ∧
    Not (Text.IsReadable text)

theorem failsOver_loopCount {text : List Char} (h : Text.IsCount text) :
    FailsOver (Not (Text.IsReadable text)) (loopCount text) := by
  unfold loopCount
  rw [← Text.readWhole_isOk_iff h]
  cases Text.readWhole text with
  | ok n => exact failsOver_ok (by simp)
  | error fault =>
      refine Or.inl ⟨?_, fault, rfl⟩
      intro hread
      rcases hread with ⟨n, hn⟩
      cases hn

theorem failsOver_step (line : Int) (progress : Progress) {token : Token} (h : token.IsSound) :
    FailsOver (progress.Stumbles token) (progress.step line token) := by
  unfold Progress.step
  split
  · exact failsOver_ok (by simp [Progress.Stumbles])
  · rename_i frames ops text
    apply ((failsOver_loopCount (h text rfl)).bind_of_clear fun count => failsOver_ok id).congr
    simp [Progress.Stumbles]
  · split
    · exact failsOver_ok (by simp [Progress.Stumbles])
    · exact failsOver_problem (by simp [Progress.Stumbles])
  · exact failsOver_problem (by simp [Progress.Stumbles])
  · split
    · exact failsOver_problem (by simp [Progress.Stumbles])
    · exact failsOver_ok (by simp [Progress.Stumbles])
  · rename_i hnumber _ _ _
    apply failsOver_problem
    intro hgiven
    rcases hgiven with ⟨_, _, text, _, htoken, _⟩
    exact hnumber text htoken
  · exact failsOver_ok (by simp [Progress.Stumbles])
  · exact failsOver_problem (by simp [Progress.Stumbles])
  · exact failsOver_ok (by simp [Progress.Stumbles])
  · exact failsOver_problem (by simp [Progress.Stumbles])

theorem failsOver_finish (line : Int) (progress : Progress) :
    FailsOver False (progress.finish line) := by
  unfold Progress.finish
  split
  · exact failsOver_problem id
  · exact failsOver_ok id
  · exact failsOver_problem id
  · exact failsOver_problem id
  · exact failsOver_problem id

/-- A screen line with a number that cannot be read, where a count may stand and everything in
front of it is in order. -/
def LineStumbles (line : Int) (cs : List Char) : Prop :=
  exists placed before text after frames ops,
    tokens line cs = .ok placed ∧ placed.map Placed.token = before ++ .number text :: after ∧
      before.foldlM (Progress.step line) (.items [] []) = .ok (.items frames ops) ∧
      Not (Text.IsReadable text)

theorem lineStumbles_iff {line : Int} {cs : List Char} :
    LineStumbles line cs ↔ exists placed, tokens line cs = .ok placed ∧
      exists before token after reached, placed.map Placed.token = before ++ token :: after ∧
        before.foldlM (Progress.step line) (.items [] []) = .ok reached ∧
        reached.Stumbles token := by
  constructor
  · intro h
    rcases h with ⟨placed, before, text, after, frames, ops, hplaced, happend, hbefore, htext⟩
    exact ⟨placed, hplaced, before, _, after, _, happend, hbefore, frames, ops, text, rfl, rfl, htext⟩
  · intro h
    rcases h with ⟨placed, hplaced, before, token, after, reached, happend, hbefore, hstumbles⟩
    rcases hstumbles with ⟨frames, ops, text, rfl, rfl, htext⟩
    exact ⟨placed, before, text, after, frames, ops, hplaced, happend, hbefore, htext⟩

theorem failsOver_lineOps (line : Int) (cs : List Char) :
    FailsOver (LineStumbles line cs) (lineOps line cs) := by
  refine ((failsOver_tokens line cs).bind fun placed hplaced => ?_).congr
    (by rw [lineStumbles_iff, false_or])
  refine (failsOver_foldlM fun token htoken reached => ?_).bind_of_clear (failsOver_finish line)
  exact failsOver_step line reached (isSound_of_mem_tokens hplaced token htoken)

end Screen
end Mosaic
