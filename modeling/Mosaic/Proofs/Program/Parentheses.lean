import Mosaic.Program.Screen.Sequence
import Mosaic.Proofs.Program.Scanning
import Mosaic.Proofs.Text.Letters

/-!
# Parentheses that a reader can rely on

While a screen line is cut into tokens its parentheses are counted.  The reader of the tokens keeps a
frame for each loop that is open, and it never keeps more or fewer of them than have been counted.  So
it finds a loop for every closing parenthesis, and in the end no loop is left.  What is wrong with the
parentheses has been reported before, unless another fault stands in front of it.
-/

namespace Mosaic
namespace Screen

/-!
## Open loops and open parentheses
-/

def Progress.depth : Progress -> Nat
  | items frames _ => frames.length
  | counted frames _ _ => frames.length
  | starred frames _ _ => frames.length

/-- A step opens and closes loops as its token opens and closes parentheses. -/
theorem depthAfter?_of_step {line : Int} {progress next : Progress} {token : Token}
    (h : progress.step line token = .ok next) :
    token.depthAfter? progress.depth = some next.depth := by
  unfold Progress.step at h
  split at h
  · cases h
    rfl
  · rcases Attempts.bind_eq_ok_iff.mp h with ⟨count, _, hnext⟩
    cases hnext
    rfl
  · split at h
    · cases h
      rfl
    · cases h
  · cases h
  · split at h
    · cases h
    · cases h
      rfl
  · cases h
  · cases h
    rfl
  · cases h
  · cases h
    rfl
  · cases h

theorem foldlM_depthAfter?_of_steps {line : Int} {start final : Progress} {row : List Token}
    (h : row.foldlM (Progress.step line) start = .ok final) :
    row.foldlM Token.depthAfter? start.depth = some final.depth := by
  induction row generalizing start with
  | nil =>
      cases h
      rfl
  | cons token rest ih =>
      rw [List.foldlM_cons] at h
      rcases Attempts.bind_eq_ok_iff.mp h with ⟨next, hstep, hrest⟩
      rw [List.foldlM_cons, depthAfter?_of_step hstep]
      exact ih hrest

theorem depthAfter?_of_runKind? {token : Token} {kind : RunKind} (h : token.runKind? = some kind)
    (depth : Nat) : token.depthAfter? depth = some depth := by
  cases token with
  | number text => rfl
  | word text => rfl
  | _ => cases h

theorem foldlM_depthAfter?_of_scans {position depth : Nat} {cs : List Char} {placed : List Placed}
    (h : Scans position depth cs placed) :
    (placed.map Placed.token).foldlM Token.depthAfter? depth = some 0 := by
  induction h with
  | done => rfl
  | blank _ _ ih => exact ih
  | sign _ hdepth _ ih =>
      rw [List.map_cons, List.foldlM_cons, hdepth]
      exact ih
  | run hkind _ _ _ ih =>
      rw [List.map_cons, List.foldlM_cons, depthAfter?_of_runKind? hkind]
      exact ih

/-!
## Faults of the reader
-/

/-- The reader comes to the end of the tokens where a loop is still to be closed. -/
def EndsInLoop (line : Int) (row : List Token) : Prop :=
  exists frame frames ops,
    row.foldlM (Progress.step line) (.items [] []) = .ok (.items (frame :: frames) ops)

/-- The reader comes to a closing parenthesis where no loop is open. -/
def StopsAtClosing (line : Int) (row : List Token) : Prop :=
  exists before after ops, row = before ++ .closing :: after ∧
    before.foldlM (Progress.step line) (.items [] []) = .ok (.items [] ops)

theorem loopCount_ne_problem {text : List Char} {problem : Problem} :
    loopCount text ≠ .error (.program problem) := by
  unfold loopCount
  split
  · nofun
  · nofun

theorem of_step_eq_error {line : Int} {progress : Progress} {token : Token} {cause : Cause}
    (h : progress.step line token = .error (problem line cause)) :
    cause ≠ .missingClosing ∧
      (cause = .unexpectedToken [')'] ->
        token = .closing ∧ exists ops, progress = .items [] ops) := by
  cases progress with
  | items frames ops =>
      cases token with
      | number text =>
          rcases Attempts.bind_eq_error_iff.mp h with hcount | ⟨count, _, hnext⟩
          · exact absurd hcount loopCount_ne_problem
          · cases hnext
      | word text =>
          rw [Progress.step] at h
          split at h
          · cases h
          · cases h
            exact ⟨by simp, by simp⟩
      | star =>
          cases h
          exact ⟨by simp, by simp [Token.text]⟩
      | opening =>
          cases h
          exact ⟨by simp, by simp [Token.text]⟩
      | plus => cases h
      | closing =>
          cases frames with
          | nil =>
              cases h
              exact ⟨by simp, fun _ => ⟨rfl, ops, rfl⟩⟩
          | cons frame outer =>
              rw [Progress.step] at h
              split at h
              · cases h
                exact ⟨by simp, by simp⟩
              · cases h
  | counted frames ops count =>
      cases token with
      | star => cases h
      | _ =>
          cases h
          exact ⟨by simp, by simp⟩
  | starred frames ops count =>
      cases token with
      | opening => cases h
      | _ =>
          cases h
          exact ⟨by simp, by simp⟩

theorem of_finish_eq_error {line : Int} {progress : Progress} {cause : Cause}
    (h : progress.finish line = .error (problem line cause)) :
    cause ≠ .unexpectedToken [')'] ∧
      (cause = .missingClosing ->
        exists frame frames ops, progress = .items (frame :: frames) ops) := by
  cases progress with
  | items frames ops =>
      cases frames with
      | nil =>
          cases ops with
          | nil =>
              cases h
              exact ⟨by simp, by simp⟩
          | cons op rest => cases h
      | cons frame outer =>
          cases h
          exact ⟨by simp, fun _ => ⟨frame, outer, ops, rfl⟩⟩
  | counted frames ops count =>
      cases h
      exact ⟨by simp, by simp⟩
  | starred frames ops count =>
      cases h
      exact ⟨by simp, by simp⟩

theorem sequence_eq_missingClosing_iff {line : Int} {row : List Token} :
    sequence line row = .error (problem line .missingClosing) ↔ EndsInLoop line row := by
  constructor
  · intro h
    rcases Attempts.bind_eq_error_iff.mp h with hsteps | ⟨final, hfinal, hfinish⟩
    · rcases Attempts.foldlM_eq_error_iff.mp hsteps with ⟨_, _, _, _, _, _, hstep⟩
      exact absurd rfl (of_step_eq_error hstep).left
    · rcases (of_finish_eq_error hfinish).right rfl with ⟨frame, frames, ops, rfl⟩
      exact ⟨frame, frames, ops, hfinal⟩
  · rintro ⟨frame, frames, ops, hfinal⟩
    unfold sequence
    rw [hfinal]
    rfl

theorem sequence_eq_unexpected_closing_iff {line : Int} {row : List Token} :
    sequence line row = .error (problem line (.unexpectedToken [')'])) ↔
      StopsAtClosing line row := by
  constructor
  · intro h
    rcases Attempts.bind_eq_error_iff.mp h with hsteps | ⟨final, hfinal, hfinish⟩
    · rcases Attempts.foldlM_eq_error_iff.mp hsteps with
        ⟨before, token, after, reached, hrow, hbefore, hstep⟩
      rcases (of_step_eq_error hstep).right rfl with ⟨rfl, ops, rfl⟩
      exact ⟨before, after, ops, hrow, hbefore⟩
    · exact absurd rfl (of_finish_eq_error hfinish).left
  · rintro ⟨before, after, ops, hrow, hbefore⟩
    have hsteps : row.foldlM (Progress.step line) (.items [] []) =
        .error (problem line (.unexpectedToken [')'])) :=
      Attempts.foldlM_eq_error_iff.mpr ⟨before, .closing, after, _, hrow, hbefore, rfl⟩
    unfold sequence
    rw [hsteps]
    rfl

/-!
## Lines that have been cut
-/

section

variable {line : Int} {cs : List Char} {placed : List Placed}

theorem not_endsInLoop_of_tokens (h : tokens line cs = .ok placed) :
    Not (EndsInLoop line (placed.map Placed.token)) := by
  rintro ⟨frame, frames, ops, hfinal⟩
  have hdepth := foldlM_depthAfter?_of_steps hfinal
  cases (foldlM_depthAfter?_of_scans (scans_of_tokensFrom h)).symm.trans hdepth

theorem not_stopsAtClosing_of_tokens (h : tokens line cs = .ok placed) :
    Not (StopsAtClosing line (placed.map Placed.token)) := by
  rintro ⟨before, after, ops, hrow, hbefore⟩
  have hbalance := foldlM_depthAfter?_of_scans (scans_of_tokensFrom h)
  rw [hrow, List.foldlM_append] at hbalance
  rw [show before.foldlM Token.depthAfter? 0 = some 0 from foldlM_depthAfter?_of_steps hbefore]
    at hbalance
  cases hbalance

theorem lineOps_ne_of_sequence_ne {cause : Cause} (hcause : cause ≠ .unbalanced)
    (hcharacter : forall text, cause ≠ .unexpectedCharacter text)
    (h : forall placed, tokens line cs = .ok placed ->
      sequence line (placed.map Placed.token) ≠ .error (problem line cause)) :
    lineOps line cs ≠ .error (problem line cause) := by
  intro hfault
  rcases Attempts.bind_eq_error_iff.mp hfault with
    htokens | ⟨placed, hplaced, hsequence⟩
  · rcases tokens_cases line cs with ⟨_, placed, hplaced⟩ | ⟨_, hfault⟩ | ⟨rest, _, hfault⟩
    · cases htokens.symm.trans hplaced
    · cases Except.error.inj (htokens.symm.trans hfault)
      exact hcause rfl
    · cases Except.error.inj (htokens.symm.trans hfault)
      exact hcharacter _ rfl
  · exact h placed hplaced hsequence

end

/-!
## Where an imbalance shows
-/

/-- An imbalance that shows with so many parentheses open in front of the text: a start of it, with
characters only that a screen line may have, closes more of them than there are, or it is the whole
text and does not close all of them. -/
def ShowsImbalance (depth : Nat) (cs : List Char) : Prop :=
  exists front, front <+: cs ∧ (forall c, c ∈ front -> IsUsable c) ∧
    (depth + front.count '(' < front.count ')' ∨
      front = cs ∧ depth + front.count '(' ≠ front.count ')')

theorem showsImbalance_cons_iff {depth : Nat} {c : Char} {rest : List Char} :
    ShowsImbalance depth (c :: rest) ↔ IsUsable c ∧
      (depthBehind? depth c = none ∨
        exists deeper, depthBehind? depth c = some deeper ∧ ShowsImbalance deeper rest) := by
  constructor
  · rintro ⟨front, hfront, husable, hshows⟩
    rcases List.prefix_cons_iff.mp hfront with rfl | ⟨shorter, rfl, hshorter⟩
    · rcases hshows with hmore | ⟨hwhole, _⟩
      · cases hmore
      · cases hwhole
    · rcases List.forall_mem_cons.mp husable with ⟨hfirst, hothers⟩
      refine ⟨hfirst, ?_⟩
      cases hdepth : depthBehind? depth c with
      | none => exact Or.inl rfl
      | some deeper =>
          have hbehind := depthBehind?_eq_some hdepth shorter
          refine Or.inr ⟨deeper, rfl, shorter, hshorter, hothers, ?_⟩
          rcases hshows with hmore | ⟨hwhole, hdiffer⟩
          · left
            omega
          · right
            refine ⟨(List.cons.inj hwhole).right, ?_⟩
            omega
  · rintro ⟨husable, hnone | ⟨deeper, hdepth, front, hfront, hothers, hshows⟩⟩
    · rcases depthBehind?_eq_none hnone with ⟨rfl, rfl⟩
      exact ⟨[')'], ⟨rest, rfl⟩, by simpa using husable, Or.inl (by decide)⟩
    · have hbehind := depthBehind?_eq_some hdepth front
      refine ⟨c :: front, List.cons_prefix_cons.mpr ⟨rfl, hfront⟩,
        List.forall_mem_cons.mpr ⟨husable, hothers⟩, ?_⟩
      rcases hshows with hmore | ⟨rfl, hdiffer⟩
      · left
        omega
      · right
        refine ⟨rfl, ?_⟩
        omega

theorem verdict_eq_unbalanced_iff {depth : Nat} {cs : List Char} :
    verdict depth cs = .unbalanced ↔ ShowsImbalance depth cs := by
  induction cs generalizing depth with
  | nil =>
      have hempty : ShowsImbalance depth [] ↔ depth ≠ 0 := by
        constructor
        · rintro ⟨front, hfront, _, hshows⟩
          rw [List.prefix_nil.mp hfront] at hshows
          simpa using hshows
        · intro h
          exact ⟨[], List.prefix_rfl, nofun, Or.inr ⟨rfl, h⟩⟩
      rw [hempty]
      simp [verdict]
  | cons c rest ih =>
      rw [showsImbalance_cons_iff, verdict]
      by_cases husable : IsUsable c
      · cases hdepth : depthBehind? depth c with
        | none => simp [husable]
        | some deeper => simp [husable, ih]
      · simp [husable]

theorem of_verdict_eq_foreign {depth : Nat} {cs rest : List Char}
    (h : verdict depth cs = .foreign rest) :
    exists front c back, rest = c :: back ∧ cs = front ++ c :: back ∧
      (forall d, d ∈ front -> IsUsable d) ∧ Not (IsUsable c) := by
  induction cs generalizing depth with
  | nil =>
      rw [verdict] at h
      split at h
      · cases h
      · cases h
  | cons first others ih =>
      rw [verdict] at h
      split at h
      · rename_i husable
        split at h
        · rcases ih h with ⟨front, c, back, hrest, rfl, hfront, hc⟩
          exact ⟨first :: front, c, back, hrest, rfl,
            List.forall_mem_cons.mpr ⟨husable, hfront⟩, hc⟩
        · cases h
      · rename_i hforeign
        cases h
        exact ⟨[], first, others, rfl, rfl, List.forall_mem_nil _, hforeign⟩

theorem tokens_eq_unbalanced_iff {line : Int} {cs : List Char} :
    tokens line cs = .error (problem line .unbalanced) ↔ ShowsImbalance 0 cs := by
  rw [← verdict_eq_unbalanced_iff]
  rcases tokens_cases line cs with
    ⟨hverdict, placed, hplaced⟩ | ⟨hverdict, hfault⟩ | ⟨rest, hverdict, hfault⟩
  · simp [hverdict, hplaced]
  · exact iff_of_true hfault hverdict
  · simp [hverdict, hfault, problem]

/-- A text with an imbalance that does not show has a character that no screen line may have. -/
theorem tokens_of_hidden_imbalance (line : Int) {cs : List Char} (h : Not (IsBalanced cs))
    (hhidden : Not (ShowsImbalance 0 cs)) :
    exists front c back, cs = front ++ c :: back ∧ (forall d, d ∈ front -> IsUsable d) ∧
      Not (IsUsable c) ∧
      tokens line cs =
        .error (problem line (.unexpectedCharacter ((Text.characters (c :: back)).headD []))) := by
  rcases tokens_cases line cs with ⟨hverdict, _⟩ | ⟨hverdict, _⟩ | ⟨rest, hverdict, hfault⟩
  · exact absurd ((closesFrom_zero_iff cs).mp (verdict_eq_sound_iff.mp hverdict).right) h
  · exact absurd (verdict_eq_unbalanced_iff.mp hverdict) hhidden
  · rcases of_verdict_eq_foreign hverdict with ⟨front, c, back, rfl, hcs, hfront, hforeign⟩
    exact ⟨front, c, back, hcs, hfront, hforeign, hfault⟩

/-- The reader never misses a closing parenthesis and never has one too many, as its tokens balance.
A text with an imbalance is refused before: for the imbalance exactly if it shows in front of every
character that no screen line may have, else for the first of these. -/
theorem imbalance_told_by_tokens (line : Int) (cs : List Char) :
    (forall placed, tokens line cs = .ok placed ->
      Not (EndsInLoop line (placed.map Placed.token)) ∧
        Not (StopsAtClosing line (placed.map Placed.token))) ∧
    lineOps line cs ≠ .error (problem line .missingClosing) ∧
    lineOps line cs ≠ .error (problem line (.unexpectedToken [')'])) ∧
    (tokens line cs = .error (problem line .unbalanced) ↔ ShowsImbalance 0 cs) ∧
    (Not (IsBalanced cs) -> Not (ShowsImbalance 0 cs) ->
      exists front c back, cs = front ++ c :: back ∧ (forall d, d ∈ front -> IsUsable d) ∧
        Not (IsUsable c) ∧
        tokens line cs =
          .error (problem line (.unexpectedCharacter ((Text.characters (c :: back)).headD [])))) := by
  refine ⟨?_, ?_, ?_, tokens_eq_unbalanced_iff, tokens_of_hidden_imbalance line⟩
  · intro placed hplaced
    exact ⟨not_endsInLoop_of_tokens hplaced, not_stopsAtClosing_of_tokens hplaced⟩
  · refine lineOps_ne_of_sequence_ne nofun nofun ?_
    intro placed hplaced hsequence
    exact not_endsInLoop_of_tokens hplaced (sequence_eq_missingClosing_iff.mp hsequence)
  · refine lineOps_ne_of_sequence_ne nofun nofun ?_
    intro placed hplaced hsequence
    exact not_stopsAtClosing_of_tokens hplaced (sequence_eq_unexpected_closing_iff.mp hsequence)

/-- A loop that is not closed, and a closing parenthesis without a loop. -/
theorem imbalance_told_by_tokens_loops :
    tokens 0 "2*(R".toList = .error (problem 0 .unbalanced) ∧
      tokens 0 "R)".toList = .error (problem 0 .unbalanced) := by
  have hopen : ShowsImbalance 0 "2*(R".toList :=
    ⟨"2*(R".toList, List.prefix_rfl, Text.forall_mem_of_all (by decide), Or.inr ⟨rfl, by decide⟩⟩
  have hclosing : ShowsImbalance 0 "R)".toList :=
    ⟨"R)".toList, List.prefix_rfl, Text.forall_mem_of_all (by decide), Or.inl (by decide)⟩
  exact ⟨(imbalance_told_by_tokens 0 _).right.right.right.left.mpr hopen,
    (imbalance_told_by_tokens 0 _).right.right.right.left.mpr hclosing⟩

/-- An unexpected character stands in front of where the imbalance would show. -/
theorem imbalance_behind_character :
    Not (IsBalanced "(?".toList) ∧
      tokens 0 "(?".toList = .error (problem 0 (.unexpectedCharacter ['?'])) ∧
      tokens 0 "(?".toList ≠ .error (problem 0 .unbalanced) := by
  have hcut : tokens 0 "(?".toList = .error (problem 0 (.unexpectedCharacter ['?'])) := by
    simp +decide [tokens, tokensFrom, Token.ofSign?, Token.depthAfter?, problem]
  refine ⟨?_, hcut, ?_⟩
  · intro h
    exact absurd h.whole (by decide)
  · rw [hcut]
    intro hsame
    cases hsame

end Screen
end Mosaic
