import Mosaic.Goal.Screen
import Mosaic.Program.Loading
import Mosaic.Proofs.Program.Cuts
import Mosaic.Proofs.Program.Expansion
import Mosaic.Proofs.Text.Layout

/-!
# The lines of patterns

A row of a screen goal follows a pattern, and so does the line that draws it.  Cut into tokens, read
as loops and written out, the line paints the cells of the row one after the other.
-/

namespace Mosaic

namespace Goal

open Screen

/-!
## Inks
-/

namespace Ink

def token (ink : Ink) : Token := .word ink.word

def op (line : Int) (ink : Ink) : Op := .once ⟨line, ink.cell.action⟩

theorem wordAction?_word (ink : Ink) : wordAction? ink.word = some ink.cell.action := by
  cases ink with
  | _ => decide

theorem cuts_word_append (ink : Ink) {line : Int} {depth : Nat} {rest : List Char}
    {row : List Token} (h : Cuts line depth (' ' :: rest) row) :
    Cuts line depth (ink.word ++ ' ' :: rest) (ink.token :: row) := by
  cases ink with
  | _ => exact cuts_word (by decide) (by decide) (by decide) (by decide) h

theorem no_feed_word (ink : Ink) : '\n' ∉ ink.word := by
  cases ink with
  | _ => decide

end Ink

def inkTokens : List Ink -> List Token
  | [] => []
  | [ink] => [ink.token]
  | ink :: others => ink.token :: .plus :: inkTokens others

theorem inkTokens_cons_cons (ink next : Ink) (others : List Ink) :
    inkTokens (ink :: next :: others) = ink.token :: .plus :: inkTokens (next :: others) := rfl

def inkText (inks : List Ink) : List Char := [' ', '+', ' '].intercalate (inks.map Ink.word)

theorem inkText_cons_cons (ink next : Ink) (others : List Ink) (rest : List Char) :
    inkText (ink :: next :: others) ++ rest =
      ink.word ++ ' ' :: '+' :: ' ' :: (inkText (next :: others) ++ rest) := by
  unfold inkText
  rw [List.map_cons, List.map_cons, List.intercalate_cons_cons]
  simp only [List.append_assoc, List.cons_append, List.nil_append]

theorem cuts_inks (ink : Ink) (inks : List Ink) {line : Int} {depth : Nat} {rest : List Char}
    {row : List Token} (h : Cuts line depth (' ' :: rest) row) :
    Cuts line depth (inkText (ink :: inks) ++ ' ' :: rest) (inkTokens (ink :: inks) ++ row) := by
  induction inks generalizing ink with
  | nil =>
      have hsingle : inkText [ink] = ink.word := List.append_nil ink.word
      rw [hsingle]
      exact ink.cuts_word_append h
  | cons next others ih =>
      rw [inkText_cons_cons]
      exact ink.cuts_word_append (cuts_blank (cuts_sign (by decide) rfl rfl (cuts_blank (ih next))))

theorem step_ink (line : Int) (frames : List Frame) (ops : List Op) (ink : Ink) :
    Progress.step line (.items frames ops) ink.token = .ok (.items frames (ink.op line :: ops)) := by
  unfold Ink.token Progress.step
  simp only [ink.wordAction?_word]
  rfl

theorem steps_inks (line : Int) (frames : List Frame) (ops : List Op) (ink : Ink)
    (inks : List Ink) :
    (inkTokens (ink :: inks)).foldlM (Progress.step line) (.items frames ops) =
      .ok (.items frames (((ink :: inks).map (Ink.op line)).reverse ++ ops)) := by
  induction inks generalizing ink ops with
  | nil =>
      rw [inkTokens, Attempts.foldlM_cons_of_ok (step_ink line frames ops ink)]
      rfl
  | cons next others ih =>
      have hplus : Progress.step line (.items frames (ink.op line :: ops)) .plus =
          .ok (.items frames (ink.op line :: ops)) := rfl
      rw [inkTokens_cons_cons, Attempts.foldlM_cons_of_ok (step_ink line frames ops ink),
        Attempts.foldlM_cons_of_ok hplus, ih]
      simp only [List.map_cons, List.reverse_cons, List.append_assoc, List.cons_append,
        List.nil_append]

/-!
## Loops
-/

namespace Pattern

def loopTokens (count : List Char) (inks : List Ink) : List Token :=
  .number count :: .star :: .opening :: (inkTokens inks ++ [.closing])

theorem loop_append (count : List Char) (inks : List Ink) (rest : List Char) :
    loop count inks ++ rest =
      count ++ ' ' :: '*' :: ' ' :: '(' :: ' ' :: (inkText inks ++ ' ' :: ')' :: rest) := by
  unfold loop inkText
  simp only [List.append_assoc, List.cons_append, List.nil_append]

structure IsCount (count : List Char) (n : Nat) : Prop where
  digits : forall d, d ∈ count -> Text.isBlank d = false ∧ Token.ofSign? d = none ∧
    Text.isDigitLike d = true
  value : loopCount count = .ok n
  nonempty : count ≠ []

theorem cuts_loop {count : List Char} {n : Nat} (hcount : IsCount count n) (ink : Ink)
    (inks : List Ink) {line : Int} {depth : Nat} {rest : List Char} {row : List Token}
    (h : Cuts line depth rest row) :
    Cuts line depth (loop count (ink :: inks) ++ rest) (loopTokens count (ink :: inks) ++ row) := by
  have hclosing : Token.closing.depthAfter? (depth + 1) = some depth := by
    simp [Token.depthAfter?]
  have hclosed : Cuts line (depth + 1) (' ' :: ')' :: rest) (.closing :: row) :=
    cuts_blank (cuts_sign (by decide) rfl hclosing h)
  have hinks := cuts_inks ink inks hclosed
  have hopened : Cuts line depth ('(' :: ' ' :: (inkText (ink :: inks) ++ ' ' :: ')' :: rest))
      (.opening :: (inkTokens (ink :: inks) ++ .closing :: row)) :=
    cuts_sign (by decide) rfl rfl (cuts_blank hinks)
  have hrow : loopTokens count (ink :: inks) ++ row =
      .number count :: .star :: .opening :: (inkTokens (ink :: inks) ++ .closing :: row) := by
    unfold loopTokens
    simp only [List.cons_append, List.append_assoc, List.nil_append]
  rw [loop_append, hrow]
  cases count with
  | nil => exact absurd rfl hcount.nonempty
  | cons c others =>
      rcases hcount.digits c (by simp) with ⟨hblank, hsign, _⟩
      exact cuts_number hblank hsign (fun d hd => (hcount.digits d hd).2.2)
        (cuts_blank (cuts_sign (by decide) rfl rfl (cuts_blank hopened)))

theorem steps_loop {count : List Char} {n : Nat} (hcount : IsCount count n) (line : Int)
    (frames : List Frame) (ops : List Op) (ink : Ink) (inks : List Ink) :
    (loopTokens count (ink :: inks)).foldlM (Progress.step line) (.items frames ops) =
      .ok (.items frames (.loop line n ((ink :: inks).map (Ink.op line)) :: ops)) := by
  have hnumber : Progress.step line (.items frames ops) (.number count) =
      .ok (.counted frames ops n) := by
    unfold Progress.step
    simp only [hcount.value]
    rfl
  have hstar : Progress.step line (.counted frames ops n) .star = .ok (.starred frames ops n) := rfl
  have hopening : Progress.step line (.starred frames ops n) .opening =
      .ok (.items (⟨n, ops⟩ :: frames) []) := rfl
  have hinks := steps_inks line (⟨n, ops⟩ :: frames) [] ink inks
  have hclosing : Progress.step line
      (.items (⟨n, ops⟩ :: frames) (((ink :: inks).map (Ink.op line)).reverse ++ [])) .closing =
      .ok (.items frames (.loop line n ((ink :: inks).map (Ink.op line)) :: ops)) := by
    have hgiven : ((ink :: inks).map (Ink.op line)).reverse.isEmpty = false := by simp
    unfold Progress.step
    simp only [List.append_nil, hgiven, List.reverse_reverse, Bool.false_eq_true, if_false]
  unfold loopTokens
  rw [Attempts.foldlM_cons_of_ok hnumber, Attempts.foldlM_cons_of_ok hstar,
    Attempts.foldlM_cons_of_ok hopening, Attempts.foldlM_append_of_ok hinks,
    Attempts.foldlM_cons_of_ok hclosing]
  rfl

theorem lineOps_loop {count : List Char} {n : Nat} (hcount : IsCount count n) (line : Int)
    (ink : Ink) (inks : List Ink) :
    lineOps line (loop count (ink :: inks)) = .ok [.loop line n ((ink :: inks).map (Ink.op line))] := by
  have hcuts := cuts_loop hcount ink inks (@cuts_nil line)
  rw [List.append_nil, List.append_nil] at hcuts
  exact lineOps_of_cuts hcuts (steps_loop hcount line [] [] ink inks) rfl

theorem isCount_sixteen : IsCount ['1', '6'] 16 := by
  refine ⟨?_, rfl, by simp⟩
  simp only [List.forall_mem_cons, List.not_mem_nil, false_implies, implies_true, and_true]
  decide

theorem isCount_digit {d : Char} {n : Nat} (hdigit : Text.isBlank d = false ∧
    Token.ofSign? d = none ∧ Text.isDigitLike d = true) (hvalue : loopCount [d] = .ok n) :
    IsCount [d] n := by
  refine ⟨?_, hvalue, by simp⟩
  simp only [List.mem_singleton, forall_eq]
  exact hdigit

theorem isCount_eight : IsCount ['8'] 8 := isCount_digit (by decide) rfl

theorem isCount_four : IsCount ['4'] 4 := isCount_digit (by decide) rfl

/-!
## Lines
-/

def ops (line : Int) : Pattern -> List Op
  | full ink => [.loop line 16 [ink.op line]]
  | alternate first second => [.loop line 8 [first.op line, second.op line]]
  | quartet first second third fourth =>
      [.loop line 4 [first.op line, second.op line, third.op line, fourth.op line]]
  | halves first second => [.loop line 8 [first.op line], .loop line 8 [second.op line]]

theorem lineOps_line (pattern : Pattern) (start : Int) :
    lineOps start pattern.line = .ok (pattern.ops start) := by
  cases pattern with
  | full ink => exact lineOps_loop isCount_sixteen start ink []
  | alternate first second => exact lineOps_loop isCount_eight start first [second]
  | quartet first second third fourth =>
      exact lineOps_loop isCount_four start first [second, third, fourth]
  | halves first second =>
      have hsecond := cuts_loop isCount_eight second [] (@cuts_nil start)
      rw [List.append_nil, List.append_nil] at hsecond
      have hplus : Cuts start 0 (' ' :: '+' :: ' ' :: loop ['8'] [second])
          (.plus :: loopTokens ['8'] [second]) :=
        cuts_blank (cuts_sign (by decide) rfl rfl (cuts_blank hsecond))
      have hcuts := cuts_loop isCount_eight first [] hplus
      have hline : (halves first second).line =
          loop ['8'] [first] ++ ' ' :: '+' :: ' ' :: loop ['8'] [second] := by
        unfold line
        simp only [List.append_assoc, List.cons_append, List.nil_append]
      have hbetween : Progress.step start (.items [] [.loop start 8 [first.op start]]) .plus =
          .ok (.items [] [.loop start 8 [first.op start]]) := rfl
      have hsteps : (loopTokens ['8'] [first] ++ .plus :: loopTokens ['8'] [second]).foldlM
          (Progress.step start) (.items [] []) =
          .ok (.items [] [.loop start 8 [second.op start], .loop start 8 [first.op start]]) := by
        rw [Attempts.foldlM_append_of_ok (steps_loop isCount_eight start [] [] first [])]
        refine (Attempts.foldlM_cons_of_ok hbetween _).trans ?_
        exact steps_loop isCount_eight start [] [.loop start 8 [first.op start]] second []
      rw [hline]
      exact lineOps_of_cuts hcuts hsteps rfl

/-- Written out, the loops of a pattern paint its cells one by one. -/
theorem expandAllUpTo_ops (pattern : Pattern) (line : Int) :
    Op.expandAllUpTo Program.screenWidth (pattern.ops line) =
      (pattern.cells.map Cell.action).map (Command.mk line) := by
  cases pattern with
  | _ =>
      simp [ops, cells, Ink.op, Program.screenWidth, Op.expandAllUpTo, Op.expandUpTo,
        Op.copiesFor]

theorem length_cells (pattern : Pattern) : pattern.cells.length = 16 := by
  cases pattern with
  | full ink => rfl
  | alternate first second => rfl
  | quartet first second third fourth => rfl
  | halves first second => rfl

theorem no_feed_inkText (inks : List Ink) : '\n' ∉ inkText inks := by
  induction inks with
  | nil => simp [inkText]
  | cons ink others ih =>
      cases others with
      | nil =>
          have hsingle : inkText [ink] = ink.word := List.append_nil ink.word
          rw [hsingle]
          exact ink.no_feed_word
      | cons next others =>
          have htext := inkText_cons_cons ink next others []
          rw [List.append_nil, List.append_nil] at htext
          rw [htext]
          simp [ink.no_feed_word, ih]

theorem no_feed_loop {count : List Char} (hcount : '\n' ∉ count) (inks : List Ink) :
    '\n' ∉ loop count inks := by
  have htext := loop_append count inks []
  rw [List.append_nil] at htext
  rw [htext]
  simp [hcount, no_feed_inkText]

theorem no_feed_line (pattern : Pattern) : '\n' ∉ pattern.line := by
  cases pattern with
  | full ink => exact no_feed_loop (by decide) [ink]
  | alternate first second => exact no_feed_loop (by decide) [first, second]
  | quartet first second third fourth =>
      exact no_feed_loop (by decide) [first, second, third, fourth]
  | halves first second =>
      have hfirst := @no_feed_loop ['8'] (by decide) [first]
      have hsecond := @no_feed_loop ['8'] (by decide) [second]
      simp [line, hfirst, hsecond]

theorem loop_concat (front count : List Char) (inks : List Ink) :
    exists inner, front ++ loop count inks = inner ++ [')'] := by
  have htext := loop_append count inks []
  rw [List.append_nil] at htext
  exact ⟨front ++ (count ++ ' ' :: '*' :: ' ' :: '(' :: ' ' :: (inkText inks ++ [' '])), by
    rw [htext]
    simp only [List.append_assoc, List.cons_append, List.nil_append]⟩

theorem trim_line (pattern : Pattern) :
    Text.trim pattern.line = pattern.line ∧ pattern.line.isEmpty = false := by
  cases pattern with
  | full ink =>
      rcases loop_concat [] ['1', '6'] [ink] with ⟨inner, hinner⟩
      exact ⟨@Text.trim_eq_self '1' ')' _ _ (by decide) (by decide) rfl hinner, rfl⟩
  | alternate first second =>
      rcases loop_concat [] ['8'] [first, second] with ⟨inner, hinner⟩
      exact ⟨@Text.trim_eq_self '8' ')' _ _ (by decide) (by decide) rfl hinner, rfl⟩
  | quartet first second third fourth =>
      rcases loop_concat [] ['4'] [first, second, third, fourth] with ⟨inner, hinner⟩
      exact ⟨@Text.trim_eq_self '4' ')' _ _ (by decide) (by decide) rfl hinner, rfl⟩
  | halves first second =>
      rcases loop_concat (loop ['8'] [first] ++ [' ', '+', ' ']) ['8'] [second] with
        ⟨inner, hinner⟩
      exact ⟨@Text.trim_eq_self '8' ')' _ _ (by decide) (by decide) rfl hinner, rfl⟩

theorem loadLine_line (pattern : Pattern) (start : Int) :
    Program.loadLine .pixel start Mode.pixel.fixedSize pattern.line =
      .ok ((pattern.cells.map Cell.action).map (Command.mk start), Mode.pixel.fixedSize) := by
  unfold Program.loadLine Program.parseLine
  simp only [pattern.trim_line.left, pattern.trim_line.right, lineOps_line, Bool.false_eq_true,
    if_false]
  rw [← expandAllUpTo_ops]
  rfl

end Pattern

end Goal
end Mosaic
