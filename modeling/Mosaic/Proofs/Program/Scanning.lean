import Mosaic.Proofs.Program.Tokens
import Mosaic.Proofs.Text.Classes
import Mosaic.Proofs.Text.Pieces

/-!
# Cutting screen lines without loss

Whether a screen line is cut into tokens shows character by character: each of them has to be one
that a screen line may have, and the parentheses have to balance.  The tokens then stand in the line
one behind the other, with white space between them, and a number or a word is never broken off.
-/

namespace Mosaic
namespace Screen

/-!
## Characters and parentheses
-/

def IsUsable (c : Char) : Prop :=
  Text.isBlank c = true ∨ c ∈ ['*', '(', ')', '+'] ∨ Text.isDigitLike c = true ∨
    Text.isLetter c = true

instance (c : Char) : Decidable (IsUsable c) := inferInstanceAs (Decidable (_ ∨ _))

/-- A text that closes the parentheses that are open in front of it and its own: no start of it
closes more of them than there are, and in the end none is open. -/
structure ClosesFrom (depth : Nat) (cs : List Char) : Prop where
  fronts : forall front, front <+: cs -> front.count ')' ≤ depth + front.count '('
  whole : depth + cs.count '(' = cs.count ')'

/-- A text with balanced parentheses: no start of it closes more of them than it opens, and in the
end it has closed as many as it has opened. -/
structure IsBalanced (cs : List Char) : Prop where
  fronts : forall front, front <+: cs -> front.count ')' ≤ front.count '('
  whole : cs.count '(' = cs.count ')'

theorem closesFrom_zero_iff (cs : List Char) : ClosesFrom 0 cs ↔ IsBalanced cs := by
  constructor
  · intro h
    exact ⟨fun front hfront => by simpa using h.fronts front hfront, by simpa using h.whole⟩
  · intro h
    exact ⟨fun front hfront => by simpa using h.fronts front hfront, by simpa using h.whole⟩

def depthBehind? (depth : Nat) (c : Char) : Option Nat :=
  if c = '(' then some (depth + 1)
  else if c = ')' then if depth = 0 then none else some (depth - 1)
  else some depth

theorem depthBehind?_eq_some {depth deeper : Nat} {c : Char}
    (h : depthBehind? depth c = some deeper) (cs : List Char) :
    depth + (c :: cs).count '(' + cs.count ')' = deeper + cs.count '(' + (c :: cs).count ')' := by
  unfold depthBehind? at h
  rw [List.count_cons, List.count_cons]
  grind

theorem depthBehind?_eq_none {depth : Nat} {c : Char} (h : depthBehind? depth c = none) :
    depth = 0 ∧ c = ')' := by
  unfold depthBehind? at h
  grind

theorem closesFrom_cons_iff {depth : Nat} {c : Char} {rest : List Char} :
    ClosesFrom depth (c :: rest) ↔
      exists deeper, depthBehind? depth c = some deeper ∧ ClosesFrom deeper rest := by
  constructor
  · intro h
    cases hdepth : depthBehind? depth c with
    | none =>
        rcases depthBehind?_eq_none hdepth with ⟨rfl, rfl⟩
        have hfirst := h.fronts [')'] ⟨rest, rfl⟩
        exact absurd hfirst (by decide)
    | some deeper =>
        refine ⟨deeper, rfl, ?_, ?_⟩
        · intro front hfront
          have hbehind := depthBehind?_eq_some hdepth front
          have hlonger := h.fronts (c :: front) (List.cons_prefix_cons.mpr ⟨rfl, hfront⟩)
          omega
        · have hbehind := depthBehind?_eq_some hdepth rest
          have hwhole := h.whole
          omega
  · intro hgiven
    rcases hgiven with ⟨deeper, hdepth, h⟩
    refine ⟨?_, ?_⟩
    · intro front hfront
      rcases List.prefix_cons_iff.mp hfront with rfl | ⟨shorter, rfl, hshorter⟩
      · exact Nat.zero_le _
      · have hbehind := depthBehind?_eq_some hdepth shorter
        have hfits := h.fronts shorter hshorter
        omega
    · have hbehind := depthBehind?_eq_some hdepth rest
      have hwhole := h.whole
      omega

inductive Verdict
  | sound
  | unbalanced
  | foreign (rest : List Char)
  deriving DecidableEq

/-- The first fault from the left: a parenthesis that closes nothing, a character that no screen
line has, or in the end a parenthesis that is still open. -/
def verdict (depth : Nat) : List Char -> Verdict
  | [] => if depth = 0 then .sound else .unbalanced
  | c :: rest =>
      if IsUsable c then
        match depthBehind? depth c with
        | some deeper => verdict deeper rest
        | none => .unbalanced
      else .foreign (c :: rest)

theorem verdict_eq_sound_iff {depth : Nat} {cs : List Char} :
    verdict depth cs = .sound ↔ (forall c, c ∈ cs -> IsUsable c) ∧ ClosesFrom depth cs := by
  induction cs generalizing depth with
  | nil =>
      have hempty : ClosesFrom depth [] ↔ depth = 0 := by
        constructor
        · intro h
          exact h.whole
        · intro h
          refine ⟨?_, h⟩
          intro front hfront
          rw [List.prefix_nil.mp hfront]
          exact Nat.zero_le _
      rw [hempty]
      simp [verdict]
  | cons c rest ih =>
      rw [closesFrom_cons_iff, List.forall_mem_cons, verdict]
      by_cases husable : IsUsable c
      · cases hdepth : depthBehind? depth c with
        | none => simp [husable]
        | some deeper => simp [husable, ih]
      · simp [husable]

/-!
## Tokens and characters
-/

def IsPlain (c : Char) : Prop := IsUsable c ∧ c ≠ '(' ∧ c ≠ ')'

theorem isPlain_of_isBlank {c : Char} (h : Text.isBlank c = true) : IsPlain c := by
  refine ⟨Or.inl h, ?_, ?_⟩
  · rintro rfl
    exact absurd h (by decide)
  · rintro rfl
    exact absurd h (by decide)

theorem isPlain_of_isDigitLike {c : Char} (h : Text.isDigitLike c = true) : IsPlain c := by
  refine ⟨Or.inr (Or.inr (Or.inl h)), ?_, ?_⟩
  · rintro rfl
    exact absurd h (by decide)
  · rintro rfl
    exact absurd h (by decide)

theorem isPlain_of_isLetter {c : Char} (h : Text.isLetter c = true) : IsPlain c := by
  refine ⟨Or.inr (Or.inr (Or.inr h)), ?_, ?_⟩
  · rintro rfl
    exact absurd h (by decide)
  · rintro rfl
    exact absurd h (by decide)

theorem verdict_append_of_plain {run : List Char} (h : forall c, c ∈ run -> IsPlain c)
    (depth : Nat) (rest : List Char) : verdict depth (run ++ rest) = verdict depth rest := by
  induction run with
  | nil => rfl
  | cons c others ih =>
      rcases h c List.mem_cons_self with ⟨husable, hopening, hclosing⟩
      have hdepth : depthBehind? depth c = some depth := by
        unfold depthBehind?
        rw [if_neg hopening, if_neg hclosing]
      rw [List.cons_append, verdict, if_pos husable, hdepth]
      exact ih fun other hother => h other (List.mem_cons_of_mem c hother)

theorem verdict_of_run {test : Char -> Bool} (hplain : forall c, test c = true -> IsPlain c)
    {c : Char} (h : test c = true) (depth : Nat) (rest : List Char) :
    verdict depth (c :: rest) = verdict depth (rest.dropWhile test) := by
  have hrun : forall other, other ∈ c :: rest.takeWhile test -> IsPlain other := by
    intro other hother
    rcases List.mem_cons.mp hother with rfl | hlater
    · exact hplain other h
    · exact hplain other (List.all_eq_true.mp List.all_takeWhile other hlater)
  rw [← verdict_append_of_plain hrun depth (rest.dropWhile test), List.cons_append,
    List.takeWhile_append_dropWhile]

inductive RunKind
  | digits
  | letters

def RunKind.test : RunKind -> Char -> Bool
  | digits => Text.isDigitLike
  | letters => Text.isLetter

def Token.runKind? : Token -> Option RunKind
  | number _ => some .digits
  | word _ => some .letters
  | _ => none

theorem ofSign?_eq_some {c : Char} {token : Token} (h : Token.ofSign? c = some token) :
    IsUsable c ∧ token.text = [c] ∧ token.runKind? = none ∧
      forall depth, token.depthAfter? depth = depthBehind? depth c := by
  unfold Token.ofSign? at h
  split at h
  · cases h
    exact ⟨Or.inr (Or.inl (by decide)), rfl, rfl, fun depth => rfl⟩
  · cases h
    exact ⟨Or.inr (Or.inl (by decide)), rfl, rfl, fun depth => rfl⟩
  · cases h
    exact ⟨Or.inr (Or.inl (by decide)), rfl, rfl, fun depth => rfl⟩
  · cases h
    exact ⟨Or.inr (Or.inl (by decide)), rfl, rfl, fun depth => rfl⟩
  · cases h

theorem ofSign?_eq_none {c : Char} (h : Token.ofSign? c = none) : c ∉ ['*', '(', ')', '+'] := by
  intro hmem
  simp only [List.mem_cons, List.not_mem_nil, or_false] at hmem
  rcases hmem with rfl | rfl | rfl | rfl
  · cases h
  · cases h
  · cases h
  · cases h

def Verdict.Tells (line : Int) (cut : Except Fault (List Placed)) : Verdict -> Prop
  | sound => exists placed, cut = .ok placed
  | unbalanced => cut = .error (problem line .unbalanced)
  | foreign rest =>
      cut = .error (problem line (.unexpectedCharacter ((Text.characters rest).headD [])))

theorem Verdict.Tells.cons {line : Int} {cut : Except Fault (List Placed)} {verdict : Verdict}
    (h : verdict.Tells line cut) (item : Placed) :
    verdict.Tells line (cut >>= fun placed => pure (item :: placed)) := by
  cases verdict with
  | sound =>
      rcases h with ⟨placed, rfl⟩
      exact ⟨item :: placed, rfl⟩
  | unbalanced =>
      rw [Verdict.Tells] at h
      rw [h]
      rfl
  | foreign rest =>
      rw [Verdict.Tells] at h
      rw [h]
      rfl

theorem verdict_tells (line : Int) (position depth : Nat) (cs : List Char) :
    (verdict depth cs).Tells line (tokensFrom line position depth cs) := by
  fun_induction tokensFrom line position depth cs with
  | case1 position => exact ⟨[], rfl⟩
  | case2 position depth hdepth =>
      rw [verdict, if_neg hdepth]
      rfl
  | case3 position depth c rest hblank ih =>
      have hplain : forall other, other ∈ [c] -> IsPlain other := by
        simpa using isPlain_of_isBlank hblank
      rw [← List.singleton_append, verdict_append_of_plain hplain]
      exact ih
  | case4 position depth c rest hblank token htoken deeper hdeeper ih =>
      rcases ofSign?_eq_some htoken with ⟨husable, _, _, hdepth⟩
      rw [verdict, if_pos husable, ← hdepth, hdeeper]
      exact ih.cons _
  | case5 position depth c rest hblank token htoken hnone =>
      rcases ofSign?_eq_some htoken with ⟨husable, _, _, hdepth⟩
      rw [verdict, if_pos husable, ← hdepth, hnone]
      rfl
  | case6 position depth c rest hblank hsign hdigit run ih =>
      rw [verdict_of_run (fun _ => isPlain_of_isDigitLike) hdigit]
      exact ih.cons _
  | case7 position depth c rest hblank hsign hdigit hletter run ih =>
      rw [verdict_of_run (fun _ => isPlain_of_isLetter) hletter]
      exact ih.cons _
  | case8 position depth c rest hblank hsign hdigit hletter =>
      have hforeign : Not (IsUsable c) := by
        rintro (h | h | h | h)
        · exact hblank h
        · exact ofSign?_eq_none hsign h
        · exact hdigit h
        · exact hletter h
      rw [verdict, if_neg hforeign]
      rfl

theorem tokens_cases (line : Int) (cs : List Char) :
    (verdict 0 cs = .sound ∧ exists placed, tokens line cs = .ok placed) ∨
      (verdict 0 cs = .unbalanced ∧ tokens line cs = .error (problem line .unbalanced)) ∨
      exists rest, verdict 0 cs = .foreign rest ∧ tokens line cs =
        .error (problem line (.unexpectedCharacter ((Text.characters rest).headD []))) := by
  have htells := verdict_tells line 0 0 cs
  cases hverdict : verdict 0 cs with
  | sound =>
      rw [hverdict] at htells
      exact Or.inl ⟨rfl, htells⟩
  | unbalanced =>
      rw [hverdict] at htells
      exact Or.inr (Or.inl ⟨rfl, htells⟩)
  | foreign rest =>
      rw [hverdict] at htells
      exact Or.inr (Or.inr ⟨rest, rfl, htells⟩)

/-- A line is cut into tokens exactly if all its characters are usable and its parentheses
balance. -/
theorem tokens_ok_iff (line : Int) (cs : List Char) :
    (exists placed, tokens line cs = .ok placed) ↔
      (forall c, c ∈ cs -> IsUsable c) ∧ IsBalanced cs := by
  rw [← closesFrom_zero_iff, ← verdict_eq_sound_iff]
  rcases tokens_cases line cs with
    ⟨hverdict, hplaced⟩ | ⟨hverdict, hfault⟩ | ⟨rest, hverdict, hfault⟩
  · exact iff_of_true hplaced hverdict
  · simp [hverdict, hfault]
  · simp [hverdict, hfault]

theorem grammar_of_tokens_error {line : Int} {cs : List Char} {fault : Fault}
    (h : tokens line cs = .error fault) :
    exists cause, fault = problem line cause ∧ cause.kind = .grammar := by
  rcases tokens_cases line cs with ⟨_, placed, hplaced⟩ | ⟨_, hfault⟩ | ⟨rest, _, hfault⟩
  · cases h.symm.trans hplaced
  · exact ⟨_, Except.error.inj (h.symm.trans hfault), rfl⟩
  · exact ⟨_, Except.error.inj (h.symm.trans hfault), rfl⟩

/-!
## How a line is cut
-/

/-- A text from a position on, with so many parentheses open, and its tokens: white space is passed
over, a sign is a token and opens or closes a parenthesis, and a number or a word is a run of one
class that goes on as long as it can. -/
inductive Scans : Nat -> Nat -> List Char -> List Placed -> Prop
  | done (position : Nat) : Scans position 0 [] []
  | blank {position depth : Nat} {c : Char} {rest : List Char} {placed : List Placed}
      (hblank : Text.isBlank c = true) (h : Scans (position + 1) depth rest placed) :
      Scans position depth (c :: rest) placed
  | sign {position depth deeper : Nat} {c : Char} {rest : List Char} {token : Token}
      {placed : List Placed} (htoken : Token.ofSign? c = some token)
      (hdepth : token.depthAfter? depth = some deeper)
      (h : Scans (position + 1) deeper rest placed) :
      Scans position depth (c :: rest) (⟨token, position⟩ :: placed)
  | run {position depth : Nat} {c : Char} {rest : List Char} {token : Token} {kind : RunKind}
      {placed : List Placed} (hkind : token.runKind? = some kind)
      (htext : token.text = c :: rest.takeWhile kind.test) (hc : kind.test c = true)
      (h : Scans (position + token.text.length) depth (rest.dropWhile kind.test) placed) :
      Scans position depth (c :: rest) (⟨token, position⟩ :: placed)

theorem scans_of_tokensFrom {line : Int} {position depth : Nat} {cs : List Char}
    {placed : List Placed} (h : tokensFrom line position depth cs = .ok placed) :
    Scans position depth cs placed := by
  fun_induction tokensFrom line position depth cs generalizing placed with
  | case1 position =>
      cases h
      exact Scans.done position
  | case2 => cases h
  | case3 position depth c rest hblank ih => exact Scans.blank hblank (ih h)
  | case4 position depth c rest hblank token htoken deeper hdeeper ih =>
      rcases Attempts.bind_eq_ok_iff.mp h with ⟨others, hothers, hplaced⟩
      cases hplaced
      exact Scans.sign htoken hdeeper (ih hothers)
  | case5 => cases h
  | case6 position depth c rest hblank hsign hdigit run =>
      rename_i ih
      rcases Attempts.bind_eq_ok_iff.mp h with ⟨others, hothers, hplaced⟩
      cases hplaced
      exact Scans.run rfl rfl hdigit (ih hothers)
  | case7 position depth c rest hblank hsign hdigit hletter run =>
      rename_i ih
      rcases Attempts.bind_eq_ok_iff.mp h with ⟨others, hothers, hplaced⟩
      cases hplaced
      exact Scans.run rfl rfl hletter (ih hothers)
  | case8 => cases h

/-!
## Tokens in their line
-/

def Placed.stop (item : Placed) : Nat := item.position + item.token.text.length

def Placed.IsApart (item other : Placed) : Prop :=
  item.stop ≤ other.position ∨ other.stop ≤ item.position

instance : Std.Symm Placed.IsApart where
  symm _ _ h := h.symm

/-- A token that stands in a text at its position and is not broken off behind. -/
structure Placed.StandsIn (cs : List Char) (item : Placed) : Prop where
  nonempty : item.token.text ≠ []
  slice : (cs.drop item.position).take item.token.text.length = item.token.text
  filled : forall kind, item.token.runKind? = some kind ->
    forall c, c ∈ item.token.text -> kind.test c = true
  ends : forall kind, item.token.runKind? = some kind ->
    forall c, cs[item.stop]? = some c -> kind.test c = false

/-- Tokens that cover a text from a place on: they stand in it one behind the other, and what is not
on one of them is white space. -/
structure CoversFrom (cs : List Char) (start : Nat) (placed : List Placed) : Prop where
  ordered : placed.Pairwise fun item later => item.stop ≤ later.position
  behind : forall item, item ∈ placed -> start ≤ item.position
  stands : forall item, item ∈ placed -> item.StandsIn cs
  blanks : forall index c, start ≤ index -> cs[index]? = some c ->
    Text.isBlank c = true ∨ exists item, item ∈ placed ∧ item.position ≤ index ∧ index < item.stop

theorem drop_of_append {cs front rest : List Char} {start : Nat}
    (h : cs.drop start = front ++ rest) : cs.drop (start + front.length) = rest := by
  rw [← List.drop_drop, h, List.drop_left]

theorem coversFrom_nil {cs : List Char} {start : Nat} (h : cs.drop start = []) :
    CoversFrom cs start [] := by
  refine ⟨List.Pairwise.nil, nofun, nofun, ?_⟩
  intro index c hindex hc
  have hlength := List.drop_eq_nil_iff.mp h
  rw [List.getElem?_eq_none (Nat.le_trans hlength hindex)] at hc
  cases hc

theorem CoversFrom.blank {cs rest : List Char} {start : Nat} {c : Char} {placed : List Placed}
    (hrest : cs.drop start = c :: rest) (hblank : Text.isBlank c = true)
    (h : CoversFrom cs (start + 1) placed) : CoversFrom cs start placed := by
  refine ⟨h.ordered, fun item hitem => Nat.le_of_succ_le (h.behind item hitem), h.stands, ?_⟩
  intro index other hindex hother
  rcases Nat.eq_or_lt_of_le hindex with rfl | hlater
  · left
    rw [← List.head?_drop, hrest] at hother
    cases hother
    exact hblank
  · exact h.blanks index other hlater hother

theorem CoversFrom.cons {cs rest : List Char} {start : Nat} {token : Token} {placed : List Placed}
    (hrest : cs.drop start = token.text ++ rest) (hnonempty : token.text ≠ [])
    (hfilled : forall kind, token.runKind? = some kind ->
      forall c, c ∈ token.text -> kind.test c = true)
    (hends : forall kind, token.runKind? = some kind ->
      forall c, rest.head? = some c -> kind.test c = false)
    (h : CoversFrom cs (start + token.text.length) placed) :
    CoversFrom cs start (⟨token, start⟩ :: placed) := by
  have hstands : Placed.StandsIn cs ⟨token, start⟩ := by
    refine ⟨hnonempty, ?_, hfilled, ?_⟩
    · show (cs.drop start).take token.text.length = token.text
      rw [hrest, List.take_left]
    · intro kind hkind c hc
      refine hends kind hkind c ?_
      rw [← drop_of_append hrest, List.head?_drop]
      exact hc
  refine ⟨List.Pairwise.cons h.behind h.ordered, ?_, ?_, ?_⟩
  · intro item hitem
    rcases List.mem_cons.mp hitem with rfl | hlater
    · exact Nat.le_refl start
    · exact Nat.le_of_add_right_le (h.behind item hlater)
  · exact List.forall_mem_cons.mpr ⟨hstands, h.stands⟩
  · intro index c hindex hc
    by_cases hinside : index < start + token.text.length
    · exact Or.inr ⟨⟨token, start⟩, List.mem_cons_self, hindex, hinside⟩
    · rcases h.blanks index c (Nat.le_of_not_lt hinside) hc with hblank | ⟨item, hitem, hcovers⟩
      · exact Or.inl hblank
      · exact Or.inr ⟨item, List.mem_cons_of_mem _ hitem, hcovers⟩

theorem CoversFrom.run {cs rest : List Char} {start : Nat} {c : Char} {kind : RunKind}
    {token : Token} {placed : List Placed} (hrest : cs.drop start = c :: rest)
    (hkind : token.runKind? = some kind) (htext : token.text = c :: rest.takeWhile kind.test)
    (hc : kind.test c = true)
    (h : cs.drop (start + token.text.length) = rest.dropWhile kind.test ->
      CoversFrom cs (start + token.text.length) placed) :
    CoversFrom cs start (⟨token, start⟩ :: placed) := by
  have hbehind : cs.drop start = token.text ++ rest.dropWhile kind.test := by
    rw [hrest, htext, List.cons_append, List.takeWhile_append_dropWhile]
  refine CoversFrom.cons hbehind ?_ ?_ ?_ (h (drop_of_append hbehind))
  · rw [htext]
    exact List.cons_ne_nil _ _
  · intro other hother d hd
    cases hkind.symm.trans hother
    rw [htext] at hd
    rcases List.mem_cons.mp hd with rfl | hlater
    · exact hc
    · exact List.all_eq_true.mp List.all_takeWhile d hlater
  · intro other hother d hd
    cases hkind.symm.trans hother
    have hend := List.head?_dropWhile_not kind.test rest
    rw [hd] at hend
    simpa using hend

theorem coversFrom_of_scans {cs rest : List Char} {position depth : Nat} {placed : List Placed}
    (h : Scans position depth rest placed) (hrest : cs.drop position = rest) :
    CoversFrom cs position placed := by
  induction h with
  | done position => exact coversFrom_nil hrest
  | blank hblank _ ih =>
      rename_i position depth c rest placed _
      have hbehind : cs.drop (position + [c].length) = rest := drop_of_append hrest
      exact CoversFrom.blank hrest hblank (ih hbehind)
  | sign htoken _ _ ih =>
      rename_i position depth deeper c rest token placed _ _
      rcases ofSign?_eq_some htoken with ⟨_, htext, hnone, _⟩
      have hthere : cs.drop position = token.text ++ rest := by
        rw [htext]
        exact hrest
      refine CoversFrom.cons hthere (by simp [htext]) (by simp [hnone]) (by simp [hnone]) ?_
      have hbehind := drop_of_append hthere
      rw [htext] at hbehind ⊢
      exact ih hbehind
  | run hkind htext hc _ ih => exact CoversFrom.run hrest hkind htext hc ih

/-!
## Longest runs
-/

/-- A longest stretch of a text with characters of one class only. -/
structure IsLongestRun (test : Char -> Bool) (cs : List Char) (start stop : Nat) : Prop where
  nonempty : start < stop
  inside : stop ≤ cs.length
  filled : forall index c, start ≤ index -> index < stop -> cs[index]? = some c -> test c = true
  front : forall index c, index + 1 = start -> cs[index]? = some c -> test c = false
  behind : forall c, cs[stop]? = some c -> test c = false

/-- A text and all its tokens: each stands in the text where it says and behind the one in front of
it, what is on no token is white space, and numbers and words are as long as they can be. -/
structure Covers (cs : List Char) (placed : List Placed) : Prop where
  ascending : placed.Pairwise fun item later => item.position < later.position
  apart : placed.Pairwise fun item later => item.stop ≤ later.position
  slices : forall item, item ∈ placed ->
    (cs.drop item.position).take item.token.text.length = item.token.text
  blanks : forall index c, cs[index]? = some c ->
    (forall item, item ∈ placed -> Not (item.position ≤ index ∧ index < item.stop)) ->
      Text.isBlank c = true
  numbers : forall item text, item ∈ placed -> item.token = .number text ->
    IsLongestRun Text.isDigitLike cs item.position item.stop
  words : forall item text, item ∈ placed -> item.token = .word text ->
    IsLongestRun Text.isLetter cs item.position item.stop

theorem RunKind.isBlank_of_test {kind : RunKind} {c : Char} (h : kind.test c = true) :
    Text.isBlank c = false := by
  cases kind with
  | digits => exact (Text.not_padding_of_isDigitLike h).left
  | letters => exact Text.isBlank_of_isLetter h

theorem RunKind.eq_of_test {kind other : RunKind} {c : Char} (h : kind.test c = true)
    (hother : other.test c = true) : kind = other := by
  cases kind with
  | digits =>
      cases other with
      | digits => rfl
      | letters => cases h.symm.trans (Text.isDigitLike_of_isLetter hother)
  | letters =>
      cases other with
      | digits => cases hother.symm.trans (Text.isDigitLike_of_isLetter h)
      | letters => rfl

theorem test_of_sign {token : Token} (h : token.runKind? = none) (kind : RunKind) {c : Char}
    (hc : c ∈ token.text) : kind.test c = false := by
  cases token with
  | number text => cases h
  | word text => cases h
  | star =>
      rw [List.mem_singleton.mp hc]
      cases kind <;> decide
  | opening =>
      rw [List.mem_singleton.mp hc]
      cases kind <;> decide
  | closing =>
      rw [List.mem_singleton.mp hc]
      cases kind <;> decide
  | plus =>
      rw [List.mem_singleton.mp hc]
      cases kind <;> decide

namespace Placed.StandsIn

variable {cs : List Char} {item : Placed}

theorem position_lt_stop (h : item.StandsIn cs) : item.position < item.stop := by
  have hlength := List.length_pos_iff.mpr h.nonempty
  unfold Placed.stop
  omega

theorem stop_le_length (h : item.StandsIn cs) : item.stop ≤ cs.length := by
  have hlength := congrArg List.length h.slice
  have hpositive := List.length_pos_iff.mpr h.nonempty
  rw [List.length_take, List.length_drop] at hlength
  unfold Placed.stop
  omega

theorem exists_first (h : item.StandsIn cs) : exists c, cs[item.position]? = some c :=
  ⟨_, List.getElem?_eq_getElem (Nat.lt_of_lt_of_le h.position_lt_stop h.stop_le_length)⟩

theorem mem_text (h : item.StandsIn cs) {index : Nat} {c : Char} (hlow : item.position ≤ index)
    (hhigh : index < item.stop) (hc : cs[index]? = some c) : c ∈ item.token.text := by
  have hinside : index - item.position < item.token.text.length := by
    unfold Placed.stop at hhigh
    omega
  have hthere : item.token.text[index - item.position]? = some c := by
    rw [← h.slice, List.getElem?_take_of_lt hinside, List.getElem?_drop,
      Nat.add_sub_cancel' hlow, hc]
  exact List.mem_of_getElem? hthere

end Placed.StandsIn

namespace CoversFrom

variable {cs : List Char} {placed : List Placed}

theorem stop_eq_position (h : CoversFrom cs 0 placed) {item other : Placed} (hitem : item ∈ placed)
    (hother : other ∈ placed) {index : Nat} (hindex : index + 1 = item.position)
    (hlow : other.position ≤ index) (hhigh : index < other.stop) : other.stop = item.position := by
  have hdifferent : other ≠ item := by
    rintro rfl
    omega
  have hlong := (h.stands item hitem).position_lt_stop
  have hapart : placed.Pairwise Placed.IsApart := h.ordered.imp Or.inl
  rcases hapart.forall hother hitem hdifferent with hfront | hbehind
  · omega
  · omega

theorem test_of_front (h : CoversFrom cs 0 placed) {item : Placed} (hitem : item ∈ placed)
    {kind : RunKind} (hkind : item.token.runKind? = some kind) {index : Nat} {c : Char}
    (hindex : index + 1 = item.position) (hc : cs[index]? = some c) : kind.test c = false := by
  cases htest : kind.test c with
  | false => rfl
  | true =>
      rcases h.blanks index c (Nat.zero_le index) hc with hblank | ⟨other, hother, hlow, hhigh⟩
      · cases hblank.symm.trans (RunKind.isBlank_of_test htest)
      · have hmem := (h.stands other hother).mem_text hlow hhigh hc
        cases hsort : other.token.runKind? with
        | none => cases htest.symm.trans (test_of_sign hsort kind hmem)
        | some sort =>
            -- Both tokens are runs of one class, and the first would have gone on with the second.
            have hsame :=
              RunKind.eq_of_test ((h.stands other hother).filled sort hsort c hmem) htest
            have hstands := h.stands item hitem
            rcases hstands.exists_first with ⟨first, hfirst⟩
            have hinside := hstands.filled kind hkind first
              (hstands.mem_text (Nat.le_refl _) hstands.position_lt_stop hfirst)
            rw [← h.stop_eq_position hitem hother hindex hlow hhigh] at hfirst
            have hends := (h.stands other hother).ends sort hsort first hfirst
            rw [hsame] at hends
            cases hends.symm.trans hinside

theorem isLongestRun (h : CoversFrom cs 0 placed) {item : Placed} (hitem : item ∈ placed)
    {kind : RunKind} (hkind : item.token.runKind? = some kind) :
    IsLongestRun kind.test cs item.position item.stop := by
  have hstands := h.stands item hitem
  refine ⟨hstands.position_lt_stop, hstands.stop_le_length, ?_, ?_, hstands.ends kind hkind⟩
  · intro index c hlow hhigh hc
    exact hstands.filled kind hkind c (hstands.mem_text hlow hhigh hc)
  · intro index c hindex hc
    exact h.test_of_front hitem hkind hindex hc

theorem covers (h : CoversFrom cs 0 placed) : Covers cs placed := by
  refine ⟨?_, h.ordered, fun item hitem => (h.stands item hitem).slice, ?_, ?_, ?_⟩
  · refine h.ordered.imp_of_mem ?_
    intro item later hitem _ hapart
    exact Nat.lt_of_lt_of_le (h.stands item hitem).position_lt_stop hapart
  · intro index c hc hfree
    rcases h.blanks index c (Nat.zero_le index) hc with hblank | ⟨item, hitem, hcovers⟩
    · exact hblank
    · exact absurd hcovers (hfree item hitem)
  · intro item text hitem htoken
    have hkind : item.token.runKind? = some .digits := by
      rw [htoken]
      rfl
    exact h.isLongestRun hitem hkind
  · intro item text hitem htoken
    have hkind : item.token.runKind? = some .letters := by
      rw [htoken]
      rfl
    exact h.isLongestRun hitem hkind

end CoversFrom

/-- A line is cut into tokens exactly if it has usable characters only and its parentheses balance,
and its tokens then cover it; any other line has a problem of its grammar. -/
theorem tokens_lossless (line : Int) (cs : List Char) :
    ((exists placed, tokens line cs = .ok placed) ↔
      (forall c, c ∈ cs -> IsUsable c) ∧ IsBalanced cs) ∧
    (Not ((forall c, c ∈ cs -> IsUsable c) ∧ IsBalanced cs) ->
      exists cause, tokens line cs = .error (problem line cause) ∧ cause.kind = .grammar) ∧
    forall placed, tokens line cs = .ok placed -> Covers cs placed := by
  refine ⟨tokens_ok_iff line cs, ?_, ?_⟩
  · intro hunfit
    cases htokens : tokens line cs with
    | ok placed => exact absurd ((tokens_ok_iff line cs).mp ⟨placed, htokens⟩) hunfit
    | error fault =>
        rcases grammar_of_tokens_error htokens with ⟨cause, rfl, hkind⟩
        exact ⟨cause, rfl, hkind⟩
  · intro placed hplaced
    exact (coversFrom_of_scans (scans_of_tokensFrom hplaced) rfl).covers

/-- A loop over two colours with white space between them. -/
theorem tokens_lossless_loop :
    tokens 0 "12*(r g)".toList = .ok [⟨.number ['1', '2'], 0⟩, ⟨.star, 2⟩, ⟨.opening, 3⟩,
        ⟨.word ['r'], 4⟩, ⟨.word ['g'], 6⟩, ⟨.closing, 7⟩] ∧
      Covers "12*(r g)".toList [⟨.number ['1', '2'], 0⟩, ⟨.star, 2⟩, ⟨.opening, 3⟩,
        ⟨.word ['r'], 4⟩, ⟨.word ['g'], 6⟩, ⟨.closing, 7⟩] := by
  have hcut : tokens 0 "12*(r g)".toList = .ok [⟨.number ['1', '2'], 0⟩, ⟨.star, 2⟩, ⟨.opening, 3⟩,
      ⟨.word ['r'], 4⟩, ⟨.word ['g'], 6⟩, ⟨.closing, 7⟩] := by
    simp +decide [tokens, tokensFrom, Token.ofSign?, Token.depthAfter?]
  exact ⟨hcut, (tokens_lossless 0 "12*(r g)".toList).right.right _ hcut⟩

end Screen
end Mosaic
