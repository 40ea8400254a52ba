import Mathlib
import Mosaic.Proofs.Program.Blaming
import Mosaic.Proofs.Program.Trees

/-!
# Reading screen lines by their grammar

The reader of screen lines takes the tokens one by one and remembers the loops that are open.  At any
moment there is a row of parts for each of them, and for what follows the innermost opening; written
out, these parts are the tokens read so far.  So what is read is what the tree of the tokens stands
for, and a row of tokens without a tree is refused.
-/

namespace Mosaic
namespace Screen

/-- A token whose number, if it is one, can be read. -/
def Token.IsLegible (token : Token) : Prop :=
  forall text, token = .number text -> Text.IsCount text ∧ Text.IsReadable text

theorem loopCount_of_readable {text : List Char}
    (h : Text.IsCount text ∧ Text.IsReadable text) :
    loopCount text = .ok (Text.decimalValue text) := by
  unfold loopCount
  rw [Text.readWhole_of_isReadable h.left h.right]
  rfl

/-!
## What has a tree is read
-/

namespace Part

mutual

theorem foldlM_tokens (line : Int) (frames : List Frame) (before : List Op) {part : Part}
    (hvalid : IsValid part) (hlegible : forall token, token ∈ tokens part -> token.IsLegible) :
    (tokens part).foldlM (Progress.step line) (.items frames before) =
      .ok (.items frames ((ops line part).reverse ++ before)) := by
  cases part with
  | plus => rfl
  | word text action =>
      rw [IsValid] at hvalid
      have hword : (Progress.items frames before).step line (.word text) =
          .ok (.items frames (.once ⟨line, action⟩ :: before)) := by
        simp only [Progress.step, wordAction?_eq_some_iff.mpr hvalid]
      rw [tokens, Attempts.foldlM_cons_of_ok hword]
      rfl
  | loop count body =>
      rw [IsValid] at hvalid
      have hcount := loopCount_of_readable (hlegible (.number count) (by simp [tokens]) count rfl)
      have hnumber : (Progress.items frames before).step line (.number count) =
          .ok (.counted frames before (Text.decimalValue count)) := by
        simp only [Progress.step, hcount]
        rfl
      have hbody := foldlM_allTokens line (⟨Text.decimalValue count, before⟩ :: frames) []
        hvalid.left fun token htoken => hlegible token (by simp [tokens, htoken])
      have hitems : (allOps line body).reverse.isEmpty = false := by
        rw [List.isEmpty_reverse, isEmpty_allOps, hvalid.right]
        rfl
      have hclosing : (Progress.items (⟨Text.decimalValue count, before⟩ :: frames)
            ((allOps line body).reverse ++ [])).step line .closing =
          .ok (.items frames (.loop line (Text.decimalValue count) (allOps line body) :: before)) := by
        rw [List.append_nil]
        simp only [Progress.step, hitems, List.reverse_reverse]
        rfl
      rw [tokens, Attempts.foldlM_cons_of_ok hnumber, Attempts.foldlM_cons_of_ok rfl,
        Attempts.foldlM_cons_of_ok rfl, Attempts.foldlM_append_of_ok hbody,
        Attempts.foldlM_cons_of_ok hclosing]
      rfl

theorem foldlM_allTokens (line : Int) (frames : List Frame) (before : List Op) {parts : List Part}
    (hvalid : AreValid parts) (hlegible : forall token, token ∈ allTokens parts -> token.IsLegible) :
    (allTokens parts).foldlM (Progress.step line) (.items frames before) =
      .ok (.items frames ((allOps line parts).reverse ++ before)) := by
  cases parts with
  | nil => rfl
  | cons part rest =>
      rw [AreValid] at hvalid
      have hpart := foldlM_tokens line frames before hvalid.left
        fun token htoken => hlegible token (by simp [allTokens, htoken])
      have hrest := foldlM_allTokens line frames ((ops line part).reverse ++ before) hvalid.right
        fun token htoken => hlegible token (by simp [allTokens, htoken])
      rw [allTokens, allOps, Attempts.foldlM_append_of_ok hpart, hrest, List.reverse_append,
        List.append_assoc]

end

end Part

theorem sequence_of_formLine {line : Int} {parts : List Part} (h : Part.FormLine parts)
    (hlegible : forall token, token ∈ Part.allTokens parts -> token.IsLegible) :
    sequence line (Part.allTokens parts) = .ok (Part.allOps line parts) := by
  have hitems : (Part.allOps line parts).isEmpty = false := by
    rw [Part.isEmpty_allOps, h.right]
    rfl
  unfold sequence
  rw [Part.foldlM_allTokens line [] [] h.left hlegible, List.append_nil]
  show (Progress.items [] (Part.allOps line parts).reverse).finish line = _
  cases hops : (Part.allOps line parts).reverse with
  | nil =>
      rw [List.reverse_eq_nil_iff.mp hops] at hitems
      cases hitems
  | cons op rest =>
      show Except.ok (op :: rest).reverse = _
      rw [← hops, List.reverse_reverse]

/-!
## What is read has a tree
-/

/-- A loop that is still open: the digits of its count, and the parts in front of it. -/
structure Opened where
  count : List Char
  before : List Part

namespace Opened

def frame (line : Int) (opened : Opened) : Frame :=
  ⟨Text.decimalValue opened.count, (Part.allOps line opened.before).reverse⟩

def row : List Opened -> List Part -> List Token
  | [], parts => Part.allTokens parts
  | opened :: outer, parts =>
      row outer opened.before ++ .number opened.count :: .star :: .opening :: Part.allTokens parts

def AreValid (opened : List Opened) : Prop :=
  forall inner, inner ∈ opened -> Part.AreValid inner.before

theorem row_append (opened : List Opened) (parts others : List Part) :
    row opened (parts ++ others) = row opened parts ++ Part.allTokens others := by
  cases opened with
  | nil => exact Part.allTokens_append parts others
  | cons inner outer => simp [row]

end Opened

/-- What the reader has made of a row of tokens: it stands behind an item, a count or a star. -/
inductive Stands (line : Int) (row : List Token) : Progress -> Prop
  | items (opened : List Opened) (parts : List Part) (outer : Opened.AreValid opened)
      (inner : Part.AreValid parts) (written : Opened.row opened parts = row) :
      Stands line row (.items (opened.map (Opened.frame line)) (Part.allOps line parts).reverse)
  | counted (opened : List Opened) (parts : List Part) (count : List Char)
      (outer : Opened.AreValid opened) (inner : Part.AreValid parts)
      (written : Opened.row opened parts ++ [.number count] = row) :
      Stands line row (.counted (opened.map (Opened.frame line)) (Part.allOps line parts).reverse
        (Text.decimalValue count))
  | starred (opened : List Opened) (parts : List Part) (count : List Char)
      (outer : Opened.AreValid opened) (inner : Part.AreValid parts)
      (written : Opened.row opened parts ++ [.number count, .star] = row) :
      Stands line row (.starred (opened.map (Opened.frame line)) (Part.allOps line parts).reverse
        (Text.decimalValue count))

theorem stands_part {line : Int} {row : List Token} {opened : List Opened} {parts : List Part}
    (outer : Opened.AreValid opened) (inner : Part.AreValid parts)
    (written : Opened.row opened parts = row) (part : Part) (hpart : part.IsValid) :
    Stands line (row ++ part.tokens)
      (.items (opened.map (Opened.frame line)) ((part.ops line).reverse ++ (Part.allOps line parts).reverse)) := by
  have hops : (part.ops line).reverse ++ (Part.allOps line parts).reverse =
      (Part.allOps line (parts ++ [part])).reverse := by
    rw [Part.allOps_append, List.reverse_append]
    simp [Part.allOps]
  rw [hops]
  refine Stands.items opened (parts ++ [part]) outer ?_ ?_
  · exact Part.areValid_append.mpr ⟨inner, hpart, trivial⟩
  · rw [Opened.row_append, written]
    simp [Part.allTokens]

/-- One token further. -/
theorem stands_step {line : Int} {row : List Token} {progress next : Progress} {token : Token}
    (h : Stands line row progress) (hlegible : token.IsLegible)
    (hstep : progress.step line token = .ok next) : Stands line (row ++ [token]) next := by
  cases h with
  | items opened parts outer inner written =>
      cases token with
      | plus =>
          cases hstep
          exact stands_part outer inner written .plus trivial
      | number text =>
          simp only [Progress.step, loopCount_of_readable (hlegible text rfl)] at hstep
          cases hstep
          exact Stands.counted opened parts text outer inner (by rw [written])
      | word text =>
          unfold Progress.step at hstep
          simp only at hstep
          split at hstep
          · rename_i action haction
            cases hstep
            exact stands_part outer inner written (.word text action)
              (wordAction?_eq_some_iff.mp haction)
          · cases hstep
      | closing =>
          cases opened with
          | nil => cases hstep
          | cons loop rest =>
              simp only [List.map_cons, Progress.step] at hstep
              split at hstep
              · cases hstep
              · rename_i hitems
                cases hstep
                have hloop : (Part.loop loop.count parts).IsValid := by
                  refine ⟨inner, ?_⟩
                  rw [List.isEmpty_reverse, Part.isEmpty_allOps] at hitems
                  simpa using hitems
                have hrest : Opened.AreValid rest :=
                  fun other hother => outer other (List.mem_cons_of_mem loop hother)
                have hbehind := @stands_part line _ _ _ hrest (outer loop (by simp)) rfl _ hloop
                -- the innermost loop is now a part behind those that stand in front of it
                rw [← written, List.reverse_reverse]
                simpa [Opened.row, Opened.frame, Part.tokens, Part.ops] using hbehind
      | star => cases hstep
      | opening => cases hstep
  | counted opened parts count outer inner written =>
      cases token with
      | star =>
          cases hstep
          exact Stands.starred opened parts count outer inner (by rw [← written]; simp)
      | _ => cases hstep
  | starred opened parts count outer inner written =>
      cases token with
      | opening =>
          cases hstep
          refine Stands.items (⟨count, parts⟩ :: opened) [] ?_ trivial ?_
          · intro loop hloop
            rcases List.mem_cons.mp hloop with rfl | houter
            · exact inner
            · exact outer loop houter
          · rw [← written]
            simp [Opened.row, Part.allTokens]
      | _ => cases hstep

theorem stands_foldlM {line : Int} {row back : List Token} {progress final : Progress}
    (h : Stands line row progress) (hlegible : forall token, token ∈ back -> token.IsLegible)
    (hfold : back.foldlM (Progress.step line) progress = .ok final) :
    Stands line (row ++ back) final := by
  induction back generalizing row progress with
  | nil =>
      cases hfold
      rwa [List.append_nil]
  | cons token rest ih =>
      rw [List.foldlM_cons] at hfold
      rcases Attempts.bind_eq_ok_iff.mp hfold with ⟨next, hnext, hrest⟩
      have hone := stands_step h (hlegible token (by simp)) hnext
      have hall := ih hone (fun other hother => hlegible other (by simp [hother])) hrest
      rwa [List.append_assoc] at hall

theorem formLine_of_finish {line : Int} {row : List Token} {progress : Progress} {ops : List Op}
    (h : Stands line row progress) (hfinish : progress.finish line = .ok ops) :
    exists parts, Part.FormLine parts ∧ Part.allTokens parts = row ∧ Part.allOps line parts = ops := by
  cases h with
  | items opened parts outer inner written =>
      cases opened with
      | cons loop rest => cases hfinish
      | nil =>
          cases hops : (Part.allOps line parts).reverse with
          | nil =>
              rw [hops] at hfinish
              cases hfinish
          | cons op before =>
              rw [hops] at hfinish
              cases hfinish
              refine ⟨parts, ⟨inner, ?_⟩, written, ?_⟩
              · have hempty := Part.isEmpty_allOps line parts
                rw [← List.isEmpty_reverse, hops] at hempty
                simpa using hempty.symm
              · rw [← hops, List.reverse_reverse]
  | counted opened parts count outer inner written => cases hfinish
  | starred opened parts count outer inner written => cases hfinish

theorem formLine_of_sequence {line : Int} {row : List Token} {ops : List Op}
    (hlegible : forall token, token ∈ row -> token.IsLegible) (h : sequence line row = .ok ops) :
    exists parts, Part.FormLine parts ∧ Part.allTokens parts = row ∧ Part.allOps line parts = ops := by
  unfold sequence at h
  rcases Attempts.bind_eq_ok_iff.mp h with ⟨final, hfold, hfinish⟩
  have hstart : Stands line [] (.items [] []) :=
    Stands.items [] [] (fun loop hloop => by cases hloop) trivial rfl
  exact formLine_of_finish (stands_foldlM hstart hlegible hfold) hfinish

/-!
## Refusals
-/

theorem failsOver_sequence {line : Int} {row : List Token}
    (hlegible : forall token, token ∈ row -> token.IsLegible) :
    FailsOver False (sequence line row) := by
  have hfold : FailsOver _ (row.foldlM (Progress.step line) (.items [] [])) :=
    failsOver_foldlM fun token htoken reached =>
      failsOver_step line reached fun text htext => (hlegible token htoken text htext).left
  refine (hfold.congr ⟨False.elim, ?_⟩).bind_of_clear (failsOver_finish line)
  intro hgiven
  rcases hgiven with ⟨before, token, after, reached, rfl, _, _, _, text, _, htext, hunreadable⟩
  exact hunreadable (hlegible token (by simp) text htext).right

/-!
## Lines
-/

theorem lineOps_of_tokens {line : Int} {cs : List Char} {placed : List Placed}
    (h : Screen.tokens line cs = .ok placed) :
    lineOps line cs = sequence line (placed.map Placed.token) := by
  unfold lineOps
  rw [h]
  rfl

/-- A line that is cut into tokens, with counts that can be read, is read exactly if its tokens form
a line of the grammar, and then as their only tree stands for, with the line on everything; else it
is refused for its grammar. -/
theorem lineOps_iff_tree {line : Int} {cs : List Char} {placed : List Placed}
    (hcut : Screen.tokens line cs = .ok placed)
    (hcounts : forall text, .number text ∈ placed.map Placed.token -> Text.IsReadable text) :
    (forall result, lineOps line cs = .ok result ↔
      exists parts, Part.FormLine parts ∧ Part.allTokens parts = placed.map Placed.token ∧
        Part.allOps line parts = result) ∧
    (forall parts others, Part.FormLine parts -> Part.FormLine others ->
      Part.allTokens parts = placed.map Placed.token ->
        Part.allTokens others = placed.map Placed.token -> parts = others) ∧
    (Not (exists parts, Part.FormLine parts ∧ Part.allTokens parts = placed.map Placed.token) ->
      exists cause : Cause, lineOps line cs = .error (.program ⟨line, cause⟩) ∧
        cause.kind = .grammar) := by
  have hlegible : forall token, token ∈ placed.map Placed.token -> token.IsLegible := by
    intro token htoken text htext
    refine ⟨isSound_of_mem_tokens hcut token htoken text htext, hcounts text ?_⟩
    rwa [← htext]
  have hread := lineOps_of_tokens hcut
  refine ⟨?_, ?_, ?_⟩
  · intro result
    rw [hread]
    constructor
    · intro hops
      exact formLine_of_sequence hlegible hops
    · rintro ⟨parts, hparts, htokens, rfl⟩
      rw [← htokens] at hlegible ⊢
      exact sequence_of_formLine hparts hlegible
  · intro parts others hparts hothers htokens hsame
    exact Part.eq_of_allTokens hparts.left hothers.left (htokens.trans hsame.symm)
  · intro hnone
    rw [hread]
    cases hops : sequence line (placed.map Placed.token) with
    | ok ops =>
        rcases formLine_of_sequence hlegible hops with ⟨parts, hparts, htokens, _⟩
        exact absurd ⟨parts, hparts, htokens⟩ hnone
    | error fault =>
        rcases (uniform_sequence _).problem_of_clear (failsOver_sequence hlegible) hops with
          ⟨cause, rfl, hkind⟩
        exact ⟨cause, rfl, List.mem_singleton.mp hkind⟩

/-- A loop of a mixed colour and a loop that erases, with plus signs where they do nothing. -/
theorem lineOps_iff_tree_nested :
    exists placed,
      Screen.tokens 4 "+2*(rg++3*(Off))".toList = .ok placed ∧
        (forall text, .number text ∈ placed.map Placed.token -> Text.IsReadable text) ∧
        lineOps 4 "+2*(rg++3*(Off))".toList =
          .ok [.loop 4 2 [.once ⟨4, .paint .yellow⟩, .loop 4 3 [.once ⟨4, .erase⟩]]] := by
  have hcut : Screen.tokens 4 "+2*(rg++3*(Off))".toList = .ok [
      ⟨.plus, 0⟩, ⟨.number ['2'], 1⟩, ⟨.star, 2⟩, ⟨.opening, 3⟩, ⟨.word ['r', 'g'], 4⟩, ⟨.plus, 6⟩,
      ⟨.plus, 7⟩, ⟨.number ['3'], 8⟩, ⟨.star, 9⟩, ⟨.opening, 10⟩, ⟨.word ['O', 'f', 'f'], 11⟩,
      ⟨.closing, 14⟩, ⟨.closing, 15⟩] := by
    cbv
  have hcounts : forall text, .number text ∈ List.map Placed.token [
      ⟨.plus, 0⟩, ⟨.number ['2'], 1⟩, ⟨.star, 2⟩, ⟨.opening, 3⟩, ⟨.word ['r', 'g'], 4⟩, ⟨.plus, 6⟩,
      ⟨.plus, 7⟩, ⟨.number ['3'], 8⟩, ⟨.star, 9⟩, ⟨.opening, 10⟩, ⟨.word ['O', 'f', 'f'], 11⟩,
      ⟨.closing, 14⟩, ⟨.closing, 15⟩] -> Text.IsReadable text := by
    intro text htext
    simp only [List.map_cons, List.map_nil, List.mem_cons, Token.number.injEq, reduceCtorEq,
      List.not_mem_nil, false_or, or_false] at htext
    rcases htext with rfl | rfl
    · exact Text.isReadable_singleton (by decide)
    · exact Text.isReadable_singleton (by decide)
  refine ⟨_, hcut, hcounts, ((lineOps_iff_tree hcut hcounts).left _).mpr ?_⟩
  refine ⟨[.plus, .loop ['2'] [.word ['r', 'g'] (.paint .yellow), .plus, .plus,
    .loop ['3'] [.word ['O', 'f', 'f'] .erase]]], ⟨?_, rfl⟩, rfl, rfl⟩
  have hmixed : Means ['r', 'g'] (.paint .yellow) := wordAction?_eq_some_iff.mp rfl
  have heraser : Means ['O', 'f', 'f'] .erase := wordAction?_eq_some_iff.mp rfl
  exact ⟨trivial, ⟨⟨hmixed, trivial, trivial, ⟨⟨heraser, trivial⟩, rfl⟩, trivial⟩, rfl⟩, trivial⟩

end Screen
end Mosaic
