import Mosaic.Program.Parsing
import Mosaic.Proofs.Attempts
import Mosaic.Proofs.Text.Pieces

/-!
# Screen lines that are put together

A screen line that is put together from counts, words and signs with blanks between them is cut into
just these tokens.  Where in the line a token stands is of no interest here.
-/

namespace Mosaic
namespace Screen

def Cuts (line : Int) (depth : Nat) (cs : List Char) (row : List Token) : Prop :=
  forall position, exists placed, tokensFrom line position depth cs = .ok placed ∧
    placed.map Placed.token = row

variable {line : Int} {depth : Nat} {rest : List Char} {row : List Token}

theorem cuts_nil : Cuts line 0 [] [] := by
  intro position
  refine ⟨[], ?_, rfl⟩
  rw [tokensFrom]
  rfl

theorem cuts_blank (h : Cuts line depth rest row) : Cuts line depth (' ' :: rest) row := by
  intro position
  have hblank : Text.isBlank ' ' = true := by decide
  rw [tokensFrom]
  simp only [hblank, if_true]
  exact h (position + 1)

theorem exists_placed_cons {cut : Except Fault (List Placed)} (token : Token) (position : Nat)
    (h : exists placed, cut = .ok placed ∧ placed.map Placed.token = row) :
    exists placed, (cut >>= fun placed => pure (⟨token, position⟩ :: placed)) = .ok placed ∧
      placed.map Placed.token = token :: row := by
  rcases h with ⟨placed, hcut, hrow⟩
  refine ⟨⟨token, position⟩ :: placed, ?_, ?_⟩
  · rw [hcut]
    rfl
  · rw [List.map_cons, hrow]

theorem cuts_sign {c : Char} {token : Token} {deeper : Nat} (hblank : Text.isBlank c = false)
    (htoken : Token.ofSign? c = some token) (hdepth : token.depthAfter? depth = some deeper)
    (h : Cuts line deeper rest row) : Cuts line depth (c :: rest) (token :: row) := by
  intro position
  rw [tokensFrom]
  simp only [hblank, htoken, hdepth, Bool.false_eq_true, if_false]
  exact exists_placed_cons token position (h (position + 1))

theorem cuts_number {c : Char} {others : List Char} (hblank : Text.isBlank c = false)
    (htoken : Token.ofSign? c = none)
    (hdigits : forall d, d ∈ c :: others -> Text.isDigitLike d = true)
    (h : Cuts line depth (' ' :: rest) row) :
    Cuts line depth (c :: others ++ ' ' :: rest) (.number (c :: others) :: row) := by
  intro position
  have hfirst := hdigits c (by simp)
  have hspace : forall d, (' ' :: rest).head? = some d -> Text.isDigitLike d = false := by
    intro d hd
    cases hd
    decide
  rcases Text.run_append (fun d hd => hdigits d (List.mem_cons_of_mem c hd)) hspace with
    ⟨hrun, hbehind⟩
  rw [List.cons_append, tokensFrom]
  simp only [hblank, htoken, hfirst, hrun, hbehind, Bool.false_eq_true, if_false, if_true]
  exact exists_placed_cons _ position (h _)

theorem cuts_word {c : Char} {others : List Char} (hblank : Text.isBlank c = false)
    (htoken : Token.ofSign? c = none) (hdigit : Text.isDigitLike c = false)
    (hletters : (c :: others).all Text.isLetter = true) (h : Cuts line depth (' ' :: rest) row) :
    Cuts line depth (c :: others ++ ' ' :: rest) (.word (c :: others) :: row) := by
  intro position
  have hall := List.all_eq_true.mp hletters
  have hfirst := hall c (by simp)
  have hspace : forall d, (' ' :: rest).head? = some d -> Text.isLetter d = false := by
    intro d hd
    cases hd
    decide
  rcases Text.run_append (fun d hd => hall d (List.mem_cons_of_mem c hd)) hspace with
    ⟨hrun, hbehind⟩
  rw [List.cons_append, tokensFrom]
  simp only [hblank, htoken, hdigit, hfirst, hrun, hbehind, Bool.false_eq_true, if_false, if_true]
  exact exists_placed_cons _ position (h _)

theorem lineOps_of_cuts {cs : List Char} {progress : Progress} {ops : List Op}
    (h : Cuts line 0 cs row) (hrow : row.foldlM (Progress.step line) (.items [] []) = .ok progress)
    (hfinish : progress.finish line = .ok ops) : lineOps line cs = .ok ops := by
  rcases h 0 with ⟨placed, hplaced, htokens⟩
  have hcut : tokens line cs = .ok placed := hplaced
  unfold lineOps sequence
  rw [hcut]
  show (placed.map Placed.token).foldlM (Progress.step line) (.items [] []) >>= _ = _
  rw [htokens, hrow]
  exact hfinish

end Screen
end Mosaic
