import Mosaic.Proofs.Text.Layout
import Mosaic.Text.Numeral

/-!
# Pieces of a line

A line is made of pieces, with white space between them and around them.  Cutting a line into words
gives back the pieces where white space has to separate them, and trimming takes away what is around
them.
-/

namespace Mosaic
namespace Text

def IsGap (cs : List Char) : Prop := forall c, c ∈ cs -> isBlank c = true

def Pads (body cs : List Char) : Prop :=
  exists front back, IsGap front ∧ IsGap back ∧ cs = front ++ (body ++ back)

structure IsTight (cs : List Char) : Prop where
  first : forall c, cs.head? = some c -> isBlank c = false
  last : forall c, cs.getLast? = some c -> isBlank c = false

/-!
## White space around a text
-/

theorem isGap_nil : IsGap [] := nofun

theorem isGap_takeWhile (cs : List Char) : IsGap (cs.takeWhile isBlank) :=
  fun c hc => List.all_eq_true.mp List.all_takeWhile c hc

theorem not_isBlank_of_dropWhile {cs rest : List Char} {c : Char}
    (h : cs.dropWhile isBlank = c :: rest) : isBlank c = false := by
  have hfirst := List.head?_dropWhile_not isBlank cs
  rw [h] at hfirst
  simpa using hfirst

theorem pads_self (cs : List Char) : Pads cs cs :=
  ⟨[], [], isGap_nil, isGap_nil, (List.append_nil cs).symm⟩

theorem trimLeft_append_of_isGap {gap : List Char} (h : IsGap gap) (rest : List Char) :
    trimLeft (gap ++ rest) = trimLeft rest :=
  List.dropWhile_append_of_pos h

theorem trimRight_append_of_isGap {gap : List Char} (h : IsGap gap) (rest : List Char) :
    trimRight (rest ++ gap) = trimRight rest := by
  unfold trimRight
  rw [List.reverse_append, trimLeft_append_of_isGap fun c hc => h c (List.mem_reverse.mp hc)]

theorem exists_trimLeft (cs : List Char) : exists front, IsGap front ∧ cs = front ++ trimLeft cs :=
  ⟨cs.takeWhile isBlank, isGap_takeWhile cs, List.takeWhile_append_dropWhile.symm⟩

theorem exists_trimRight (cs : List Char) : exists back, IsGap back ∧ cs = trimRight cs ++ back := by
  rcases exists_trimLeft cs.reverse with ⟨front, hfront, hreverse⟩
  refine ⟨front.reverse, fun c hc => hfront c (List.mem_reverse.mp hc), ?_⟩
  have hback := congrArg List.reverse hreverse
  rwa [List.reverse_reverse, List.reverse_append] at hback

theorem pads_trim (cs : List Char) : Pads (trim cs) cs := by
  rcases exists_trimLeft cs with ⟨front, hfront, hleft⟩
  rcases exists_trimRight (trimLeft cs) with ⟨back, hback, hright⟩
  refine ⟨front, back, hfront, hback, ?_⟩
  unfold trim
  rw [← hright, ← hleft]

theorem isTight_trim (cs : List Char) : IsTight (trim cs) := by
  constructor
  · intro c hc
    -- the first character stays the first when the end is trimmed
    rcases exists_trimRight (trimLeft cs) with ⟨back, _, hright⟩
    cases htrim : trim cs with
    | nil =>
        rw [htrim] at hc
        cases hc
    | cons first rest =>
        rw [htrim] at hc
        cases hc
        unfold trim at htrim
        rw [htrim] at hright
        exact not_isBlank_of_dropWhile hright
  · intro c hc
    unfold trim trimRight at hc
    rw [List.getLast?_reverse] at hc
    cases htrim : trimLeft (trimLeft cs).reverse with
    | nil =>
        rw [htrim] at hc
        cases hc
    | cons last rest =>
        rw [htrim] at hc
        cases hc
        exact not_isBlank_of_dropWhile htrim

theorem isTight_nil : IsTight [] := by
  constructor
  · intro c hc
    cases hc
  · intro c hc
    cases hc

theorem IsTight.trim_eq {cs : List Char} (h : IsTight cs) : trim cs = cs := trim_of_ends h.first h.last

theorem trim_of_pads {body cs : List Char} (htight : IsTight body) (h : Pads body cs) :
    trim cs = body := by
  rcases h with ⟨front, back, hfront, hback, rfl⟩
  unfold trim
  rw [trimLeft_append_of_isGap hfront]
  cases body with
  | nil =>
      have hnone := trimLeft_append_of_isGap hback []
      rw [List.append_nil] at hnone
      rw [List.nil_append, hnone]
      rfl
  | cons c rest =>
      rw [List.cons_append, trimLeft_cons (htight.first c rfl), ← List.cons_append,
        trimRight_append_of_isGap hback]
      have htrim := htight.trim_eq
      unfold trim at htrim
      rwa [trimLeft_cons (htight.first c rfl)] at htrim

theorem trim_eq_iff {body cs : List Char} (htight : IsTight body) : trim cs = body ↔ Pads body cs :=
  ⟨fun h => h ▸ pads_trim cs, trim_of_pads htight⟩

theorem trim_trim (cs : List Char) : trim (trim cs) = trim cs := (isTight_trim cs).trim_eq

theorem trim_eq_nil_iff {cs : List Char} : trim cs = [] ↔ IsGap cs := by
  rw [trim_eq_iff isTight_nil]
  constructor
  · intro h
    rcases h with ⟨front, back, hfront, hback, rfl⟩
    intro c hc
    rcases List.mem_append.mp hc with hin | hin
    · exact hfront c hin
    · exact hback c hin
  · intro h
    exact ⟨cs, [], h, isGap_nil, (List.append_nil cs).symm⟩

/-!
## White space between pieces
-/

theorem run_append {α : Type} {test : α -> Bool} {run rest : List α}
    (hrun : forall c, c ∈ run -> test c = true)
    (hrest : forall c, rest.head? = some c -> test c = false) :
    (run ++ rest).takeWhile test = run ∧ (run ++ rest).dropWhile test = rest := by
  rw [List.takeWhile_append_of_pos hrun, List.dropWhile_append_of_pos hrun]
  cases rest with
  | nil => exact ⟨List.append_nil run, rfl⟩
  | cons c others =>
      have hend := hrest c rfl
      rw [List.takeWhile_cons_of_neg (by simp [hend]), List.dropWhile_cons_of_neg (by simp [hend]),
        List.append_nil]
      exact ⟨rfl, rfl⟩

/-- Pieces with white space between each two of them, at least so much of it. -/
inductive LaidOut (least : Nat) : List (List Char) -> List Char -> Prop
  | single (piece : List Char) : LaidOut least [piece] piece
  | cons (piece : List Char) {gap next cs : List Char} {rest : List (List Char)} (hgap : IsGap gap)
      (hwide : least ≤ gap.length) (h : LaidOut least (next :: rest) cs) :
      LaidOut least (piece :: next :: rest) (piece ++ (gap ++ cs))

theorem laidOut_singleton_iff {least : Nat} {piece cs : List Char} :
    LaidOut least [piece] cs ↔ cs = piece := by
  constructor
  · intro h
    cases h
    rfl
  · rintro rfl
    exact .single cs

theorem laidOut_cons_cons_iff {least : Nat} {piece next cs : List Char}
    {rest : List (List Char)} :
    LaidOut least (piece :: next :: rest) cs ↔ exists gap behind, IsGap gap ∧ least ≤ gap.length ∧
      LaidOut least (next :: rest) behind ∧ cs = piece ++ (gap ++ behind) := by
  constructor
  · intro h
    cases h with
    | cons _ hgap hwide h => exact ⟨_, _, hgap, hwide, h, rfl⟩
  · rintro ⟨gap, behind, hgap, hwide, h, rfl⟩
    exact .cons piece hgap hwide h

theorem laidOut_spaced (word : List Char) (rest : List (List Char)) :
    LaidOut 1 (word :: rest) (spaced (word :: rest)) := by
  induction rest generalizing word with
  | nil =>
      rw [spaced_singleton]
      exact .single word
  | cons next others ih =>
      rw [spaced_cons_cons]
      exact .cons word (List.forall_mem_singleton.mpr (show isBlank ' ' = true by decide))
        (Nat.le_refl 1) (ih next)

theorem LaidOut.isInfix {least : Nat} {pieces : List (List Char)} {cs piece : List Char}
    (h : LaidOut least pieces cs) (hpiece : piece ∈ pieces) : piece <:+: cs := by
  induction h with
  | single only =>
      rcases List.mem_singleton.mp hpiece with rfl
      exact List.infix_rfl
  | @cons first gap next cs rest hgap hwide h ih =>
      rcases List.mem_cons.mp hpiece with rfl | hlater
      · exact (List.prefix_append _ _).isInfix
      · exact ((ih hlater).trans (List.suffix_append gap cs).isInfix).trans
          (List.suffix_append first (gap ++ cs)).isInfix

theorem LaidOut.ne_nil {least : Nat} {pieces : List (List Char)} {cs : List Char}
    (h : LaidOut least pieces cs) (hpieces : forall piece, piece ∈ pieces -> IsWord piece) :
    cs ≠ [] := by
  cases h with
  | single only => exact (hpieces cs (by simp)).left
  | cons piece => exact List.append_ne_nil_of_left_ne_nil (hpieces piece (by simp)).left _

theorem LaidOut.isTight {least : Nat} {pieces : List (List Char)} {cs : List Char}
    (h : LaidOut least pieces cs) (hpieces : forall piece, piece ∈ pieces -> IsWord piece) :
    IsTight cs := by
  induction h with
  | single only =>
      rcases hpieces only (by simp) with ⟨_, hunbroken⟩
      exact ⟨fun c hc => hunbroken c (List.mem_of_head? hc),
        fun c hc => hunbroken c (List.mem_of_getLast? hc)⟩
  | @cons first gap next cs rest hgap hwide h ih =>
      have hothers : forall piece, piece ∈ next :: rest -> IsWord piece :=
        fun piece hpiece => hpieces piece (List.mem_cons_of_mem first hpiece)
      rcases hpieces first (by simp) with ⟨hne, hunbroken⟩
      constructor
      · intro c hc
        cases first with
        | nil => exact absurd rfl hne
        | cons start others =>
            cases hc
            exact hunbroken _ (by simp)
      · intro c hc
        have hend := List.getLast?_eq_some_getLast (h.ne_nil hothers)
        rw [List.getLast?_append, List.getLast?_append, hend] at hc
        exact (ih hothers).last c (hend.trans hc)

/-!
## Words
-/

theorem words_append_of_isGap {gap : List Char} (h : IsGap gap) (rest : List Char) :
    words (gap ++ rest) = words rest := by
  induction gap with
  | nil => rfl
  | cons c others ih =>
      rw [List.cons_append, words_cons_of_blank (h c (by simp)),
        ih fun other hother => h other (List.mem_cons_of_mem c hother)]

theorem isWord_of_mem_words {cs word : List Char} (h : word ∈ words cs) : IsWord word := by
  have hletter : forall {c : Char}, Not (isBlank c = true) -> IsUnbroken [c] := by
    intro c hc other hother
    rw [List.mem_singleton.mp hother]
    exact Bool.eq_false_iff.mpr hc
  fun_induction words cs generalizing word with
  | case1 => cases h
  | case2 c rest hblank ih => exact ih h
  | case3 c hplain =>
      rw [List.mem_singleton.mp h]
      exact ⟨List.cons_ne_nil _ _, hletter hplain⟩
  | case4 c hplain next others hnext ih =>
      rcases List.mem_cons.mp h with rfl | hlater
      · exact ⟨List.cons_ne_nil _ _, hletter hplain⟩
      · exact ih hlater
  | case5 c hplain next others hnext hnone ih =>
      rw [hnone] at h
      rw [List.mem_singleton.mp h]
      exact ⟨List.cons_ne_nil _ _, hletter hplain⟩
  | case6 c hplain next others hnext first later hwords ih =>
      rw [hwords] at h
      rcases List.mem_cons.mp h with rfl | hlater
      · refine ⟨List.cons_ne_nil _ _, fun other hother => ?_⟩
        rcases List.mem_cons.mp hother with rfl | hinside
        · exact Bool.eq_false_iff.mpr hplain
        · exact (ih (by rw [hwords]; exact List.mem_cons_self)).right other hinside
      · exact ih (by rw [hwords]; exact List.mem_cons_of_mem first hlater)

theorem LaidOut.words_eq {pieces : List (List Char)} {cs : List Char} (h : LaidOut 1 pieces cs)
    (hpieces : forall piece, piece ∈ pieces -> IsWord piece) : words cs = pieces := by
  induction h with
  | single only =>
      rcases hpieces only (by simp) with ⟨hne, hunbroken⟩
      cases only with
      | nil => exact absurd rfl hne
      | cons c rest => exact words_of_unbroken hunbroken
  | @cons first gap next cs rest hgap hwide h ih =>
      rcases hpieces first (by simp) with ⟨hne, hunbroken⟩
      cases first with
      | nil => exact absurd rfl hne
      | cons c others =>
          cases gap with
          | nil => cases hwide
          | cons blank more =>
              have hmore : IsGap more := fun c hc => hgap c (List.mem_cons_of_mem blank hc)
              show words (c :: others ++ blank :: (more ++ cs)) = _
              rw [words_append_blank hunbroken (hgap blank (by simp)), words_append_of_isGap hmore,
                ih fun piece hpiece => hpieces piece (List.mem_cons_of_mem _ hpiece)]

theorem LaidOut.cons_char {least : Nat} {first cs : List Char} {rest : List (List Char)}
    (h : LaidOut least (first :: rest) cs) (c : Char) :
    LaidOut least ((c :: first) :: rest) (c :: cs) := by
  cases h with
  | single => exact .single (c :: first)
  | cons _ hgap hwide h => exact .cons (c :: first) hgap hwide h

theorem exists_laidOut_words {cs : List Char} (hne : cs ≠ [])
    (hlast : forall c, cs.getLast? = some c -> isBlank c = false) :
    exists gap body, cs = gap ++ body ∧ IsGap gap ∧ LaidOut 1 (words cs) body ∧
      forall c, body.head? = some c -> isBlank c = false := by
  fun_induction words cs with
  | case1 => exact absurd rfl hne
  | case2 c rest hblank ih =>
      have hrest : rest ≠ [] := by
        rintro rfl
        rw [hlast c rfl] at hblank
        cases hblank
      rcases ih hrest fun d hd => hlast d (by rw [List.getLast?_cons, hd]; rfl) with
        ⟨gap, body, rfl, hgap, hbody, hfirst⟩
      exact ⟨c :: gap, body, rfl, List.forall_mem_cons.mpr ⟨hblank, hgap⟩, hbody, hfirst⟩
  | case3 c hplain =>
      exact ⟨[], [c], rfl, isGap_nil, .single [c], fun d hd => by cases hd; simpa using hplain⟩
  | case4 c hplain next others hnext ih =>
      rcases ih (List.cons_ne_nil _ _) fun d hd => hlast d (by rw [List.getLast?_cons, hd]; rfl) with
        ⟨gap, body, hsplit, hgap, hbody, hfirst⟩
      have hwide : 1 ≤ gap.length := by
        cases gap with
        | nil =>
            rw [List.nil_append] at hsplit
            rw [← hsplit] at hfirst
            rw [hfirst next rfl] at hnext
            cases hnext
        | cons blank more => simp
      refine ⟨[], c :: next :: others, rfl, isGap_nil, ?_, fun d hd => by cases hd; simpa using hplain⟩
      cases hwords : words (next :: others) with
      | nil =>
          rw [hwords] at hbody
          cases hbody
      | cons first later =>
          rw [hwords] at hbody
          rw [hsplit]
          exact .cons [c] hgap hwide hbody
  | case5 c hplain next others hnext hnone ih =>
      rcases ih (List.cons_ne_nil _ _) fun d hd => hlast d (by rw [List.getLast?_cons, hd]; rfl) with
        ⟨gap, body, _, _, hbody, _⟩
      rw [hnone] at hbody
      cases hbody
  | case6 c hplain next others hnext first later hwords ih =>
      rcases ih (List.cons_ne_nil _ _) fun d hd => hlast d (by rw [List.getLast?_cons, hd]; rfl) with
        ⟨gap, body, hsplit, hgap, hbody, _⟩
      cases gap with
      | cons blank more =>
          injection hsplit with hsame _
          rw [hsame, hgap blank (by simp)] at hnext
          exact absurd rfl hnext
      | nil =>
          rw [hwords] at hbody ⊢
          rw [hsplit, List.nil_append]
          exact ⟨[], c :: body, rfl, isGap_nil, hbody.cons_char c,
            fun d hd => by cases hd; simpa using hplain⟩

/-- The words of a text that is not padded are just these pieces. -/
theorem words_eq_iff {cs : List Char} (hne : cs ≠ []) (htight : IsTight cs)
    (pieces : List (List Char)) :
    words cs = pieces ↔ LaidOut 1 pieces cs ∧ forall piece, piece ∈ pieces -> IsWord piece := by
  constructor
  · rintro rfl
    refine ⟨?_, fun piece hpiece => isWord_of_mem_words hpiece⟩
    rcases exists_laidOut_words hne htight.last with ⟨gap, body, rfl, hgap, hbody, _⟩
    cases gap with
    | nil => exact hbody
    | cons blank more =>
        have hplain := htight.first blank rfl
        rw [hgap blank (by simp)] at hplain
        cases hplain
  · intro h
    exact h.left.words_eq h.right

/-!
## Numbers
-/

def HasShortNumbers (cs : List Char) : Prop :=
  forall run, run <:+: cs -> (forall c, c ∈ run -> isDecimal c = true) -> run.length ≤ digitLimit

theorem HasShortNumbers.of_infix {part cs : List Char} (h : HasShortNumbers cs) (hpart : part <:+: cs) :
    HasShortNumbers part :=
  fun run hrun hdigits => h run (hrun.trans hpart) hdigits

theorem hasShortNumbers_of_length {cs : List Char} (h : cs.length ≤ digitLimit) :
    HasShortNumbers cs :=
  fun _ hrun _ => Nat.le_trans hrun.length_le h

theorem trim_infix (cs : List Char) : trim cs <:+: cs := by
  rcases pads_trim cs with ⟨front, back, _, _, hsplit⟩
  exact ⟨front, back, by rw [List.append_assoc]; exact hsplit.symm⟩

theorem prefix_of_lines {cs first : List Char} {others : List (List Char)}
    (h : lines cs = first :: others) :
    first <+: cs ∧ forall row, row ∈ others -> row <:+: cs := by
  induction cs generalizing first others with
  | nil =>
      cases h
      exact ⟨List.prefix_rfl, nofun⟩
  | cons c rest ih =>
      rw [lines] at h
      split at h
      · cases h
        refine ⟨List.nil_prefix, fun row hrow => ?_⟩
        cases hlines : lines rest with
        | nil =>
            rw [hlines] at hrow
            cases hrow
        | cons start later =>
            rcases ih hlines with ⟨hstart, hlater⟩
            rw [hlines] at hrow
            rcases List.mem_cons.mp hrow with rfl | hmem
            · exact hstart.isInfix.trans (List.suffix_cons c rest).isInfix
            · exact (hlater row hmem).trans (List.suffix_cons c rest).isInfix
      · split at h
        · cases h
          exact ⟨List.prefix_append [c] rest, nofun⟩
        · rename_i start later hlines
          cases h
          rcases ih hlines with ⟨hstart, hlater⟩
          exact ⟨List.cons_prefix_cons.mpr ⟨rfl, hstart⟩,
            fun row hrow => (hlater row hrow).trans (List.suffix_cons c rest).isInfix⟩

theorem infix_of_mem_lines {cs row : List Char} (h : row ∈ lines cs) : row <:+: cs := by
  cases hlines : lines cs with
  | nil =>
      rw [hlines] at h
      cases h
  | cons first others =>
      rcases prefix_of_lines hlines with ⟨hfirst, hothers⟩
      rw [hlines] at h
      rcases List.mem_cons.mp h with rfl | hmem
      · exact hfirst.isInfix
      · exact hothers row hmem

theorem no_feed_of_mem_lines {cs row : List Char} (h : row ∈ lines cs) : '\n' ∉ row := by
  intro hfeed
  have hinside : '\n' ∈ (lines cs).flatten := List.mem_flatten.mpr ⟨row, h, hfeed⟩
  rw [flatten_lines] at hinside
  simp at hinside

end Text
end Mosaic
