import Mosaic.Text.Blank
import Mosaic.Text.Lines

/-!
# Lines and words put together

Lines that are joined are cut into the same lines again, and words with white space between them are
the words that are read.
-/

namespace Mosaic
namespace Text

/-!
## Lines
-/

theorem lines_of_no_feed {cs : List Char} (h : '\n' ∉ cs) : lines cs = [cs] := by
  induction cs with
  | nil => rfl
  | cons c rest ih =>
      rw [List.mem_cons, not_or] at h
      rw [lines, if_neg (Ne.symm h.left), ih h.right]

theorem lines_append_feed {cs : List Char} (h : '\n' ∉ cs) (rest : List Char) :
    lines (cs ++ '\n' :: rest) = cs :: lines rest := by
  induction cs with
  | nil => simp [lines]
  | cons c others ih =>
      rw [List.mem_cons, not_or] at h
      rw [List.cons_append, lines, if_neg (Ne.symm h.left), ih h.right]

theorem lines_joinLines {rows : List (List Char)} (hne : rows ≠ [])
    (h : forall row, row ∈ rows -> '\n' ∉ row) :
    lines (joinLines rows) = rows := by
  unfold joinLines
  induction rows with
  | nil => exact absurd rfl hne
  | cons row rest ih =>
      have hrow := h row (by simp)
      cases rest with
      | nil =>
          show lines (row ++ []) = [row]
          rw [List.append_nil]
          exact lines_of_no_feed hrow
      | cons next others =>
          rw [List.intercalate_cons_cons, List.append_assoc, List.singleton_append,
            lines_append_feed hrow,
            ih (by simp) (fun other hother => h other (List.mem_cons_of_mem row hother))]

/-!
## Padding
-/

theorem trimLeft_cons {c : Char} (h : isBlank c = false) (rest : List Char) :
    trimLeft (c :: rest) = c :: rest :=
  List.dropWhile_cons_of_neg (by simp [h])

theorem trimRight_concat {c : Char} (h : isBlank c = false) (cs : List Char) :
    trimRight (cs ++ [c]) = cs ++ [c] := by
  unfold trimRight
  rw [List.reverse_append, List.reverse_singleton, List.singleton_append, trimLeft_cons h,
    List.reverse_cons, List.reverse_reverse]

theorem trim_eq_self {first last : Char} {cs inner : List Char} (hfirst : isBlank first = false)
    (hlast : isBlank last = false) (hstart : cs.head? = some first) (hend : cs = inner ++ [last]) :
    trim cs = cs := by
  unfold trim
  cases cs with
  | nil => cases hstart
  | cons c rest =>
      cases hstart
      rw [trimLeft_cons hfirst, hend, trimRight_concat hlast]

theorem trim_of_ends {cs : List Char} (hfirst : forall c, cs.head? = some c -> isBlank c = false)
    (hlast : forall c, cs.getLast? = some c -> isBlank c = false) : trim cs = cs := by
  cases cs with
  | nil => rfl
  | cons c rest =>
      exact trim_eq_self (hfirst c rfl) (hlast _ (List.getLast?_eq_some_getLast (by simp))) rfl
        (List.dropLast_concat_getLast (by simp)).symm

/-!
## Words
-/

def IsUnbroken (cs : List Char) : Prop := forall c, c ∈ cs -> isBlank c = false

instance (cs : List Char) : Decidable (IsUnbroken cs) :=
  List.decidableBAll (fun c => isBlank c = false) cs

theorem words_cons_of_blank {c : Char} (h : isBlank c = true) (rest : List Char) :
    words (c :: rest) = words rest := by
  rw [words.eq_def (c :: rest)]
  simp only [h, if_true]

theorem words_of_unbroken {c : Char} {rest : List Char} (h : IsUnbroken (c :: rest)) :
    words (c :: rest) = [c :: rest] := by
  induction rest generalizing c with
  | nil =>
      have hc := h c (by simp)
      rw [words]
      simp [hc]
  | cons next others ih =>
      have hc := h c (by simp)
      have hnext := h next (by simp)
      rw [words, ih (fun other hother => h other (List.mem_cons_of_mem c hother))]
      simp [hc, hnext]

theorem words_append_blank {c blank : Char} {word : List Char} (h : IsUnbroken (c :: word))
    (hblank : isBlank blank = true) (rest : List Char) :
    words (c :: word ++ blank :: rest) = (c :: word) :: words rest := by
  induction word generalizing c with
  | nil =>
      have hc := h c (by simp)
      rw [List.cons_append, List.nil_append, words]
      simp [hc, hblank, words_cons_of_blank hblank]
  | cons next others ih =>
      have hc := h c (by simp)
      have hnext := h next (by simp)
      have hrest := @ih next (fun other hother => h other (List.mem_cons_of_mem c hother))
      rw [List.cons_append] at hrest
      rw [List.cons_append, List.cons_append, words, hrest]
      simp [hc, hnext]

def IsWord (cs : List Char) : Prop := cs ≠ [] ∧ IsUnbroken cs

def spaced (words : List (List Char)) : List Char := List.intercalate [' '] words

theorem spaced_singleton (word : List Char) : spaced [word] = word :=
  List.intercalate_singleton

theorem spaced_cons_cons (word next : List Char) (rest : List (List Char)) :
    spaced (word :: next :: rest) = word ++ ' ' :: spaced (next :: rest) := by
  unfold spaced
  rw [List.intercalate_cons_cons, List.append_assoc, List.singleton_append]

theorem no_feed_spaced {row : List (List Char)} (h : forall word, word ∈ row -> IsWord word) :
    '\n' ∉ spaced row := by
  induction row with
  | nil => nofun
  | cons word rest ih =>
      have hword : '\n' ∉ word := by
        intro hfeed
        have hplain := (h word (by simp)).right '\n' hfeed
        revert hplain
        decide
      cases rest with
      | nil =>
          rw [spaced_singleton]
          exact hword
      | cons next others =>
          have hlater := ih fun other hother => h other (List.mem_cons_of_mem word hother)
          rw [spaced_cons_cons, List.mem_append, List.mem_cons, not_or, not_or]
          exact ⟨hword, by decide, hlater⟩

/-!
## Characters
-/

theorem flatten_lines (cs : List Char) : (lines cs).flatten = cs.filter fun c => c ≠ '\n' := by
  induction cs with
  | nil => rfl
  | cons c rest ih =>
      rw [lines]
      split
      · rename_i hfeed
        rw [List.flatten_cons, List.nil_append, ih, hfeed, List.filter_cons_of_neg (by simp)]
      · rename_i hplain
        rw [List.filter_cons_of_pos (by simpa using hplain), ← ih]
        split
        · rename_i hnone
          rw [hnone]
          rfl
        · rename_i first others hlines
          rw [hlines]
          rfl

theorem flatten_words (cs : List Char) : (words cs).flatten = cs.filter fun c => !isBlank c := by
  fun_induction words cs with
  | case1 => rfl
  | case2 c rest hblank ih => rw [ih, List.filter_cons_of_neg (by simp [hblank])]
  | case3 c hplain =>
      rw [List.filter_cons_of_pos (by simpa using hplain)]
      rfl
  | case4 c hplain next others hnext ih =>
      rw [List.filter_cons_of_pos (by simpa using hplain), ← ih]
      rfl
  | case5 c hplain next others hnext hnone ih =>
      rw [List.filter_cons_of_pos (by simpa using hplain), ← ih, hnone]
      rfl
  | case6 c hplain next others hnext first later hwords ih =>
      rw [List.filter_cons_of_pos (by simpa using hplain), ← ih, hwords]
      rfl

theorem filter_trimLeft (cs : List Char) :
    (trimLeft cs).filter (fun c => !isBlank c) = cs.filter fun c => !isBlank c := by
  have hblank : (cs.takeWhile isBlank).filter (fun c => !isBlank c) = [] := by
    rw [List.filter_eq_nil_iff]
    intro c hc
    simp [List.all_eq_true.mp List.all_takeWhile c hc]
  have hparts := congrArg (List.filter fun c => !isBlank c)
    (@List.takeWhile_append_dropWhile _ isBlank cs)
  rwa [List.filter_append, hblank, List.nil_append] at hparts

theorem filter_trim (cs : List Char) :
    (trim cs).filter (fun c => !isBlank c) = cs.filter fun c => !isBlank c := by
  unfold trim trimRight
  rw [List.filter_reverse, filter_trimLeft, List.filter_reverse, List.reverse_reverse,
    filter_trimLeft]

end Text
end Mosaic
