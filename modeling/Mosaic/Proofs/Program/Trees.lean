import Mosaic.Program.Screen.Sequence

/-!
# The grammar of screen lines

A screen line is a row of parts, and a part is a plus sign, a word, or a loop around a row of parts
again:

* line := parts with an item among them,
* parts := (plus | item)*,
* item := number `*` `(` parts with an item among them `)` | word.

A tree tells how the tokens of a line are made up of parts.  It can be read off the tokens in one way
only: whatever follows a part, its first token tells of which kind it is, and a loop ends at the
closing sign that no loop inside it takes.
-/

namespace Mosaic

namespace Color

def primaries : Color -> List Color
  | red => [red]
  | green => [green]
  | blue => [blue]
  | white => [red, green, blue]
  | yellow => [red, green]
  | cyan => [green, blue]
  | magenta => [red, blue]

theorem mix_eq_some_iff (hasRed hasGreen hasBlue : Bool) (color : Color) :
    mix hasRed hasGreen hasBlue = some color ↔
      (red ∈ color.primaries ↔ hasRed = true) ∧ (green ∈ color.primaries ↔ hasGreen = true) ∧
        (blue ∈ color.primaries ↔ hasBlue = true) := by
  cases color <;> revert hasRed hasGreen hasBlue <;> decide

end Color

namespace Screen

/-!
## Words
-/

/-- What a word does, by its capital form: OFF and O erase, and a word of the letters R, G and B
paints the union of the colours that it names. -/
inductive Means (text : List Char) : Primitive -> Prop
  | erase (word : Text.capitals text = ['O', 'F', 'F'] ∨ Text.capitals text = ['O']) :
      Means text .erase
  | paint (color : Color)
      (letters : forall c, c ∈ Text.capitals text -> c = 'R' ∨ c = 'G' ∨ c = 'B')
      (union : forall primary, primary ∈ [Color.red, Color.green, Color.blue] ->
        (primary ∈ color.primaries ↔ primary.letter ∈ Text.capitals text)) :
      Means text (.paint color)

theorem isSome_ofPrimary?_iff (c : Char) :
    (Color.ofPrimary? c).isSome = true ↔ c = 'R' ∨ c = 'G' ∨ c = 'B' := by
  unfold Color.ofPrimary?
  split
  · simp
  · simp
  · simp
  · rename_i hred hgreen hblue
    simp only [Option.isSome_none, Bool.false_eq_true, false_iff, not_or]
    exact ⟨hred, hgreen, hblue⟩

theorem mixText_eq_some_iff (text : List Char) (color : Color) :
    Color.mixText text = some color ↔
      forall primary, primary ∈ [Color.red, Color.green, Color.blue] ->
        (primary ∈ color.primaries ↔ primary.letter ∈ Text.capitals text) := by
  unfold Color.mixText
  simp only [Color.mix_eq_some_iff, List.contains_iff_mem, List.forall_mem_cons,
    List.not_mem_nil, false_implies, implies_true, and_true]
  rfl

theorem capitals_of_letters {word : List Char}
    (h : forall c, c ∈ word -> c = 'R' ∨ c = 'G' ∨ c = 'B') : Text.capitals word = word := by
  induction word with
  | nil => rfl
  | cons c rest ih =>
      have hrest := ih fun other hother => h other (List.mem_cons_of_mem c hother)
      have hletter : Text.capital c = [c] := by
        rcases h c (by simp) with rfl | rfl | rfl
        · rfl
        · rfl
        · rfl
      show Text.capital c ++ Text.capitals rest = c :: rest
      rw [hletter, hrest]
      rfl

theorem mem_erasers_iff (word : List Char) :
    erasers.contains word = true ↔ word = ['O', 'F', 'F'] ∨ word = ['O'] := by
  unfold erasers
  simp only [List.contains_iff_mem, List.mem_cons, List.not_mem_nil, or_false]

theorem wordAction?_eq_some_iff {text : List Char} {action : Primitive} :
    wordAction? text = some action ↔ Means text action := by
  unfold wordAction?
  simp only
  constructor
  · intro h
    split at h
    · rename_i hword
      cases h
      exact Means.erase ((mem_erasers_iff _).mp hword)
    · split at h
      · rename_i hletters
        rcases Option.map_eq_some_iff.mp h with ⟨color, hcolor, rfl⟩
        have hall : forall c, c ∈ Text.capitals text -> c = 'R' ∨ c = 'G' ∨ c = 'B' :=
          fun c hc => (isSome_ofPrimary?_iff c).mp (List.all_eq_true.mp hletters c hc)
        rw [mixText_eq_some_iff, capitals_of_letters hall] at hcolor
        exact Means.paint color hall hcolor
      · cases h
  · intro h
    cases h with
    | erase word => rw [if_pos ((mem_erasers_iff _).mpr word)]
    | paint color letters union =>
        have hother : Not (erasers.contains (Text.capitals text) = true) := by
          intro hword
          have hround : 'O' ∈ Text.capitals text := by
            rcases (mem_erasers_iff _).mp hword with hword | hword
            · rw [hword]
              decide
            · rw [hword]
              decide
          have hletter := letters 'O' hround
          revert hletter
          decide
        have hcolor : Color.mixText (Text.capitals text) = some color := by
          rw [mixText_eq_some_iff, capitals_of_letters letters]
          exact union
        rw [if_neg hother, if_pos, hcolor]
        · rfl
        · exact List.all_eq_true.mpr fun c hc => (isSome_ofPrimary?_iff c).mpr (letters c hc)

theorem Means.unique {text : List Char} {action other : Primitive} (h : Means text action)
    (hother : Means text other) : action = other := by
  have hboth := (wordAction?_eq_some_iff.mpr h).symm.trans (wordAction?_eq_some_iff.mpr hother)
  exact Option.some.inj hboth

/-!
## Trees
-/

/-- A part of a screen line: a plus sign, a word with what it does, or a loop with the digits of its
count. -/
inductive Part
  | plus
  | word (text : List Char) (action : Primitive)
  | loop (count : List Char) (body : List Part)

namespace Part

mutual

def tokens : Part -> List Token
  | plus => [.plus]
  | word text _ => [.word text]
  | loop count body => .number count :: .star :: .opening :: (allTokens body ++ [.closing])

def allTokens : List Part -> List Token
  | [] => []
  | part :: rest => tokens part ++ allTokens rest

end

def isItem : Part -> Bool
  | plus => false
  | word _ _ => true
  | loop _ _ => true

mutual

/-- A part as the grammar has it: its words have a meaning, and no loop goes without an item. -/
def IsValid : Part -> Prop
  | plus => True
  | word text action => Means text action
  | loop _ body => AreValid body ∧ body.any isItem = true

def AreValid : List Part -> Prop
  | [] => True
  | part :: rest => IsValid part ∧ AreValid rest

end

def FormLine (parts : List Part) : Prop := AreValid parts ∧ parts.any isItem = true

mutual

/-- The operations that a part on a line stands for: one, or for a plus sign none. -/
def ops (line : Int) : Part -> List Op
  | plus => []
  | word _ action => [.once ⟨line, action⟩]
  | loop count body => [.loop line (Text.decimalValue count) (allOps line body)]

def allOps (line : Int) : List Part -> List Op
  | [] => []
  | part :: rest => ops line part ++ allOps line rest

end

@[simp] theorem allTokens_append (front back : List Part) :
    allTokens (front ++ back) = allTokens front ++ allTokens back := by
  induction front with
  | nil => rfl
  | cons part rest ih => rw [List.cons_append, allTokens, allTokens, ih, List.append_assoc]

@[simp] theorem allOps_append (line : Int) (front back : List Part) :
    allOps line (front ++ back) = allOps line front ++ allOps line back := by
  induction front with
  | nil => rfl
  | cons part rest ih => rw [List.cons_append, allOps, allOps, ih, List.append_assoc]

theorem areValid_append {front back : List Part} :
    AreValid (front ++ back) ↔ AreValid front ∧ AreValid back := by
  induction front with
  | nil => simp [AreValid]
  | cons part rest ih => rw [List.cons_append, AreValid, AreValid, ih, and_assoc]

theorem isEmpty_allOps (line : Int) (parts : List Part) :
    (allOps line parts).isEmpty = !parts.any isItem := by
  induction parts with
  | nil => rfl
  | cons part rest ih =>
      cases part with
      | plus => exact ih
      | word text action => rfl
      | loop count body => rfl

/-!
## One tree for each row of tokens
-/

def Ends (row : List Token) : Prop := row = [] ∨ exists rest, row = .closing :: rest

theorem not_ends_of_part (part : Part) (parts : List Part) (row : List Token) :
    Not (Ends (allTokens (part :: parts) ++ row)) := by
  rw [allTokens]
  intro h
  cases part with
  | plus => rcases h with h | ⟨rest, h⟩ <;> cases h
  | word text action => rcases h with h | ⟨rest, h⟩ <;> cases h
  | loop count body => rcases h with h | ⟨rest, h⟩ <;> cases h

theorem eq_of_allTokens_append {parts others : List Part} {front back : List Token}
    (hparts : AreValid parts) (hothers : AreValid others) (hfront : Ends front) (hback : Ends back)
    (h : allTokens parts ++ front = allTokens others ++ back) : parts = others ∧ front = back := by
  match parts, others with
  | [], [] => exact ⟨rfl, h⟩
  | [], other :: others =>
      change front = _ at h
      rw [h] at hfront
      exact absurd hfront (not_ends_of_part other others back)
  | part :: parts, [] =>
      change _ = back at h
      rw [← h] at hback
      exact absurd hback (not_ends_of_part part parts front)
  | part :: parts, other :: others =>
      rw [AreValid] at hparts hothers
      rw [allTokens, allTokens, List.append_assoc, List.append_assoc] at h
      cases part with
      | plus =>
          cases other with
          | plus =>
              have hrest := (List.cons.inj h).right
              rcases eq_of_allTokens_append hparts.right hothers.right hfront hback hrest with
                ⟨rfl, hsame⟩
              exact ⟨rfl, hsame⟩
          | word text action => cases (List.cons.inj h).left
          | loop count body => cases (List.cons.inj h).left
      | word text action =>
          cases other with
          | plus => cases (List.cons.inj h).left
          | word otherText otherAction =>
              rcases List.cons.inj h with ⟨hword, hrest⟩
              injection hword with htext
              subst htext
              have hmeans : Means text action := hparts.left
              have haction := hmeans.unique hothers.left
              rcases eq_of_allTokens_append hparts.right hothers.right hfront hback hrest with
                ⟨rfl, hsame⟩
              exact ⟨by rw [haction], hsame⟩
          | loop count body => cases (List.cons.inj h).left
      | loop count body =>
          cases other with
          | plus => cases (List.cons.inj h).left
          | word text action => cases (List.cons.inj h).left
          | loop otherCount otherBody =>
              rw [IsValid] at hparts hothers
              simp only [tokens, List.cons_append, List.append_assoc, List.nil_append,
                List.cons.injEq, Token.number.injEq, true_and] at h
              rcases h with ⟨rfl, hbodies⟩
              -- both bodies end at a closing sign, so they are told apart from what follows first
              rcases eq_of_allTokens_append hparts.left.left hothers.left.left
                (Or.inr ⟨_, rfl⟩) (Or.inr ⟨_, rfl⟩) hbodies with ⟨rfl, hbehind⟩
              rcases eq_of_allTokens_append hparts.right hothers.right hfront hback
                (List.cons.inj hbehind).right with ⟨rfl, hsame⟩
              exact ⟨rfl, hsame⟩
termination_by sizeOf parts

/-- A row of tokens is made up of parts in one way at most. -/
theorem eq_of_allTokens {parts others : List Part} (hparts : AreValid parts)
    (hothers : AreValid others) (h : allTokens parts = allTokens others) : parts = others := by
  refine (@eq_of_allTokens_append parts others [] [] hparts hothers (Or.inl rfl) (Or.inl rfl) ?_).left
  rw [h]

end Part
end Screen
end Mosaic
