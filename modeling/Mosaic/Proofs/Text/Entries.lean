import Mosaic.Proofs.Text.Pieces

/-!
# Entries of a text

The entries of a text are its lines that are not blank, without the white space around them.  Texts
with the same entries differ in their layout only: in which line an entry stands, and in the white
space around it.
-/

namespace Mosaic
namespace Text

def entriesOf (rows : List (List Char)) : List (List Char) :=
  (rows.map trim).filter fun entry => !entry.isEmpty

def entries (source : String) : List (List Char) := entriesOf (lines source.toList)

def numberedFrom (line : Int) : List (List Char) -> List (Int × List Char)
  | [] => []
  | row :: rest =>
      if (trim row).isEmpty then numberedFrom (line + 1) rest
      else (line, trim row) :: numberedFrom (line + 1) rest

def numbered (source : String) : List (Int × List Char) := numberedFrom 0 (lines source.toList)

/-- Lines of two texts that hold the same entry, counted among the entries. -/
def SameEntry (source other : String) (line otherLine : Int) : Prop :=
  exists (index : Nat) (entry : List Char), (numbered source)[index]? = some (line, entry) ∧
    (numbered other)[index]? = some (otherLine, entry)

/-!
## Entries
-/

theorem entriesOf_cons_of_blank {row : List Char} (h : IsGap row) (rest : List (List Char)) :
    entriesOf (row :: rest) = entriesOf rest := by
  unfold entriesOf
  rw [List.map_cons, trim_eq_nil_iff.mpr h]
  rfl

theorem entriesOf_cons_of_full {row : List Char} (h : Not (IsGap row)) (rest : List (List Char)) :
    entriesOf (row :: rest) = trim row :: entriesOf rest := by
  have hfull : (!(trim row).isEmpty) = true := by
    rw [Bool.not_eq_true', List.isEmpty_eq_false_iff]
    exact mt trim_eq_nil_iff.mp h
  exact List.filter_cons_of_pos hfull

theorem numberedFrom_cons_of_blank {row : List Char} (h : IsGap row) (line : Int)
    (rest : List (List Char)) : numberedFrom line (row :: rest) = numberedFrom (line + 1) rest := by
  rw [numberedFrom, trim_eq_nil_iff.mpr h]
  rfl

theorem numberedFrom_cons_of_full {row : List Char} (h : Not (IsGap row)) (line : Int)
    (rest : List (List Char)) :
    numberedFrom line (row :: rest) = (line, trim row) :: numberedFrom (line + 1) rest := by
  rw [numberedFrom, if_neg fun hempty => h (trim_eq_nil_iff.mp (List.isEmpty_iff.mp hempty))]

theorem map_numberedFrom (line : Int) (rows : List (List Char)) :
    (numberedFrom line rows).map Prod.snd = entriesOf rows := by
  induction rows generalizing line with
  | nil => rfl
  | cons row rest ih =>
      by_cases hblank : IsGap row
      · rw [numberedFrom_cons_of_blank hblank, entriesOf_cons_of_blank hblank, ih]
      · rw [numberedFrom_cons_of_full hblank, entriesOf_cons_of_full hblank, List.map_cons, ih]

theorem trim_of_mem_entriesOf {rows : List (List Char)} {entry : List Char}
    (h : entry ∈ entriesOf rows) : trim entry = entry ∧ Not (IsGap entry) := by
  rcases List.mem_filter.mp h with ⟨hmem, hfull⟩
  rcases List.mem_map.mp hmem with ⟨row, _, rfl⟩
  rw [Bool.not_eq_true', List.isEmpty_eq_false_iff, ← trim_trim] at hfull
  exact ⟨trim_trim row, mt trim_eq_nil_iff.mpr hfull⟩

theorem entriesOf_entriesOf (rows : List (List Char)) :
    entriesOf (entriesOf rows) = entriesOf rows := by
  have htrimmed : (entriesOf rows).map trim = (entriesOf rows).map id :=
    List.map_congr_left fun entry hentry => (trim_of_mem_entriesOf hentry).left
  show ((entriesOf rows).map trim).filter _ = _
  rw [htrimmed, List.map_id]
  exact List.filter_eq_self.mpr fun entry hentry => (List.mem_filter.mp hentry).right

theorem numberedFrom_of_full {line : Int} {rows : List (List Char)}
    (hfull : forall row, row ∈ rows -> Not (IsGap row)) {index : Nat} {found : Int}
    {entry : List Char} (h : (numberedFrom line rows)[index]? = some (found, entry)) :
    found = line + index ∧ index < rows.length := by
  induction rows generalizing line index with
  | nil => cases h
  | cons row rest ih =>
      rw [List.forall_mem_cons] at hfull
      rw [numberedFrom_cons_of_full hfull.left] at h
      cases index with
      | zero =>
          cases h
          exact ⟨(Int.add_zero _).symm, Nat.succ_pos _⟩
      | succ index =>
          rcases ih hfull.right h with ⟨rfl, hless⟩
          exact ⟨by omega, Nat.succ_lt_succ hless⟩

/-!
## Places of entries
-/

/-- The line of the entry of a number, where the entries are thought to go on behind the text, and
in front of its first entry. -/
def place (line : Int) : List (List Char) -> Int -> Int
  | [], index => line + index
  | row :: rest, index =>
      if (trim row).isEmpty then place (line + 1) rest index
      else if index ≤ 0 then line + index else place (line + 1) rest (index - 1)

theorem le_place (line : Int) (rows : List (List Char)) (index : Int) :
    line + index ≤ place line rows index := by
  induction rows generalizing line index with
  | nil => exact Int.le_refl _
  | cons row rest ih =>
      rw [place]
      split
      · have hrest := ih (line + 1) index
        omega
      · split
        · exact Int.le_refl _
        · have hrest := ih (line + 1) (index - 1)
          omega

theorem place_lt_place (line : Int) (rows : List (List Char)) {first second : Int}
    (h : first < second) : place line rows first < place line rows second := by
  induction rows generalizing line first second with
  | nil => exact Int.add_lt_add_left h line
  | cons row rest ih =>
      rw [place, place]
      split
      · exact ih (line + 1) h
      · by_cases hsecond : second ≤ 0
        · rw [if_pos hsecond, if_pos (by omega)]
          omega
        · rw [if_neg hsecond]
          by_cases hfirst : first ≤ 0
          · have hrest := le_place (line + 1) rest (second - 1)
            rw [if_pos hfirst]
            omega
          · rw [if_neg hfirst]
            exact ih (line + 1) (by omega)

theorem place_injective (line : Int) (rows : List (List Char)) :
    Function.Injective (place line rows) := by
  intro first second h
  rcases Int.lt_trichotomy first second with hless | hsame | hmore
  · exact absurd h (Int.ne_of_lt (place_lt_place line rows hless))
  · exact hsame
  · exact absurd h.symm (Int.ne_of_lt (place_lt_place line rows hmore))

theorem place_of_numbered {line : Int} {rows : List (List Char)} {index : Nat} {found : Int}
    {entry : List Char} (h : (numberedFrom line rows)[index]? = some (found, entry)) :
    place line rows index = found := by
  induction rows generalizing line index with
  | nil => cases h
  | cons row rest ih =>
      by_cases hblank : IsGap row
      · rw [numberedFrom_cons_of_blank hblank] at h
        rw [place, if_pos (List.isEmpty_iff.mpr (trim_eq_nil_iff.mpr hblank))]
        exact ih h
      · rw [numberedFrom_cons_of_full hblank] at h
        rw [place, if_neg fun hempty => hblank (trim_eq_nil_iff.mp (List.isEmpty_iff.mp hempty))]
        cases index with
        | zero =>
            cases h
            exact Int.add_zero _
        | succ index =>
            rw [if_neg (by omega), show ((index + 1 : Nat) : Int) - 1 = index by omega]
            exact ih h

theorem exists_numbered {source : String} {index : Nat} {entry : List Char}
    (h : (entries source)[index]? = some entry) :
    (numbered source)[index]? = some (place 0 (lines source.toList) index, entry) := by
  unfold entries at h
  rw [← map_numberedFrom 0, List.getElem?_map] at h
  rcases Option.map_eq_some_iff.mp h with ⟨⟨line, text⟩, hnumbered, rfl⟩
  rw [place_of_numbered hnumbered]
  exact hnumbered

theorem sameEntry_place {source other : String} (hsame : entries source = entries other)
    {index : Int} (hfirst : 0 ≤ index) (hlast : index < (entries source).length) :
    SameEntry source other (place 0 (lines source.toList) index)
      (place 0 (lines other.toList) index) := by
  rcases Int.eq_ofNat_of_zero_le hfirst with ⟨n, rfl⟩
  have hentry := List.getElem?_eq_getElem (Int.ofNat_lt.mp hlast)
  exact ⟨n, _, exists_numbered hentry, exists_numbered (hsame ▸ hentry)⟩

/-!
## Numbers that no entry has
-/

/-- A change of numbers that leaves as many of them as there are entries, and no others. -/
def spare (count : Nat) (index : Int) : Int :=
  if index < 0 then index - 1 else if index < count then index else index + 1

theorem spare_injective (count : Nat) : Function.Injective (spare count) := by
  intro first second h
  unfold spare at h
  grind

theorem spare_eq_self_iff {count : Nat} {index : Int} :
    spare count index = index ↔ 0 ≤ index ∧ index < count := by
  unfold spare
  split
  · omega
  · split
    · omega
    · omega

end Text
end Mosaic
