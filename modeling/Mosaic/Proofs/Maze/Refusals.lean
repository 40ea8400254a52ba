import Mathlib
import Mosaic.Proofs.Attempts
import Mosaic.Proofs.Maze.Session

/-!
# How sessions are refused

A text is no session if something in it is missing, is of another type, cannot be read as a number or
does not fit into the maze, and all this is wrong with the value of the text.  An infinite number is
refused in another way.  The parts of a maze are read in a fixed order, so this comes to light only if
everything before the number is in order.

Each reader is described by what it takes, and by what it stumbles on: a value in which the first part
out of order is an infinite number.
-/

namespace Mosaic

namespace Document

/-- What counts as a whole number: flags, finite numbers, and texts that are numerals. -/
inductive IsNumber : Document -> Prop
  | bool (flag : Bool) : IsNumber (.bool flag)
  | whole (n : Int) : IsNumber (.whole n)
  | real (negative : Bool) (mantissa : Nat) (exponent : Int) :
      IsNumber (.real (.finite negative mantissa exponent))
  | text {letters : String} {n : Int} (numeral : Text.readWhole letters.toList = .ok n) :
      IsNumber (.text letters)

inductive IsInfinite : Document -> Prop
  | real (negative : Bool) : IsInfinite (.real (.infinite negative))

end Document

namespace Maze

/-!
## What is taken and what is stumbled on
-/

/-- The first of some items that is not in order is a bad one. -/
def FirstIs {α : Type} (InOrder Bad : α -> Prop) (items : List α) : Prop :=
  exists before item after, items = before ++ item :: after ∧
    (forall other, other ∈ before -> InOrder other) ∧ Bad item

/-- An attempt that takes what is in order, stumbles on an infinite number if there is one in the way,
and refuses all else for its value. -/
structure Takes {α : Type} (attempt : Except Fault α) (InOrder Stumbles : Prop) : Prop where
  ok : (exists value, attempt = .ok value) ↔ InOrder
  infinite : attempt = .error .notFinite ↔ Stumbles
  value : forall fault, attempt = .error fault -> fault = .notFinite ∨ fault.kind = .value

section Takes

variable {α β : Type}

theorem takes_ok (value : α) : Takes (.ok value) True False where
  ok := iff_of_true ⟨value, rfl⟩ trivial
  infinite := iff_of_false nofun id
  value := nofun

theorem takes_refuse (fault : MazeFault) : Takes (refuse fault : Except Fault α) False False where
  ok := iff_of_false (by rintro ⟨_, h⟩; cases h) id
  infinite := iff_of_false nofun id
  value _ h := by
    cases h
    exact Or.inr rfl

theorem Takes.congr {attempt : Except Fault α} {P P' Q Q' : Prop} (h : Takes attempt P Q)
    (hP : P ↔ P') (hQ : Q ↔ Q') : Takes attempt P' Q' where
  ok := h.ok.trans hP
  infinite := h.infinite.trans hQ
  value := h.value

/-- An attempt behind another one, with what it gives. -/
theorem takes_bind {attempt : Except Fault α} {next : α -> Except Fault β} {P Q : Prop}
    {P' Q' : α -> Prop} (h : Takes attempt P Q)
    (hnext : forall value, Takes (next value) (P' value) (Q' value)) :
    Takes (attempt >>= next) (exists value, attempt = .ok value ∧ P' value)
      (Q ∨ exists value, attempt = .ok value ∧ Q' value) where
  ok := by
    simp only [Attempts.bind_eq_ok_iff]
    constructor
    · intro hgiven
      rcases hgiven with ⟨result, value, hvalue, hresult⟩
      exact ⟨value, hvalue, (hnext value).ok.mp ⟨result, hresult⟩⟩
    · intro hgiven
      rcases hgiven with ⟨value, hvalue, hfine⟩
      rcases (hnext value).ok.mpr hfine with ⟨result, hresult⟩
      exact ⟨result, value, hvalue, hresult⟩
  infinite := by
    rw [Attempts.bind_eq_error_iff, h.infinite]
    simp only [fun value => (hnext value).infinite]
  value fault hfault := by
    rcases Attempts.bind_eq_error_iff.mp hfault with hfirst | ⟨value, _, hlater⟩
    · exact h.value fault hfirst
    · exact (hnext value).value fault hlater

theorem takes_then {attempt : Except Fault α} {next : α -> Except Fault β} {P Q P' Q' : Prop}
    (h : Takes attempt P Q) (hnext : forall value, Takes (next value) P' Q') :
    Takes (attempt >>= next) (P ∧ P') (Q ∨ P ∧ Q') := by
  refine (takes_bind h hnext).congr ?_ ?_
  · rw [← h.ok, exists_and_right]
  · rw [← h.ok, exists_and_right]

theorem takes_mapM {attempt : α -> Except Fault β} {P Q : α -> Prop}
    (h : forall item, Takes (attempt item) (P item) (Q item)) (items : List α) :
    Takes (items.mapM attempt) (forall item, item ∈ items -> P item) (FirstIs P Q items) where
  ok := by
    rw [Attempts.exists_mapM_eq_ok_iff]
    simp only [fun item => (h item).ok]
  infinite := by
    rw [Attempts.mapM_eq_error_iff]
    simp only [fun item => (h item).ok, fun item => (h item).infinite]
    rfl
  value fault hfault := by
    rcases Attempts.mapM_eq_error_iff.mp hfault with ⟨_, item, _, _, _, hitem⟩
    exact (h item).value fault hitem

end Takes

/-!
## Fields and members
-/

def At (P : Document -> Prop) (name : String) (value : Document) : Prop :=
  exists found, part value name = .ok found ∧ P found

def AtOr (P : Document -> Prop) (name : String) (other value : Document) : Prop :=
  exists found, partOr value name other = .ok found ∧ P found

def Members (P : Document -> Prop) (value : Document) : Prop :=
  exists items, value.members? = some items ∧ forall item, item ∈ items -> P item

def FirstMember (InOrder Bad : Document -> Prop) (value : Document) : Prop :=
  exists items, value.members? = some items ∧ FirstIs InOrder Bad items

section Fields

variable {α : Type} {next : Document -> Except Fault α} {P Q : Document -> Prop}

theorem takes_part (value : Document) (name : String) :
    Takes (part value name) (exists found, part value name = .ok found) False := by
  unfold part
  split
  · split
    · exact (takes_ok _).congr (iff_of_true trivial ⟨_, rfl⟩) Iff.rfl
    · exact (takes_refuse _).congr (iff_of_false id nofun) Iff.rfl
  · exact (takes_refuse _).congr (iff_of_false id nofun) Iff.rfl

theorem takes_partOr (value : Document) (name : String) (other : Document) :
    Takes (partOr value name other) (exists found, partOr value name other = .ok found) False := by
  unfold partOr
  split
  · exact (takes_ok _).congr (iff_of_true trivial ⟨_, rfl⟩) Iff.rfl
  · exact (takes_refuse _).congr (iff_of_false id nofun) Iff.rfl

theorem takes_at (h : forall found, Takes (next found) (P found) (Q found)) (value : Document)
    (name : String) : Takes (part value name >>= next) (At P name value) (At Q name value) :=
  (takes_bind (takes_part value name) h).congr Iff.rfl (iff_of_eq (false_or _))

theorem takes_atOr (h : forall found, Takes (next found) (P found) (Q found)) (value : Document)
    (name : String) (other : Document) :
    Takes (partOr value name other >>= next) (AtOr P name other value) (AtOr Q name other value) :=
  (takes_bind (takes_partOr value name other) h).congr Iff.rfl (iff_of_eq (false_or _))

theorem takes_membersBind {next : List Document -> Except Fault α} {P Q : List Document -> Prop}
    (h : forall items, Takes (next items) (P items) (Q items)) (value : Document) :
    Takes (members value >>= next) (exists items, value.members? = some items ∧ P items)
      (exists items, value.members? = some items ∧ Q items) := by
  unfold members
  cases value.members? with
  | none => exact (takes_refuse _).congr (iff_of_false id nofun) (iff_of_false id nofun)
  | some items => exact (h items).congr (by simp) (by simp)

theorem takes_members (h : forall item, Takes (next item) (P item) (Q item)) (value : Document) :
    Takes (members value >>= fun items => items.mapM next) (Members P value)
      (FirstMember P Q value) :=
  takes_membersBind (takes_mapM h) value

theorem not_at_false (name : String) (value : Document) : Not (At (fun _ => False) name value) := by
  rintro ⟨_, _, h⟩
  exact h

theorem not_firstMember_false (value : Document) : Not (FirstMember P (fun _ => False) value) := by
  rintro ⟨_, _, _, _, _, _, _, h⟩
  exact h

theorem exists_partOr_of_at {name : String} {value : Document} (h : At P name value)
    (other : String) (missing : Document) : exists found, partOr value other missing = .ok found := by
  rcases h with ⟨found, hfound, _⟩
  cases value with
  | record fields => exact ⟨_, rfl⟩
  | _ => cases hfound

end Fields

/-!
## Numbers
-/

open Document (IsNumber IsInfinite)

theorem takes_wholeNumber (value : Document) :
    Takes (wholeNumber value) value.IsNumber value.IsInfinite := by
  cases value with
  | bool flag => exact (takes_ok _).congr (iff_of_true trivial (.bool flag)) (iff_of_false id nofun)
  | whole n => exact (takes_ok _).congr (iff_of_true trivial (.whole n)) (iff_of_false id nofun)
  | real number =>
      cases number with
      | nan => exact (takes_refuse _).congr (iff_of_false id nofun) (iff_of_false id nofun)
      | infinite negative =>
          constructor
          · exact iff_of_false nofun nofun
          · exact iff_of_true rfl (.real negative)
          · intro fault hfault
            cases hfault
            exact Or.inl rfl
      | finite negative mantissa exponent =>
          exact (takes_ok _).congr (iff_of_true trivial (.real negative mantissa exponent))
            (iff_of_false id nofun)
  | text letters =>
      unfold wholeNumber
      simp only
      cases hread : Text.readWhole letters.toList with
      | ok n => exact (takes_ok n).congr (iff_of_true trivial (.text hread)) (iff_of_false id nofun)
      | error fault =>
          refine (takes_refuse (.numeral fault)).congr (iff_of_false id ?_) (iff_of_false id nofun)
          intro hnumber
          cases hnumber with
          | text hnumeral =>
              rw [hread] at hnumeral
              cases hnumeral
  | null => exact (takes_refuse _).congr (iff_of_false id nofun) (iff_of_false id nofun)
  | list items => exact (takes_refuse _).congr (iff_of_false id nofun) (iff_of_false id nofun)
  | record fields => exact (takes_refuse _).congr (iff_of_false id nofun) (iff_of_false id nofun)

theorem takes_wholePart (value : Document) (name : String) :
    Takes (wholePart value name) (At IsNumber name value) (At IsInfinite name value) :=
  takes_at takes_wholeNumber value name

/-!
## Parts
-/

def IsPlace (value : Document) : Prop := At IsNumber "r" value ∧ At IsNumber "c" value

/-- A place whose first number out of order is infinite. -/
def StumblingPlace (value : Document) : Prop :=
  At IsInfinite "r" value ∨ At IsNumber "r" value ∧ At IsInfinite "c" value

def IsCell (value : Document) : Prop :=
  forall name, name ∈ ["top", "right", "bottom", "left"] -> At (fun _ => True) name value

def IsItem (value : Document) : Prop := IsPlace value ∧ At (fun _ => True) "type" value

def IsPair (value : Document) : Prop :=
  exists row column, value.members? = some [row, column] ∧ row.IsNumber ∧ column.IsNumber

def StumblingPair (value : Document) : Prop :=
  exists row column, value.members? = some [row, column] ∧
    (row.IsInfinite ∨ row.IsNumber ∧ column.IsInfinite)

def IsTurtle (value : Document) : Prop :=
  IsPlace value ∧ AtOr IsNumber "heading" (.whole 0) value

def StumblingTurtle (value : Document) : Prop :=
  StumblingPlace value ∨ IsPlace value ∧ AtOr IsInfinite "heading" (.whole 0) value

section Parts

variable {α : Type}

theorem takes_place {next : Int -> Int -> Except Fault α} {P Q : Prop}
    (h : forall row column, Takes (next row column) P Q) (value : Document) :
    Takes (wholePart value "r" >>= fun row => wholePart value "c" >>= fun column => next row column)
      (IsPlace value ∧ P) (StumblingPlace value ∨ IsPlace value ∧ Q) := by
  refine (takes_then (takes_wholePart value "r") fun row =>
    takes_then (takes_wholePart value "c") fun column => h row column).congr ?_ ?_
  · rw [IsPlace, and_assoc]
  · rw [StumblingPlace, IsPlace, and_or_left, ← or_assoc, and_assoc]

theorem takes_flagPart (value : Document) (name : String) :
    Takes (flagPart value name) (At (fun _ => True) name value) False := by
  unfold flagPart
  refine (takes_at (fun found => takes_ok found.isGiven) value name).congr Iff.rfl ?_
  exact iff_of_false (not_at_false name value) id

theorem takes_wallsOf (value : Document) : Takes (wallsOf value) (IsCell value) False := by
  unfold wallsOf
  refine (takes_then (takes_flagPart value "top") fun top =>
    takes_then (takes_flagPart value "right") fun right =>
      takes_then (takes_flagPart value "bottom") fun bottom =>
        takes_then (takes_flagPart value "left") fun left =>
          takes_ok (⟨top, right, bottom, left⟩ : Walls)).congr ?_ ?_
  · unfold IsCell
    simp only [List.forall_mem_cons, List.not_mem_nil, false_implies, implies_true]
  · simp only [and_false, or_false]

theorem takes_rowOf (value : Document) : Takes (rowOf value) (Members IsCell value) False := by
  unfold rowOf
  refine (takes_members takes_wallsOf value).congr Iff.rfl ?_
  exact iff_of_false (not_firstMember_false value) id

theorem takes_itemOf (value : Document) :
    Takes (itemOf value) (IsItem value) (StumblingPlace value) := by
  have hkind : forall row column : Int,
      Takes (part value "type" >>= fun kind =>
        partOr value "collected" (.bool false) >>= fun collected =>
          (pure ⟨row, column, kind.asText, collected.isGiven⟩ : Except Fault ItemDraft))
        (At (fun _ => True) "type" value) False := by
    intro row column
    refine (takes_at (fun kind => takes_atOr (fun collected => takes_ok
      (⟨row, column, kind.asText, collected.isGiven⟩ : ItemDraft)) value "collected"
        (.bool false)) value "type").congr ?_ ?_
    · constructor
      · intro hgiven
        rcases hgiven with ⟨kind, hkind, _⟩
        exact ⟨kind, hkind, trivial⟩
      · intro hgiven
        rcases exists_partOr_of_at hgiven "collected" (.bool false) with ⟨collected, hcollected⟩
        rcases hgiven with ⟨kind, hkind, _⟩
        exact ⟨kind, hkind, collected, hcollected, trivial⟩
    · refine iff_of_false ?_ id
      rintro ⟨_, _, _, _, h⟩
      exact h
  unfold itemOf
  exact (takes_place hkind value).congr Iff.rfl (by simp only [and_false, or_false])

theorem takes_pairOf (value : Document) :
    Takes (pairOf value) (IsPair value) (StumblingPair value) := by
  unfold pairOf
  refine (takes_membersBind (P := fun items => exists row column, items = [row, column] ∧
    row.IsNumber ∧ column.IsNumber) (Q := fun items => exists row column, items = [row, column] ∧
      (row.IsInfinite ∨ row.IsNumber ∧ column.IsInfinite)) ?_ value).congr ?_ ?_
  · intro items
    split
    · rename_i row column
      refine (takes_then (takes_wholeNumber row) fun _ =>
        takes_then (takes_wholeNumber column) fun _ => takes_ok _).congr ?_ ?_
      · simp
      · simp
    · exact (takes_refuse _).congr (iff_of_false id (by simp)) (iff_of_false id (by simp))
    · exact (takes_refuse _).congr (iff_of_false id (by simp)) (iff_of_false id (by simp))
    · rename_i hother _ _
      refine (takes_refuse _).congr (iff_of_false id ?_) (iff_of_false id ?_)
      · rintro ⟨row, column, rfl, _⟩
        exact hother row column rfl
      · rintro ⟨row, column, rfl, _⟩
        exact hother row column rfl
  · unfold IsPair
    constructor
    · rintro ⟨items, hitems, row, column, rfl, h⟩
      exact ⟨row, column, hitems, h⟩
    · rintro ⟨row, column, hitems, h⟩
      exact ⟨_, hitems, row, column, rfl, h⟩
  · unfold StumblingPair
    constructor
    · rintro ⟨items, hitems, row, column, rfl, h⟩
      exact ⟨row, column, hitems, h⟩
    · rintro ⟨row, column, hitems, h⟩
      exact ⟨_, hitems, row, column, rfl, h⟩

theorem takes_turtleOf (value : Document) :
    Takes (turtleOf value) (IsTurtle value) (StumblingTurtle value) := by
  unfold turtleOf
  refine (takes_place (fun row column => takes_atOr (fun found =>
    takes_then (takes_wholeNumber found) fun heading => takes_ok (row, column, heading % 360))
      value "heading" (.whole 0)) value).congr ?_ ?_
  · simp only [and_true]
    rfl
  · simp only [and_false, or_false]
    rfl

end Parts

/-!
## Descriptions
-/

def IfGiven (P : Document -> Prop) (name : String) (value : Document) : Prop :=
  AtOr (fun found => found.isGiven = true -> P found) name .null value

def Given? (P : Document -> Prop) (name : String) (value : Document) : Prop :=
  AtOr (fun found => found.isGiven = true ∧ P found) name .null value

/-- A description in which the first part out of order is an infinite number: all parts before it, in
the order of size, cells, items, exit, visited cells and turtle, are in order. -/
def Stumbling (value : Document) : Prop :=
  At IsInfinite "rows" value ∨ At IsNumber "rows" value ∧
  (At IsInfinite "cols" value ∨ At IsNumber "cols" value ∧
  (At (Members (Members IsCell)) "cells" value ∧
  (AtOr (FirstMember IsItem StumblingPlace) "items" (.list []) value ∨
    AtOr (Members IsItem) "items" (.list []) value ∧
  (Given? StumblingPlace "exit" value ∨ IfGiven IsPlace "exit" value ∧
  (AtOr (FirstMember IsPair StumblingPair) "visited" (.list []) value ∨
    AtOr (Members IsPair) "visited" (.list []) value ∧
  Given? StumblingTurtle "turtle" value)))))

def cellsOf (value : Document) : Except Fault (List (List Walls)) := do
  (<- members (<- part value "cells")).mapM rowOf

def itemsOf (value : Document) : Except Fault (List ItemDraft) := do
  (<- members (<- partOr value "items" (.list []))).mapM itemOf

def exitOf (value : Document) : Except Fault (Option (Int × Int)) := do
  let rawExit <- partOr value "exit" .null
  if rawExit.isGiven then do pure (some (<- wholePart rawExit "r", <- wholePart rawExit "c"))
  else pure none

def visitedOf (value : Document) : Except Fault (List (Int × Int)) := do
  (<- members (<- partOr value "visited" (.list []))).mapM pairOf

def turtlePartOf (value : Document) : Except Fault (Option (Int × Int × Int)) := do
  let rawTurtle <- partOr value "turtle" .null
  if rawTurtle.isGiven then do pure (some (<- turtleOf rawTurtle)) else pure none

/-- A description is read part by part, and no part depends on another one. -/
theorem draftOf_eq (value : Document) :
    draftOf value = do
      let rows <- wholePart value "rows"
      let columns <- wholePart value "cols"
      let walls <- cellsOf value
      let items <- itemsOf value
      let exit <- exitOf value
      let visited <- visitedOf value
      let turtle <- turtlePartOf value
      return { rows, columns, walls, items, exit, visited, turtle } := by
  have hbranch : forall {β γ : Type} (given : Bool) (attempt other : Except Fault β)
      (next : β -> Except Fault γ), ((if given then attempt else other) >>= next) =
        if given then attempt >>= next else other >>= next :=
    fun given attempt other next => apply_ite (· >>= next) _ attempt other
  unfold draftOf cellsOf itemsOf exitOf visitedOf turtlePartOf
  simp only [bind_assoc, hbranch, pure_bind]

section Descriptions

variable {α : Type} {next : Document -> Except Fault α} {P Q : Document -> Prop}

theorem takes_ifGiven (h : forall found, Takes (next found) (P found) (Q found)) (value : Document)
    (name : String) :
    Takes (partOr value name .null >>= fun found =>
      if found.isGiven then next found >>= fun part => pure (some part) else pure none)
      (IfGiven P name value) (Given? Q name value) := by
  refine takes_atOr (fun found => ?_) value name .null
  split
  · rename_i hgiven
    exact (takes_then (h found) fun part => takes_ok (some part)).congr (by simp [hgiven])
      (by simp [hgiven])
  · rename_i hmissing
    exact (takes_ok none).congr (by simp [hmissing]) (by simp [hmissing])

theorem takes_cellsOf (value : Document) :
    Takes (cellsOf value) (At (Members (Members IsCell)) "cells" value) False := by
  refine (takes_at (takes_members takes_rowOf) value "cells").congr Iff.rfl (iff_of_false ?_ id)
  rintro ⟨found, _, h⟩
  exact not_firstMember_false found h

theorem takes_itemsOf (value : Document) :
    Takes (itemsOf value) (AtOr (Members IsItem) "items" (.list []) value)
      (AtOr (FirstMember IsItem StumblingPlace) "items" (.list []) value) :=
  takes_atOr (takes_members takes_itemOf) value "items" (.list [])

theorem takes_exitOf (value : Document) :
    Takes (exitOf value) (IfGiven IsPlace "exit" value) (Given? StumblingPlace "exit" value) := by
  have hplace := fun found => (takes_place (fun row column => takes_ok (row, column)) found).congr
    (iff_of_eq (and_true _)) (by simp only [and_false, or_false]; rfl)
  have hexit := takes_ifGiven hplace value "exit"
  simp only [bind_assoc] at hexit
  exact hexit

theorem takes_visitedOf (value : Document) :
    Takes (visitedOf value) (AtOr (Members IsPair) "visited" (.list []) value)
      (AtOr (FirstMember IsPair StumblingPair) "visited" (.list []) value) :=
  takes_atOr (takes_members takes_pairOf) value "visited" (.list [])

theorem takes_turtlePartOf (value : Document) :
    Takes (turtlePartOf value) (IfGiven IsTurtle "turtle" value)
      (Given? StumblingTurtle "turtle" value) :=
  takes_ifGiven takes_turtleOf value "turtle"

theorem takes_draftOf (value : Document) :
    Takes (draftOf value)
      (At IsNumber "rows" value ∧ At IsNumber "cols" value ∧
        At (Members (Members IsCell)) "cells" value ∧
        AtOr (Members IsItem) "items" (.list []) value ∧ IfGiven IsPlace "exit" value ∧
        AtOr (Members IsPair) "visited" (.list []) value ∧ IfGiven IsTurtle "turtle" value)
      (Stumbling value) := by
  rw [draftOf_eq]
  refine (takes_then (takes_wholePart value "rows") fun rows =>
    takes_then (takes_wholePart value "cols") fun columns =>
    takes_then (takes_cellsOf value) fun walls =>
    takes_then (takes_itemsOf value) fun items =>
    takes_then (takes_exitOf value) fun exit =>
    takes_then (takes_visitedOf value) fun visited =>
    takes_then (takes_turtlePartOf value) fun turtle =>
    takes_ok (⟨rows, columns, walls, items, exit, visited, turtle⟩ : Draft)).congr ?_ ?_
  · simp only [and_true]
  · simp only [false_or, and_false, or_false]
    rfl

end Descriptions

theorem kind_of_toMaze {draft : Draft} {fault : Fault} (h : draft.toMaze = .error fault) :
    fault.kind = .value := by
  unfold Draft.toMaze at h
  simp only at h
  split at h
  · cases h
    rfl
  · rcases Attempts.bind_eq_error_iff.mp h with hitem | ⟨items, _, hplaces⟩
    · rcases Attempts.mapM_eq_error_iff.mp hitem with ⟨_, described, _, _, _, hkind⟩
      unfold Draft.item at hkind
      split at hkind
      · cases hkind
      · cases hkind
        rfl
    · split at hplaces
      · cases hplaces
        rfl
      · split at hplaces
        · cases hplaces
          rfl
        · cases hplaces

theorem ofDocument_eq_notFinite_iff {value : Document} :
    ofDocument value = .error .notFinite ↔ Stumbling value := by
  unfold ofDocument
  rw [Attempts.bind_eq_error_iff, (takes_draftOf value).infinite]
  constructor
  · intro h
    rcases h with hstumbles | ⟨draft, _, hdraft⟩
    · exact hstumbles
    · cases kind_of_toMaze hdraft
  · exact Or.inl

theorem kind_of_ofDocument {value : Document} {fault : Fault} (h : ofDocument value = .error fault) :
    fault = .notFinite ∨ fault.kind = .value := by
  rcases Attempts.bind_eq_error_iff.mp h with hdraft | ⟨draft, _, hchecked⟩
  · exact (takes_draftOf value).value fault hdraft
  · exact Or.inr (kind_of_toMaze hchecked)

/-!
## Sessions
-/

def HoldsSession (text : String) (code maze : Document) : Prop :=
  exists fields, Document.read text = .ok (.record fields) ∧
    Document.field? fields "code" = some code ∧ Document.field? fields "maze" = some maze

/-- A text that holds a session whose maze has an infinite number as the first part out of order. -/
def StumblingSession (text : String) : Prop :=
  exists code maze, HoldsSession text code maze ∧ Stumbling maze

section Sessions

variable {text : String} {code maze : Document}

theorem HoldsSession.maze_eq (h : HoldsSession text code maze) {otherCode otherMaze : Document}
    (hother : HoldsSession text otherCode otherMaze) : maze = otherMaze := by
  rcases h with ⟨fields, hread, _, hmaze⟩
  rcases hother with ⟨others, hothers, _, hotherMaze⟩
  rw [hread] at hothers
  cases hothers
  rw [hmaze] at hotherMaze
  exact Option.some.inj hotherMaze

theorem loadSession_of_holds (h : HoldsSession text code maze) :
    loadSession text = ofDocument maze >>= fun found => pure (code.asText, found) := by
  rcases h with ⟨fields, hread, hcode, hmaze⟩
  unfold loadSession
  rw [hread]
  simp only [hcode, hmaze]

theorem loadSession_of_not_holds (h : forall code maze, Not (HoldsSession text code maze)) :
    exists fault, loadSession text = .error fault ∧ fault.kind = .value := by
  unfold loadSession
  cases hread : Document.read text with
  | error fault =>
      cases fault with
      | malformed => exact ⟨_, rfl, rfl⟩
      | numeral fault => exact ⟨_, rfl, rfl⟩
  | ok value =>
      cases value with
      | record fields =>
          simp only
          split
          · rename_i code maze hcode hmaze
            exact absurd ⟨fields, hread, hcode, hmaze⟩ (h code maze)
          · exact ⟨_, rfl, rfl⟩
      | _ => exact ⟨_, rfl, rfl⟩

end Sessions

/-- Every text gives a session or is refused for its value, with one exception: a text that stumbles
on an infinite number is refused in a way of its own. -/
theorem loadSession_answers (text : String) :
    StumblingSession text ∧ loadSession text = .error .notFinite ∨
      Not (StumblingSession text) ∧
        ((exists code maze, loadSession text = .ok (code, maze)) ∨
          exists fault, loadSession text = .error fault ∧ fault.kind = .value) := by
  by_cases hholds : exists code maze, HoldsSession text code maze
  · rcases hholds with ⟨code, maze, hholds⟩
    have hload := loadSession_of_holds hholds
    cases hmaze : ofDocument maze with
    | ok found =>
        rw [hmaze] at hload
        refine Or.inr ⟨?_, Or.inl ⟨code.asText, found, hload⟩⟩
        rintro ⟨otherCode, otherMaze, hother, hstumbles⟩
        rw [← hholds.maze_eq hother, ← ofDocument_eq_notFinite_iff, hmaze] at hstumbles
        cases hstumbles
    | error fault =>
        rw [hmaze] at hload
        by_cases hinfinite : fault = .notFinite
        · subst hinfinite
          exact Or.inl ⟨⟨code, maze, hholds, ofDocument_eq_notFinite_iff.mp hmaze⟩, hload⟩
        · refine Or.inr ⟨?_, Or.inr ⟨fault, hload, ?_⟩⟩
          · rintro ⟨otherCode, otherMaze, hother, hstumbles⟩
            rw [← hholds.maze_eq hother, ← ofDocument_eq_notFinite_iff, hmaze] at hstumbles
            exact hinfinite (Except.error.inj hstumbles)
          · exact (kind_of_ofDocument hmaze).resolve_left hinfinite
  · have hnone : forall code maze, Not (HoldsSession text code maze) :=
      fun code maze h => hholds ⟨code, maze, h⟩
    refine Or.inr ⟨?_, Or.inr (loadSession_of_not_holds hnone)⟩
    rintro ⟨code, maze, hother, _⟩
    exact hnone code maze hother

/-- A maze with an infinite number of rows is refused, and not for its value. -/
theorem not_loadSession_answers :
    Not (forall text, (exists code maze, loadSession text = .ok (code, maze)) ∨
      exists fault, loadSession text = .error fault ∧ fault.kind = .value) := by
  intro h
  have hread : Document.read "\x7b\"code\": \"\", \"maze\": \x7b\"rows\": Infinity\x7d\x7d" =
      .ok (.record [("code", .text ""), ("maze", .record [("rows", .real (.infinite false))])]) := by
    cbv
  have hload := loadSession_of_holds ⟨_, hread, rfl, rfl⟩
  have hmaze : ofDocument (.record [("rows", .real (.infinite false))]) = .error .notFinite := rfl
  rw [hmaze] at hload
  rcases h _ with ⟨code, maze, hok⟩ | ⟨fault, hfault, hkind⟩
  · cases hload.symm.trans hok
  · cases hload.symm.trans hfault
    cases hkind

end Maze
end Mosaic
