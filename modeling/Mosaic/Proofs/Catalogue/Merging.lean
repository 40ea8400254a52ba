import Mosaic.Catalogue
import Mosaic.Proofs.Attempts

/-!
# Merging records

New records are merged into old ones id by id.  An id that is new brings all of its records, and an
id that is there already takes its last new record for the first of its old ones.  The other old
records of the id stay, and they stand behind the one that was replaced.
-/

namespace Mosaic
namespace Catalogue

def isNamed (id : String) (record : GoalRecord) : Bool :=
  match Document.field? record "id" with
  | some (.text other) => other == id
  | _ => false

def ofId (id : String) (records : List GoalRecord) : List GoalRecord := records.filter (isNamed id)

def HasName (record : GoalRecord) : Prop := exists id, isNamed id record = true

def amended (kept new : List GoalRecord) : List GoalRecord :=
  match kept with
  | [] => new
  | first :: rest => new.getLast?.getD first :: rest

section Names

variable {id other : String} {record : GoalRecord}

theorem isNamed_iff : isNamed id record = true ↔ Document.field? record "id" = some (.text id) := by
  unfold isNamed
  split
  · rename_i name hname
    rw [hname, beq_iff_eq]
    simp
  · rename_i hother
    constructor
    · nofun
    · intro hname
      exact absurd hname (hother id)

theorem isNamed_eq (h : isNamed id record = true) (other : String) :
    isNamed other record = (id == other) := by
  unfold isNamed
  rw [isNamed_iff.mp h]

theorem idOf_of_isNamed (h : isNamed id record = true) : idOf record = .ok (.text id) := by
  unfold idOf
  rw [isNamed_iff.mp h]
  rfl

theorem same_text (left right : String) :
    Document.same (.text left) (.text right) = (left == right) := rfl

theorem ofId_cons (h : isNamed id record = true) (other : String) (rest : List GoalRecord) :
    ofId other (record :: rest) = if id = other then record :: ofId other rest else ofId other rest := by
  unfold ofId
  rw [List.filter_cons, isNamed_eq h]
  by_cases hother : id = other
  · rw [if_pos hother, if_pos (beq_iff_eq.mpr hother)]
  · rw [if_neg hother, if_neg (by simp [hother])]

theorem ofId_append (id : String) (front back : List GoalRecord) :
    ofId id (front ++ back) = ofId id front ++ ofId id back := List.filter_append front back

end Names

/-!
## Records that are pending
-/

/-- The record that is pending under an id. -/
def pendingOf (id : String) (pending : List (Document × GoalRecord)) : Option GoalRecord :=
  (pending.find? fun entry => entry.1.same (.text id)).map Prod.snd

def Filed (pending : List (Document × GoalRecord)) : Prop :=
  forall entry, entry ∈ pending -> exists id, entry.1 = .text id ∧ isNamed id entry.2 = true

section Pending

variable {pending : List (Document × GoalRecord)} {id : String} {record : GoalRecord}

theorem Filed.tail {entry : Document × GoalRecord} (h : Filed (entry :: pending)) : Filed pending :=
  fun other hother => h other (List.mem_cons_of_mem entry hother)

theorem pendingOf_cons (id key : String) (record : GoalRecord)
    (rest : List (Document × GoalRecord)) :
    pendingOf id ((.text key, record) :: rest) =
      if key = id then some record else pendingOf id rest := by
  unfold pendingOf
  rw [List.find?_cons, same_text]
  by_cases hkey : key = id
  · rw [if_pos hkey, beq_iff_eq.mpr hkey]
    rfl
  · rw [if_neg hkey, beq_eq_false_iff_ne.mpr hkey]

theorem isNamed_of_pendingOf (h : Filed pending) (hrecord : pendingOf id pending = some record) :
    isNamed id record = true := by
  rcases Option.map_eq_some_iff.mp hrecord with ⟨entry, hentry, rfl⟩
  rcases h entry (List.mem_of_find?_eq_some hentry) with ⟨key, hkey, hnamed⟩
  have hsame := List.find?_some hentry
  rw [hkey, same_text, beq_iff_eq] at hsame
  rwa [hsame] at hnamed

theorem any_iff_pendingOf :
    (pending.any fun entry => entry.1.same (.text id)) = (pendingOf id pending).isSome := by
  unfold pendingOf
  rw [Option.isSome_map, Bool.eq_iff_iff, List.find?_isSome, List.any_eq_true]

theorem pendingOf_map (h : Filed pending) (id other : String) (record : GoalRecord) :
    pendingOf other (pending.map fun entry =>
        if entry.1.same (.text id) then (entry.1, record) else entry) =
      if id = other then (pendingOf other pending).map fun _ => record else pendingOf other pending := by
  induction pending with
  | nil => simp [pendingOf]
  | cons entry rest ih =>
      rcases entry with ⟨key, old⟩
      rcases h _ List.mem_cons_self with ⟨name, rfl, _⟩
      rw [List.map_cons, pendingOf_cons]
      simp only [same_text, beq_iff_eq]
      by_cases hname : name = id
      · rw [if_pos hname, pendingOf_cons, ih h.tail]
        subst hname
        by_cases hother : name = other
        · simp [hother]
        · simp [hother]
      · rw [if_neg hname, pendingOf_cons, ih h.tail]
        by_cases hother : name = other
        · have hid : id ≠ other := fun hsame => hname (hother.trans hsame.symm)
          simp [hother, hid]
        · simp [hother]

theorem pendingOf_putById (h : Filed pending) (id other : String) (record : GoalRecord) :
    pendingOf other (putById pending (.text id) record) =
      if id = other then some record else pendingOf other pending := by
  unfold putById
  rw [any_iff_pendingOf]
  cases hfound : pendingOf id pending with
  | some old =>
      rw [if_pos (by rfl), pendingOf_map h]
      by_cases hother : id = other
      · rw [if_pos hother, if_pos hother, ← hother, hfound]
        rfl
      · rw [if_neg hother, if_neg hother]
  | none =>
      rw [if_neg (by simp)]
      unfold pendingOf
      rw [List.find?_append, Option.map_or]
      change (pendingOf other pending).or (pendingOf other [(.text id, record)]) = _
      rw [pendingOf_cons]
      by_cases hother : id = other
      · rw [if_pos hother, if_pos hother, ← hother, hfound]
        rfl
      · rw [if_neg hother, if_neg hother]
        exact Option.or_none

theorem filed_putById (h : Filed pending) (hnamed : isNamed id record = true) :
    Filed (putById pending (.text id) record) := by
  unfold putById
  split
  · intro entry hentry
    rcases List.mem_map.mp hentry with ⟨old, hold, rfl⟩
    rcases h old hold with ⟨key, hkey, hbefore⟩
    split
    · rename_i hsame
      rw [hkey, same_text, beq_iff_eq] at hsame
      exact ⟨id, by rw [hkey, hsame], hnamed⟩
    · exact ⟨key, hkey, hbefore⟩
  · intro entry hentry
    rcases List.mem_append.mp hentry with hold | hnew
    · exact h entry hold
    · cases List.mem_singleton.mp hnew
      exact ⟨id, rfl, hnamed⟩

theorem pendingOf_foldlM {records : List GoalRecord}
    (h : forall record, record ∈ records -> HasName record) (hpending : Filed pending) :
    exists after, records.foldlM (fun pending record => do
        return putById pending (<- idOf record) record) pending = .ok after ∧ Filed after ∧
      forall id, pendingOf id after = (ofId id records).getLast?.or (pendingOf id pending) := by
  induction records generalizing pending with
  | nil => exact ⟨pending, rfl, hpending, fun id => rfl⟩
  | cons record rest ih =>
      rcases h record List.mem_cons_self with ⟨name, hname⟩
      rcases ih (fun other hother => h other (List.mem_cons_of_mem record hother))
        (filed_putById hpending hname) with ⟨after, hafter, hfiled, hlast⟩
      refine ⟨after, ?_, hfiled, ?_⟩
      · rw [List.foldlM_cons, idOf_of_isNamed hname]
        exact hafter
      · intro id
        rw [hlast, pendingOf_putById hpending, ofId_cons hname]
        by_cases hid : name = id
        · rw [if_pos hid, if_pos hid, List.getLast?_cons]
          cases (ofId id rest).getLast? with
          | none => rfl
          | some last => rfl
        · rw [if_neg hid, if_neg hid]

theorem byId_eq_ok {records : List GoalRecord} (h : forall record, record ∈ records -> HasName record) :
    exists pending, byId records = .ok pending ∧ Filed pending ∧
      forall id, pendingOf id pending = (ofId id records).getLast? := by
  rcases @pendingOf_foldlM [] records h nofun with ⟨pending, hpending, hfiled, hlast⟩
  refine ⟨pending, hpending, hfiled, fun id => ?_⟩
  rw [hlast]
  exact Option.or_none

/-!
## Records that are replaced
-/

theorem pendingOf_filter (h : Filed pending) (id other : String) :
    pendingOf other (pending.filter fun entry => !entry.1.same (.text id)) =
      if id = other then none else pendingOf other pending := by
  induction pending with
  | nil => simp [pendingOf]
  | cons entry rest ih =>
      rcases entry with ⟨key, old⟩
      rcases h _ List.mem_cons_self with ⟨name, rfl, _⟩
      rw [List.filter_cons, pendingOf_cons]
      simp only [same_text, Bool.not_eq_true', beq_eq_false_iff_ne]
      by_cases hname : name = id
      · rw [if_neg (not_not_intro hname), ih h.tail, hname]
        by_cases hother : id = other
        · rw [if_pos hother, if_pos hother]
        · rw [if_neg hother, if_neg hother, if_neg hother]
      · rw [if_pos hname, pendingOf_cons, ih h.tail]
        by_cases hother : name = other
        · have hid : id ≠ other := fun hsame => hname (hother.trans hsame.symm)
          rw [if_pos hother, if_neg hid, if_pos hother]
        · rw [if_neg hother, if_neg hother]

theorem Filed.filter (h : Filed pending) (test : Document × GoalRecord -> Bool) :
    Filed (pending.filter test) := fun entry hentry => h entry ((List.mem_filter.mp hentry).left)

def withFirst (kept : List GoalRecord) (record : Option GoalRecord) : List GoalRecord :=
  match kept with
  | [] => []
  | first :: rest => record.getD first :: rest

theorem withFirst_none (kept : List GoalRecord) : withFirst kept none = kept := by
  cases kept with
  | nil => rfl
  | cons first rest => rfl

theorem amended_of_ne_nil {kept : List GoalRecord} (h : kept ≠ []) (new : List GoalRecord) :
    amended kept new = withFirst kept new.getLast? := by
  cases kept with
  | nil => exact absurd rfl h
  | cons first rest => rfl

/-- The first old record of an id takes what is pending under it, and what has no old record stays
pending. -/
theorem replaced_eq_ok {old : List GoalRecord} (hold : forall record, record ∈ old -> HasName record)
    (h : Filed pending) :
    exists kept left, replaced pending old = .ok (kept, left) ∧
      (forall record, record ∈ kept -> HasName record) ∧
      (forall id, ofId id kept = withFirst (ofId id old) (pendingOf id pending)) ∧
      forall id, pendingOf id left = if ofId id old = [] then pendingOf id pending else none := by
  induction old generalizing pending with
  | nil => exact ⟨[], pending, rfl, nofun, fun id => rfl, fun id => rfl⟩
  | cons record rest ih =>
      cases pending with
      | nil =>
          refine ⟨record :: rest, [], rfl, hold, fun id => (withFirst_none _).symm, fun id => ?_⟩
          split
          · rfl
          · rfl
      | cons entry others =>
          rcases hold record List.mem_cons_self with ⟨name, hname⟩
          rcases ih (fun other hother => hold other (List.mem_cons_of_mem record hother))
            (h.filter fun entry => !entry.1.same (.text name)) with
            ⟨kept, left, hrest, hnames, hkept, hleft⟩
          have hput : isNamed name ((pendingOf name (entry :: others)).getD record) = true := by
            cases hpending : pendingOf name (entry :: others) with
            | none => exact hname
            | some new => exact isNamed_of_pendingOf h hpending
          refine ⟨(pendingOf name (entry :: others)).getD record :: kept, left, ?_,
            List.forall_mem_cons.mpr ⟨⟨name, hput⟩, hnames⟩, ?_, ?_⟩
          · rw [replaced, if_neg (by simp), idOf_of_isNamed hname]
            show (replaced _ rest >>= _) = _
            rw [hrest]
            rfl
          · intro id
            rw [ofId_cons hput, ofId_cons hname, hkept, pendingOf_filter h]
            by_cases hid : name = id
            · rw [if_pos hid, if_pos hid, if_pos hid, withFirst_none, hid]
              rfl
            · rw [if_neg hid, if_neg hid, if_neg hid]
          · intro id
            rw [hleft, pendingOf_filter h, ofId_cons hname]
            by_cases hid : name = id
            · rw [if_pos hid, if_pos hid, if_neg (List.cons_ne_nil _ _)]
              exact ite_self none
            · rw [if_neg hid, if_neg hid]

/-!
## Records that are merged
-/

def isLeft (left : List (Document × GoalRecord)) (record : GoalRecord) : Bool :=
  match idOf record with
  | .ok id => left.any fun entry => entry.1.same id
  | .error _ => false

theorem isLeft_eq (h : isNamed id record = true) (left : List (Document × GoalRecord)) :
    isLeft left record = (pendingOf id left).isSome := by
  unfold isLeft
  rw [idOf_of_isNamed h]
  exact any_iff_pendingOf

theorem filterM_isLeft {records : List GoalRecord}
    (h : forall record, record ∈ records -> HasName record) (left : List (Document × GoalRecord)) :
    records.filterM (fun record => do
        let id <- idOf record
        return left.any fun entry => entry.1.same id) = .ok (records.filter (isLeft left)) := by
  refine Attempts.filterM_of_ok fun record hrecord => ?_
  rcases h record hrecord with ⟨id, hid⟩
  unfold isLeft
  rw [idOf_of_isNamed hid]
  rfl

theorem ofId_isLeft (id : String) (records : List GoalRecord) (left : List (Document × GoalRecord)) :
    ofId id (records.filter (isLeft left)) =
      if (pendingOf id left).isSome then ofId id records else [] := by
  unfold ofId
  rw [List.filter_filter]
  split
  · rename_i hpending
    refine List.filter_congr fun record _ => ?_
    cases hnamed : isNamed id record with
    | false => rfl
    | true => rw [isLeft_eq hnamed, hpending, Bool.and_self]
  · rename_i hnone
    rw [Bool.not_eq_true] at hnone
    refine List.filter_eq_nil_iff.mpr fun record _ => ?_
    cases hnamed : isNamed id record with
    | false => simp
    | true => simp [isLeft_eq hnamed, hnone]

/-- Merging looks at each id on its own. -/
theorem merged_eq_ok {old new : List GoalRecord} (hold : forall record, record ∈ old -> HasName record)
    (hnew : forall record, record ∈ new -> HasName record) :
    exists pending records, byId new = .ok pending ∧ merged pending old new = .ok records ∧
      (forall record, record ∈ records -> HasName record) ∧
      forall id, ofId id records = amended (ofId id old) (ofId id new) := by
  rcases byId_eq_ok hnew with ⟨pending, hpending, hfiled, hlast⟩
  rcases replaced_eq_ok hold hfiled with ⟨kept, left, hreplaced, hnames, hkept, hleft⟩
  refine ⟨pending, kept ++ new.filter (isLeft left), hpending, ?_, ?_, fun id => ?_⟩
  · unfold merged
    rw [hreplaced]
    show (List.filterM (m := Except Fault) _ new >>= fun added => pure (kept ++ added)) = _
    rw [filterM_isLeft hnew]
    rfl
  · intro record hrecord
    rcases List.mem_append.mp hrecord with hkeptRecord | hadded
    · exact hnames record hkeptRecord
    · exact hnew record (List.mem_filter.mp hadded).left
  · rw [ofId_append, hkept, ofId_isLeft, hleft, hlast]
    by_cases hnone : ofId id old = []
    · rw [hnone, if_pos rfl]
      show [] ++ (if (ofId id new).getLast?.isSome then ofId id new else []) = ofId id new
      cases hrecords : ofId id new with
      | nil => rfl
      | cons record rest =>
          rw [List.getLast?_cons]
          rfl
    · rw [if_neg hnone, amended_of_ne_nil hnone]
      exact List.append_nil _

end Pending
end Catalogue
end Mosaic
