import Mosaic.Proofs.Document.Numbers
import Mosaic.Proofs.Document.Texts

/-!
# Documents that are written and read

A document is read as it was written, as long as its texts need no putting together and no record
names a field twice.  The one thing that may go wrong is a whole number of more digits than are
read.
-/

namespace Mosaic
namespace Document

open Text

/-!
## White space
-/

theorem skipSpace_cons {c : Char} (h : isSpace c = false) (rest : List Char) :
    skipSpace (c :: rest) = c :: rest :=
  List.dropWhile_cons_of_neg (by simp [h])

theorem skipSpace_blank (rest : List Char) : skipSpace (' ' :: rest) = skipSpace rest := rfl

theorem skipSpace_newLine (depth : Nat) (rest : List Char) :
    skipSpace (newLine depth ++ rest) = skipSpace rest := by
  have hblanks : forall count : Nat,
      skipSpace (List.replicate count ' ' ++ rest) = skipSpace rest := by
    intro count
    induction count with
    | zero => rfl
    | succ count ih =>
        rw [List.replicate_succ, List.cons_append, skipSpace_blank, ih]
  exact hblanks (2 * depth)

/-!
## Values
-/

/-- A document whose numbers with a fraction are numbers of 64 bits, whose texts need no putting
together and whose records name no field twice. -/
inductive Exact : Document -> Prop
  | null : Exact .null
  | bool (value : Bool) : Exact (.bool value)
  | whole (value : Int) : Exact (.whole value)
  | real {value : Binary64} (wellFormed : value.WellFormed) : Exact (.real value)
  | text {value : String} (exactly : rejoined value = value) : Exact (.text value)
  | list {items : List Document} (each : forall item, item ∈ items -> Exact item) :
      Exact (.list items)
  | record {fields : List (String × Document)}
      (names : forall field, field ∈ fields -> rejoined field.1 = field.1)
      (apart : (fields.map Prod.fst).Nodup)
      (each : forall field, field ∈ fields -> Exact field.2) : Exact (.record fields)

def isPlainName (name : String) : Bool := name.toList.all fun c => !isReserved c

theorem rejoined_of_isPlainName {name : String} (h : isPlainName name = true) :
    rejoined name = name := by
  refine rejoined_of_no_reserved fun c hc => ?_
  unfold isPlainName at h
  simpa using List.all_eq_true.mp h c hc

theorem exact_record {fields : List (String × Document)} (names : List String)
    (hnames : fields.map Prod.fst = names) (hplain : names.all isPlainName = true)
    (hapart : names.Nodup) (h : forall value, value ∈ fields.map Prod.snd -> Exact value) :
    Exact (.record fields) := by
  subst hnames
  refine Exact.record (fun field hfield => ?_) hapart fun field hfield => ?_
  · exact rejoined_of_isPlainName (List.all_eq_true.mp hplain field.1 (List.mem_map_of_mem hfield))
  · exact h field.2 (List.mem_map_of_mem hfield)

/-- What reading gives for a written document: the document itself, or a fault at a number that has
too many digits. -/
def Gives (document : Document) (rest : List Char) (reading : Reading Document) : Prop :=
  reading = .ok (document, rest) ∨
    document.isWritable = false ∧ exists fault, reading = .error (.numeral fault)

/-- A document that is read from its written form, whatever ends it. -/
def IsRead (document : Document) : Prop :=
  forall (depth steps : Nat) (rest : List Char), (written depth document).length ≤ steps ->
    Ends rest -> Gives document rest (readValue steps (written depth document ++ rest))

theorem written_cons {document : Document} (h : document.Exact) (depth : Nat) :
    exists c others, written depth document = c :: others ∧ isSpace c = false ∧ c ≠ ']' := by
  cases h with
  | null => exact ⟨'n', _, rfl, by decide, by decide⟩
  | bool value =>
      cases value with
      | true => exact ⟨'t', _, rfl, by decide, by decide⟩
      | false => exact ⟨'f', _, rfl, by decide, by decide⟩
  | whole value =>
      rcases toString_cons value with ⟨c, others, hcons, hc⟩
      exact ⟨c, others, hcons, isSpace_of_beginsNumber hc, ne_of_beginsNumber hc (by decide)⟩
  | real wellFormed =>
      rcases writtenReal_cons wellFormed with ⟨c, others, hcons, hc⟩
      exact ⟨c, others, hcons, isSpace_of_beginsNumber hc, ne_of_beginsNumber hc (by decide)⟩
  | text exactly => exact ⟨'\x22', _, rfl, by decide, by decide⟩
  | @list items each =>
      cases items with
      | nil => exact ⟨'[', _, rfl, by decide, by decide⟩
      | cons item rest => exact ⟨'[', _, rfl, by decide, by decide⟩
  | @record fields names apart each =>
      cases fields with
      | nil => exact ⟨'\x7b', _, rfl, by decide, by decide⟩
      | cons field rest => exact ⟨'\x7b', _, rfl, by decide, by decide⟩

theorem skipSpace_written {document : Document} (h : document.Exact) (depth : Nat)
    (rest : List Char) :
    skipSpace (written depth document ++ rest) = written depth document ++ rest := by
  rcases written_cons h depth with ⟨c, others, hcons, hspace, _⟩
  rw [hcons, List.cons_append, skipSpace_cons hspace]

/-!
## Lists
-/

theorem isWritable_list_iff {items : List Document} :
    (list items).isWritable = true ↔ forall item, item ∈ items -> item.isWritable = true := by
  show areWritable items = true ↔ _
  induction items with
  | nil => simp [areWritable]
  | cons item rest ih => rw [areWritable, Bool.and_eq_true, ih, List.forall_mem_cons]

theorem isWritable_list_of_item {item : Document} (h : item.isWritable = false)
    (front back : List Document) : (list (front ++ item :: back)).isWritable = false := by
  rw [Bool.eq_false_iff] at h ⊢
  intro hlist
  exact h (isWritable_list_iff.mp hlist item (by simp))

theorem writtenItems_cons_append (inner : Nat) (item : Document) (more : List Document)
    (rest : List Char) :
    writtenItems inner (item :: more) ++ rest =
      ',' :: (newLine inner ++ (written inner item ++ (writtenItems inner more ++ rest))) := by
  rw [writtenItems, List.cons_append, List.append_assoc, List.append_assoc]

section Items

variable {steps : Nat} {before : List Document} {cs after rest : List Char} {item : Document}

theorem readItems_of_fault {fault : ReadFault} (h : readValue steps cs = .error fault) :
    readItems (steps + 1) before cs = .error fault := by
  rw [readItems, h]

theorem readItems_last (h : readValue steps cs = .ok (item, after))
    (hend : skipSpace after = ']' :: rest) :
    readItems (steps + 1) before cs = .ok (.list (item :: before).reverse, rest) := by
  rw [readItems, h]
  simp only [hend]

theorem readItems_next (h : readValue steps cs = .ok (item, after))
    (hnext : skipSpace after = ',' :: rest) :
    readItems (steps + 1) before cs = readItems steps (item :: before) (skipSpace rest) := by
  rw [readItems, h]
  simp only [hnext]

theorem readItems_written {more : List Document}
    (hexact : forall other, other ∈ item :: more -> Exact other)
    (hread : forall other, other ∈ item :: more -> IsRead other) (depth inner : Nat)
    (hsteps : (written inner item).length + (writtenItems inner more).length < steps) :
    Gives (.list (before.reverse ++ item :: more)) rest
      (readItems steps before (written inner item ++ (writtenItems inner more ++
        (newLine depth ++ ']' :: rest)))) := by
  induction more generalizing item steps before with
  | nil =>
      cases steps with
      | zero => cases hsteps
      | succ steps =>
          have hitem := hread item (by simp) inner steps (newLine depth ++ ']' :: rest)
            (by omega) (ends_newLine depth _)
          rcases hitem with hok | ⟨hlong, fault, hfault⟩
          · refine Or.inl ?_
            have hend : skipSpace (newLine depth ++ ']' :: rest) = ']' :: rest := by
              rw [skipSpace_newLine]
              rfl
            show readItems _ _ (_ ++ (newLine depth ++ ']' :: rest)) = _
            rw [readItems_last hok hend, List.reverse_cons]
          · exact Or.inr ⟨isWritable_list_of_item hlong _ _, fault, readItems_of_fault hfault⟩
  | cons next others ih =>
      cases steps with
      | zero => cases hsteps
      | succ steps =>
          have hnext := hexact next (by simp)
          have hlength := congrArg List.length (writtenItems_cons_append inner next others [])
          simp only [List.append_nil, List.length_cons, List.length_append] at hlength
          rw [writtenItems_cons_append]
          have hitem := hread item (by simp) inner steps
            (',' :: (newLine inner ++ (written inner next ++ (writtenItems inner others ++
              (newLine depth ++ ']' :: rest))))) (by omega) (ends_comma _)
          rcases hitem with hok | ⟨hlong, fault, hfault⟩
          · have hrest := @ih steps (item :: before) next
              (fun other hother => hexact other (List.mem_cons_of_mem item hother))
              (fun other hother => hread other (List.mem_cons_of_mem item hother)) (by omega)
            rw [List.reverse_cons, List.append_assoc, List.singleton_append] at hrest
            rwa [readItems_next hok (skipSpace_cons (by decide) _), skipSpace_newLine,
              skipSpace_written hnext]
          · exact Or.inr ⟨isWritable_list_of_item hlong _ _, fault, readItems_of_fault hfault⟩

end Items

/-!
## Records
-/

theorem isWritable_record_iff {fields : List (String × Document)} :
    (record fields).isWritable = true ↔
      forall field, field ∈ fields -> field.2.isWritable = true := by
  show haveWritable fields = true ↔ _
  induction fields with
  | nil => simp [haveWritable]
  | cons field rest ih => rw [haveWritable, Bool.and_eq_true, ih, List.forall_mem_cons]

theorem isWritable_record_of_field {field : String × Document} (h : field.2.isWritable = false)
    (front back : List (String × Document)) :
    (record (front ++ field :: back)).isWritable = false := by
  rw [Bool.eq_false_iff] at h ⊢
  intro hrecord
  exact h (isWritable_record_iff.mp hrecord field (by simp))

theorem putField_of_not_mem {fields : List (String × Document)} {name : String}
    (h : name ∉ fields.map Prod.fst) (value : Document) :
    putField fields name value = fields ++ [(name, value)] := by
  induction fields with
  | nil => rfl
  | cons field rest ih =>
      rw [List.map_cons, List.mem_cons, not_or] at h
      rw [putField, if_neg (Ne.symm h.left), ih h.right, List.cons_append]

theorem not_mem_of_apart {before more : List (String × Document)} {field : String × Document}
    (h : ((before ++ field :: more).map Prod.fst).Nodup) : field.1 ∉ before.map Prod.fst := by
  intro hmem
  rw [List.map_append, List.map_cons, List.nodup_append] at h
  exact h.right.right field.1 hmem field.1 List.mem_cons_self rfl

def writtenField (depth : Nat) (field : String × Document) (rest : List Char) : List Char :=
  writtenText field.1 ++ ':' :: ' ' :: (written depth field.2 ++ rest)

theorem writtenFields_cons_append (inner : Nat) (field : String × Document)
    (more : List (String × Document)) (rest : List Char) :
    writtenFields inner (field :: more) ++ rest =
      ',' :: (newLine inner ++ writtenField inner field (writtenFields inner more ++ rest)) := by
  rw [writtenFields]
  unfold writtenField
  simp only [List.cons_append, List.append_assoc]

theorem skipSpace_writtenField (depth : Nat) (field : String × Document) (rest : List Char) :
    skipSpace (writtenField depth field rest) = writtenField depth field rest := rfl

theorem length_writtenField (depth : Nat) (field : String × Document) (rest : List Char) :
    (written depth field.2).length + rest.length < (writtenField depth field rest).length := by
  unfold writtenField
  rw [List.length_append, List.length_cons, List.length_cons, List.length_append]
  omega

theorem readName_writtenField {field : String × Document} (hname : rejoined field.1 = field.1)
    (hvalue : field.2.Exact) (depth : Nat) (rest : List Char) :
    readName (writtenField depth field rest) = .ok (field.1, written depth field.2 ++ rest) := by
  unfold writtenField
  rw [writtenText_eq, List.cons_append, List.append_assoc, List.singleton_append, readName,
    readText_written, hname]
  show Except.ok (field.1, skipSpace (written depth field.2 ++ rest)) = _
  rw [skipSpace_written hvalue]

section Fields

variable {steps : Nat} {before : List (String × Document)} {cs body after rest : List Char}
variable {name : String} {value : Document}

theorem readFields_of_fault {fault : ReadFault} (hname : readName cs = .ok (name, body))
    (h : readValue steps body = .error fault) :
    readFields (steps + 1) before cs = .error fault := by
  rw [readFields, hname]
  simp only [h]

theorem readFields_last (hname : readName cs = .ok (name, body))
    (h : readValue steps body = .ok (value, after)) (hend : skipSpace after = '\x7d' :: rest) :
    readFields (steps + 1) before cs = .ok (.record (putField before name value), rest) := by
  rw [readFields, hname]
  simp only [h, hend]

theorem readFields_next (hname : readName cs = .ok (name, body))
    (h : readValue steps body = .ok (value, after)) (hnext : skipSpace after = ',' :: rest) :
    readFields (steps + 1) before cs =
      readFields steps (putField before name value) (skipSpace rest) := by
  rw [readFields, hname]
  simp only [h, hnext]

theorem readFields_written {field : String × Document} {more : List (String × Document)}
    (hnames : forall other, other ∈ field :: more -> rejoined other.1 = other.1)
    (hexact : forall other, other ∈ field :: more -> Exact other.2)
    (hread : forall other, other ∈ field :: more -> IsRead other.2)
    (hapart : ((before ++ field :: more).map Prod.fst).Nodup) (depth inner : Nat)
    (hsteps : (written inner field.2).length + (writtenFields inner more).length < steps) :
    Gives (.record (before ++ field :: more)) rest
      (readFields steps before (writtenField inner field (writtenFields inner more ++
        (newLine depth ++ '\x7d' :: rest)))) := by
  induction more generalizing field steps before with
  | nil =>
      cases steps with
      | zero => cases hsteps
      | succ steps =>
          have hname := fun rest =>
            readName_writtenField (hnames field (by simp)) (hexact field (by simp)) inner rest
          have hvalue := hread field (by simp) inner steps (newLine depth ++ '\x7d' :: rest)
            (by omega) (ends_newLine depth _)
          rcases hvalue with hok | ⟨hlong, fault, hfault⟩
          · refine Or.inl ?_
            have hend : skipSpace (newLine depth ++ '\x7d' :: rest) = '\x7d' :: rest := by
              rw [skipSpace_newLine]
              rfl
            show readFields _ _ (writtenField inner field (newLine depth ++ '\x7d' :: rest)) = _
            rw [readFields_last (hname _) hok hend, putField_of_not_mem (not_mem_of_apart hapart)]
          · exact Or.inr ⟨isWritable_record_of_field hlong _ _, fault,
              readFields_of_fault (hname _) hfault⟩
  | cons next others ih =>
      cases steps with
      | zero => cases hsteps
      | succ steps =>
          have hname := fun rest =>
            readName_writtenField (hnames field (by simp)) (hexact field (by simp)) inner rest
          have hlength := congrArg List.length (writtenFields_cons_append inner next others [])
          simp only [List.append_nil, List.length_cons, List.length_append] at hlength
          have hfield := length_writtenField inner next (writtenFields inner others)
          rw [writtenFields_cons_append]
          have hvalue := hread field (by simp) inner steps
            (',' :: (newLine inner ++ writtenField inner next (writtenFields inner others ++
              (newLine depth ++ '\x7d' :: rest)))) (by omega) (ends_comma _)
          rcases hvalue with hok | ⟨hlong, fault, hfault⟩
          · have hmoved : before ++ field :: next :: others =
                (before ++ [field]) ++ next :: others := by
              rw [List.append_assoc, List.singleton_append]
            rw [readFields_next (hname _) hok (skipSpace_cons (by decide) _), skipSpace_newLine,
              skipSpace_writtenField, putField_of_not_mem (not_mem_of_apart hapart), hmoved]
            rw [hmoved] at hapart
            exact ih (fun other hother => hnames other (List.mem_cons_of_mem field hother))
              (fun other hother => hexact other (List.mem_cons_of_mem field hother))
              (fun other hother => hread other (List.mem_cons_of_mem field hother)) hapart (by omega)
          · exact Or.inr ⟨isWritable_record_of_field hlong _ _, fault,
              readFields_of_fault (hname _) hfault⟩

end Fields

/-!
## All values
-/

section Values

variable {value : Document}

theorem exists_steps {cs : List Char} {steps : Nat} (hcs : cs ≠ []) (h : cs.length ≤ steps) :
    exists fewer, steps = fewer + 1 := by
  cases steps with
  | zero => exact absurd (List.length_eq_zero_iff.mp (Nat.le_zero.mp h)) hcs
  | succ fewer => exact ⟨fewer, rfl⟩

theorem readValue_eq_readLeaf {c : Char} (hquote : c ≠ '\x22') (hlist : c ≠ '[')
    (hrecord : c ≠ '\x7b') (steps : Nat) (rest : List Char) :
    readValue (steps + 1) (c :: rest) = readLeaf (c :: rest) := by
  rw [readValue]
  · intro _ hsame
    injection hsame with hc _
    exact hquote hc
  · intro _ hsame
    injection hsame with hc _
    exact hlist hc
  · intro _ hsame
    injection hsame with hc _
    exact hrecord hc

theorem readValue_list {cs others : List Char} {c : Char} (h : skipSpace cs = c :: others)
    (hclose : c ≠ ']') (steps : Nat) :
    readValue (steps + 1) ('[' :: cs) = readItems steps [] (c :: others) := by
  rw [readValue, h]
  split
  · rename_i hsame
    injection hsame with hc _
    exact absurd hc hclose
  · rfl

theorem readValue_record {cs others : List Char} {c : Char} (h : skipSpace cs = c :: others)
    (hclose : c ≠ '\x7d') (steps : Nat) :
    readValue (steps + 1) ('\x7b' :: cs) = readFields steps [] (c :: others) := by
  rw [readValue, h]
  split
  · rename_i hsame
    injection hsame with hc _
    exact absurd hc hclose
  · rfl

theorem isRead_null : IsRead .null := by
  intro depth steps rest hsteps _
  rcases exists_steps (List.cons_ne_nil _ _) hsteps with ⟨fewer, rfl⟩
  exact Or.inl rfl

theorem isRead_bool (flag : Bool) : IsRead (.bool flag) := by
  intro depth steps rest hsteps _
  cases flag with
  | true =>
      rcases exists_steps (List.cons_ne_nil _ _) hsteps with ⟨fewer, rfl⟩
      exact Or.inl rfl
  | false =>
      rcases exists_steps (List.cons_ne_nil _ _) hsteps with ⟨fewer, rfl⟩
      exact Or.inl rfl

theorem readValue_number {cs : List Char}
    (h : exists c others, cs = c :: others ∧ beginsNumber c = true) {steps : Nat}
    (hsteps : cs.length ≤ steps) (rest : List Char) :
    readValue steps (cs ++ rest) = readLeaf (cs ++ rest) := by
  rcases h with ⟨c, others, rfl, hc⟩
  rcases exists_steps (List.cons_ne_nil c others) hsteps with ⟨fewer, rfl⟩
  exact readValue_eq_readLeaf (ne_of_beginsNumber hc (by decide))
    (ne_of_beginsNumber hc (by decide)) (ne_of_beginsNumber hc (by decide)) fewer _

theorem isRead_whole (number : Int) : IsRead (.whole number) := by
  intro depth steps rest hsteps hends
  show Gives _ _ (readValue steps ((toString number).toList ++ rest))
  rw [readValue_number (toString_cons number) hsteps, readLeaf_toString number hends]
  split
  · exact Or.inl rfl
  · rename_i hlong
    refine Or.inr ⟨?_, _, rfl⟩
    rw [isWritable, decide_eq_false_iff_not]
    exact hlong

theorem isRead_real {number : Binary64} (h : number.WellFormed) : IsRead (.real number) := by
  intro depth steps rest hsteps hends
  show Gives _ _ (readValue steps (writtenReal number ++ rest))
  rw [readValue_number (writtenReal_cons h) hsteps, readLeaf_writtenReal h hends]
  exact Or.inl rfl

theorem isRead_text {text : String} (hexact : rejoined text = text) : IsRead (.text text) := by
  intro depth steps rest hsteps _
  rcases exists_steps (List.cons_ne_nil _ _) hsteps with ⟨fewer, rfl⟩
  refine Or.inl ?_
  show readValue (fewer + 1) (writtenText text ++ rest) = _
  rw [writtenText_eq, List.cons_append, List.append_assoc, List.singleton_append, readValue,
    readText_written, hexact]

theorem isRead_list {items : List Document} (hexact : forall item, item ∈ items -> Exact item)
    (hread : forall item, item ∈ items -> IsRead item) : IsRead (.list items) := by
  intro depth steps rest hsteps _
  cases items with
  | nil =>
      rcases exists_steps (List.cons_ne_nil _ _) hsteps with ⟨fewer, rfl⟩
      exact Or.inl rfl
  | cons item more =>
      rcases exists_steps (List.cons_ne_nil _ _) hsteps with ⟨fewer, rfl⟩
      rcases written_cons (hexact item (by simp)) (depth + 1) with ⟨c, others, hcons, _, hclose⟩
      rw [written] at hsteps ⊢
      simp only [List.length_cons, List.length_append] at hsteps
      have hitems := @readItems_written fewer [] rest item more hexact hread depth (depth + 1)
        (by omega)
      simp only [List.cons_append, List.append_assoc, List.nil_append]
      have hspace := skipSpace_written (hexact item (by simp)) (depth + 1)
        (writtenItems (depth + 1) more ++ (newLine depth ++ ']' :: rest))
      rw [hcons, List.cons_append] at hspace hitems
      rw [hcons, List.cons_append,
        readValue_list ((skipSpace_newLine (depth + 1) _).trans hspace) hclose]
      exact hitems

theorem isRead_record {fields : List (String × Document)}
    (hnames : forall field, field ∈ fields -> rejoined field.1 = field.1)
    (hapart : (fields.map Prod.fst).Nodup)
    (hexact : forall field, field ∈ fields -> Exact field.2)
    (hread : forall field, field ∈ fields -> IsRead field.2) : IsRead (.record fields) := by
  intro depth steps rest hsteps _
  cases fields with
  | nil =>
      rcases exists_steps (List.cons_ne_nil _ _) hsteps with ⟨fewer, rfl⟩
      exact Or.inl rfl
  | cons field more =>
      rcases exists_steps (List.cons_ne_nil _ _) hsteps with ⟨fewer, rfl⟩
      rcases field with ⟨name, value⟩
      rw [written] at hsteps ⊢
      simp only [List.length_cons, List.length_append] at hsteps
      have hfields := @readFields_written fewer [] rest (name, value) more hnames hexact hread
        hapart depth (depth + 1) (by simp only; omega)
      have hspace : skipSpace (newLine (depth + 1) ++ writtenField (depth + 1) (name, value)
          (writtenFields (depth + 1) more ++ (newLine depth ++ '\x7d' :: rest))) =
          writtenField (depth + 1) (name, value)
            (writtenFields (depth + 1) more ++ (newLine depth ++ '\x7d' :: rest)) := by
        rw [skipSpace_newLine, skipSpace_writtenField]
      have hread := @readValue_record _ _ _ hspace (by decide) fewer
      unfold writtenField at hread hfields
      simp only [List.cons_append, List.append_assoc, List.nil_append]
      rw [hread]
      exact hfields

end Values

/-- Every exact document is read from its written form. -/
theorem Exact.isRead {document : Document} (h : document.Exact) : document.IsRead := by
  induction h with
  | null => exact isRead_null
  | bool value => exact isRead_bool value
  | whole value => exact isRead_whole value
  | real wellFormed => exact isRead_real wellFormed
  | text exactly => exact isRead_text exactly
  | list each ih => exact isRead_list each ih
  | record names apart each ih => exact isRead_record names apart each ih

theorem read_write {document : Document} (h : document.Exact) :
    read (write document) = .ok document ∨
      document.isWritable = false ∧ exists fault, read (write document) = .error (.numeral fault) := by
  have hread := h.isRead 0 ((written 0 document).length + 1) [] (Nat.le_succ _) (Or.inl rfl)
  rw [← skipSpace_written h, List.append_nil] at hread
  unfold read write
  rw [String.toList_ofList]
  rcases hread with hok | ⟨hlong, fault, hfault⟩
  · refine Or.inl ?_
    simp only [hok]
    rfl
  · refine Or.inr ⟨hlong, fault, ?_⟩
    simp only [hfault]

end Document
end Mosaic
