import Mosaic.Proofs.Catalogue.Merging
import Mosaic.Proofs.Document.Printed
import Mosaic.Proofs.Folder

/-!
# Catalogues that are written again and again

Batches of records are written to one file.  Every id that was ever written is found, and as long as
the first batch with an id has it once, the record found is the last one that was written under it.
An id that its first batch repeats is stuck: later records take the place of the first old one, and
the last old one, which stands behind it, is found for ever.
-/

namespace Mosaic
namespace Catalogue

/-!
## Files of records
-/

/-- A record that catalogues take and that a file can hold. -/
structure IsGoal (record : GoalRecord) : Prop where
  named : exists id, id ≠ "" ∧ isNamed id record = true
  mode : exists mode, Mode.ofDocument ((Document.field? record "mode").getD (.text "")) = .ok mode
  exact : (Document.record record).Exact
  writable : (Document.record record).isWritable = true

def catalogueText (records : List GoalRecord) : String :=
  (Document.list (records.map Document.record)).write

structure Holds (folder : Folder) (path : Path) (records : List GoalRecord) : Prop where
  file : folder.HasText path (catalogueText records)
  goals : forall record, record ∈ records -> IsGoal record

/-- A path at which there is no file yet, and to which the way can be made. -/
def Vacant (folder : Folder) (path : Path) : Prop :=
  exists made place, (Folder.make path.parent).on folder = (.ok (), made) ∧
    made.locate path = .ok place ∧ made.contentAt? place = none

section Files

variable {folder : Folder} {path : Path} {records : List GoalRecord}

theorem IsGoal.hasName {record : GoalRecord} (h : IsGoal record) : HasName record := by
  rcases h.named with ⟨id, _, hid⟩
  exact ⟨id, hid⟩

theorem isWritable_records (h : forall record, record ∈ records -> IsGoal record) :
    (Document.list (records.map Document.record)).isWritable = true := by
  apply Document.isWritable_list_iff.mpr
  intro item hitem
  rcases List.mem_map.mp hitem with ⟨record, hrecord, rfl⟩
  exact (h record hrecord).writable

theorem textOf_eq_ok (h : forall record, record ∈ records -> IsGoal record) :
    textOf records = .ok (catalogueText records) := by
  unfold textOf
  simp only [isWritable_records h, if_true]
  rfl

theorem entryOf_eq_ok {record : GoalRecord} (h : IsGoal record) (path : Path) :
    entryOf path (.record record) = .ok record := by
  rcases h.named with ⟨id, hne, hid⟩
  rcases h.mode with ⟨mode, hmode⟩
  have hgiven : ((Document.field? record "id").getD .null).isGiven = true := by
    rw [isNamed_iff.mp hid]
    exact bne_iff_ne.mpr hne
  unfold entryOf
  simp only [hgiven, if_true, hmode]
  rfl

theorem Holds.read (h : Holds folder path records) : Catalogue.read folder path = .ok records := by
  have hexact : (Document.list (records.map Document.record)).Exact := by
    refine .list fun item hitem => ?_
    rcases List.mem_map.mp hitem with ⟨record, hrecord, rfl⟩
    exact (h.goals record hrecord).exact
  have hread : Document.read (catalogueText records) =
      .ok (.list (records.map Document.record)) := by
    rcases Document.read_write hexact with hok | ⟨hlong, _⟩
    · exact hok
    · rw [isWritable_records h.goals] at hlong
      cases hlong
  have hprinted : Text.Printed (catalogueText records).toList := Document.printed_write _
  have htext : folder.readText path = .ok (catalogueText records) := by
    rw [h.file.readText, Text.plainLineEnds_of_printed hprinted, String.ofList_toList]
  have hdocument : readDocument folder path = .ok (.list (records.map Document.record)) := by
    refine Attempts.bind_eq_ok_iff.mpr ⟨catalogueText records, htext, ?_⟩
    rw [hread]
    rfl
  have hentries := Attempts.mapM_map_of_ok Document.record id records
    (fun record hrecord => entryOf_eq_ok (h.goals record hrecord) path)
  rw [List.map_id] at hentries
  unfold Catalogue.read
  rw [hdocument]
  exact hentries

theorem openIndex_eq_ok (h : Holds folder path records) :
    openIndex folder path = .ok (indexOf records) := by
  unfold openIndex
  rw [h.file.has]
  show (Catalogue.read folder path >>= fun records => pure (indexOf records)) = _
  rw [h.read]
  rfl

theorem write_of_recordsAfter {made : Folder} {place : Place} {new : List GoalRecord} {append : Bool}
    (hmade : (Folder.make path.parent).on folder = (.ok (), made)) (hway : made.HasWay path)
    (hplace : made.locate path = .ok place) (hother : made.contentAt? place ≠ some .folder)
    (hafter : recordsAfter made path new append = .ok records)
    (hgoals : forall record, record ∈ records -> IsGoal record) :
    exists after, (write path new append).on folder = (.ok (), after) ∧ Holds after path records := by
  have hprinted : Text.Printed (catalogueText records).toList := Document.printed_write _
  rcases Folder.write_eq_ok hway hplace hother (Text.checkContent_of_printed hprinted) with
    ⟨after, hwrite, hfile⟩
  refine ⟨after, ?_, hfile, hgoals⟩
  unfold write
  have htext : (recordsAfter made path new append >>= textOf) = .ok (catalogueText records) := by
    rw [hafter]
    exact textOf_eq_ok hgoals
  rw [Folder.on_bind_of_ok hmade, Folder.on_bind_of_ok (Folder.on_get made)]
  simp only [htext]
  exact hwrite

theorem write_of_vacant (h : Vacant folder path)
    (hgoals : forall record, record ∈ records -> IsGoal record) :
    exists after, (write path records true).on folder = (.ok (), after) ∧
      Holds after path records := by
  rcases h with ⟨made, place, hmade, hplace, hnone⟩
  have hother : made.contentAt? place ≠ some .folder := by
    rw [hnone]
    nofun
  refine write_of_recordsAfter hmade (Folder.hasWay_of_make hmade) hplace hother ?_ hgoals
  have hmissing : made.has path = .ok false := by
    unfold Folder.has
    rw [Folder.find?_of_locate hplace, hnone]
    rfl
  unfold recordsAfter
  rw [hmissing]
  rfl

theorem mem_amended {kept new : List GoalRecord} {record : GoalRecord} (h : record ∈ amended kept new) :
    record ∈ kept ∨ record ∈ new := by
  cases kept with
  | nil => exact Or.inr h
  | cons first rest =>
      rcases List.mem_cons.mp h with rfl | hlater
      · cases hlast : new.getLast? with
        | none => exact Or.inl List.mem_cons_self
        | some last => exact Or.inr (List.mem_of_getLast? hlast)
      · exact Or.inl (List.mem_cons_of_mem first hlater)

theorem write_of_holds {new : List GoalRecord} (h : Holds folder path records)
    (hgoals : forall record, record ∈ new -> IsGoal record) :
    exists after merged, (write path new true).on folder = (.ok (), after) ∧
      Holds after path merged ∧
      forall id, ofId id merged = amended (ofId id records) (ofId id new) := by
  rcases merged_eq_ok (fun record hrecord => (h.goals record hrecord).hasName)
    (fun record hrecord => (hgoals record hrecord).hasName) with
    ⟨pending, together, hpending, hmerged, hnames, hids⟩
  rcases h.file.found with ⟨place, hplace, hcontent⟩
  have hother : folder.contentAt? place ≠ some .folder := by
    rw [hcontent]
    nofun
  have hafter : recordsAfter folder path new true = .ok together := by
    unfold recordsAfter
    rw [h.file.has]
    show (byId new >>= fun pending => Catalogue.read folder path >>= fun old =>
      merged pending old new) = _
    rw [hpending, h.read]
    exact hmerged
  have hall : forall record, record ∈ together -> IsGoal record := by
    intro record hrecord
    rcases hnames record hrecord with ⟨id, hid⟩
    have hmem : record ∈ ofId id together := List.mem_filter.mpr ⟨hrecord, hid⟩
    rw [hids] at hmem
    rcases mem_amended hmem with hold | hnew
    · exact h.goals record (List.mem_filter.mp hold).left
    · exact hgoals record (List.mem_filter.mp hnew).left
  rcases write_of_recordsAfter (Folder.make_of_hasWay h.file.way) h.file.way hplace hother hafter hall
    with ⟨after, hwrite, hholds⟩
  exact ⟨after, together, hwrite, hholds, hids⟩

end Files

/-!
## Looking records up
-/

theorem lookup_cons_name (name id : String) (record : GoalRecord) (rest : Index) :
    List.lookup id ((name, record) :: rest) = if name = id then some record else rest.lookup id := by
  rw [List.lookup_cons]
  by_cases hname : name = id
  · rw [if_pos hname, beq_iff_eq.mpr hname.symm]
  · rw [if_neg hname, beq_eq_false_iff_ne.mpr (Ne.symm hname)]

theorem lookup_enter (index : Index) (id other : String) (record : GoalRecord) :
    (enter index id record).lookup other =
      if id = other then some record else index.lookup other := by
  induction index with
  | nil => exact lookup_cons_name id other record []
  | cons entry rest ih =>
      rcases entry with ⟨name, old⟩
      rw [enter]
      by_cases hname : name = id
      · rw [if_pos hname, lookup_cons_name, lookup_cons_name, hname]
        by_cases hid : id = other
        · rw [if_pos hid, if_pos hid]
        · rw [if_neg hid, if_neg hid, if_neg hid]
      · rw [if_neg hname, lookup_cons_name, lookup_cons_name, ih]
        by_cases hid : id = other
        · have hother : name ≠ other := fun hsame => hname (hsame.trans hid.symm)
          rw [if_neg hother, if_pos hid, if_pos hid]
        · rw [if_neg hid, if_neg hid]

theorem lookup_foldl {records : List GoalRecord}
    (h : forall record, record ∈ records -> HasName record) (index : Index) (id : String) :
    (records.foldl (fun index record =>
        enter index ((Document.field? record "id").getD .null).asText record) index).lookup id =
      (ofId id records).getLast?.or (index.lookup id) := by
  induction records generalizing index with
  | nil => rfl
  | cons record rest ih =>
      rcases h record List.mem_cons_self with ⟨name, hname⟩
      have hkey : ((Document.field? record "id").getD .null).asText = name := by
        rw [isNamed_iff.mp hname]
        rfl
      rw [List.foldl_cons, ih (fun other hother => h other (List.mem_cons_of_mem record hother)), hkey,
        lookup_enter, ofId_cons hname]
      by_cases hid : name = id
      · rw [if_pos hid, if_pos hid, List.getLast?_cons]
        cases (ofId id rest).getLast? with
        | none => rfl
        | some last => rfl
      · rw [if_neg hid, if_neg hid]

theorem find_indexOf {records : List GoalRecord}
    (h : forall record, record ∈ records -> HasName record) {id : String} {record : GoalRecord}
    (hlast : (ofId id records).getLast? = some record) : find (indexOf records) id = .ok record := by
  unfold find indexOf
  rw [lookup_foldl h, hlast]
  rfl

/-!
## Batch after batch
-/

def writeEach (path : Path) : List (List GoalRecord) -> Filing Unit
  | [] => pure ()
  | batch :: rest => do
      write path batch true
      writeEach path rest

/-- The records of an id that are in the file after batches were merged into some. -/
def keptOf (id : String) (kept : List GoalRecord) (batches : List (List GoalRecord)) :
    List GoalRecord := batches.foldl (fun kept batch => amended kept (ofId id batch)) kept

section Batches

variable {folder : Folder} {path : Path} {batches : List (List GoalRecord)} {id : String}

theorem writeEach_of_holds {records : List GoalRecord} (h : Holds folder path records)
    (hgoals : forall batch, batch ∈ batches -> forall record, record ∈ batch -> IsGoal record) :
    exists after merged, (writeEach path batches).on folder = (.ok (), after) ∧
      Holds after path merged ∧ forall id, ofId id merged = keptOf id (ofId id records) batches := by
  induction batches generalizing folder records with
  | nil => exact ⟨folder, records, rfl, h, fun id => rfl⟩
  | cons batch rest ih =>
      rcases write_of_holds h (hgoals batch List.mem_cons_self) with ⟨next, merged, hwrite, hnext, hids⟩
      rcases ih hnext fun other hother => hgoals other (List.mem_cons_of_mem batch hother) with
        ⟨after, last, hrest, hafter, hlast⟩
      refine ⟨after, last, ?_, hafter, fun id => ?_⟩
      · rw [writeEach, Folder.on_bind_of_ok hwrite]
        exact hrest
      · rw [hlast, hids]
        rfl

theorem writeEach_of_vacant (h : Vacant folder path) (hne : batches ≠ [])
    (hgoals : forall batch, batch ∈ batches -> forall record, record ∈ batch -> IsGoal record) :
    exists after records, (writeEach path batches).on folder = (.ok (), after) ∧
      Holds after path records ∧ forall id, ofId id records = keptOf id [] batches := by
  cases batches with
  | nil => exact absurd rfl hne
  | cons batch rest =>
      rcases write_of_vacant h (hgoals batch List.mem_cons_self) with ⟨first, hwrite, hfirst⟩
      rcases writeEach_of_holds hfirst fun other hother =>
        hgoals other (List.mem_cons_of_mem batch hother) with ⟨after, records, hrest, hafter, hids⟩
      refine ⟨after, records, ?_, hafter, hids⟩
      rw [writeEach, Folder.on_bind_of_ok hwrite]
      exact hrest

/-- Once an id is there, later batches change nothing but the first of its records. -/
theorem keptOf_cons (first : GoalRecord) (rest : List GoalRecord) :
    keptOf id (first :: rest) batches = (ofId id batches.flatten).getLast?.getD first :: rest := by
  induction batches generalizing first with
  | nil => rfl
  | cons batch others ih =>
      show keptOf id ((ofId id batch).getLast?.getD first :: rest) others = _
      rw [ih, List.flatten_cons, ofId_append, List.getLast?_append]
      cases (ofId id others.flatten).getLast? with
      | none => rfl
      | some last => rfl

theorem keptOf_of_first {before after : List (List GoalRecord)} {batch : List GoalRecord}
    {first : GoalRecord} {rest : List GoalRecord} (hbefore : ofId id before.flatten = [])
    (hbatch : ofId id batch = first :: rest) :
    keptOf id [] (before ++ batch :: after) =
      (ofId id after.flatten).getLast?.getD first :: rest := by
  induction before with
  | nil =>
      show keptOf id (ofId id batch) after = _
      rw [hbatch, keptOf_cons]
  | cons other others ih =>
      rw [List.flatten_cons, ofId_append, List.append_eq_nil_iff] at hbefore
      show keptOf id (ofId id other) (others ++ batch :: after) = _
      rw [hbefore.left]
      exact ih hbefore.right

theorem exists_firstBatch (h : ofId id batches.flatten ≠ []) :
    exists before batch after, batches = before ++ batch :: after ∧ ofId id before.flatten = [] ∧
      ofId id batch ≠ [] := by
  induction batches with
  | nil => exact absurd rfl h
  | cons batch rest ih =>
      by_cases hbatch : ofId id batch = []
      · rw [List.flatten_cons, ofId_append, hbatch, List.nil_append] at h
        rcases ih h with ⟨before, found, after, rfl, hbefore, hfound⟩
        refine ⟨batch :: before, found, after, rfl, ?_, hfound⟩
        rw [List.flatten_cons, ofId_append, hbatch, hbefore]
        rfl
      · exact ⟨[], batch, rest, rfl, rfl, hbatch⟩

theorem getLast?_of_single {before after : List (List GoalRecord)} {batch : List GoalRecord}
    {first : GoalRecord} (hbatch : ofId id batch = [first]) :
    (ofId id (before ++ batch :: after).flatten).getLast? =
      some ((ofId id after.flatten).getLast?.getD first) := by
  rw [List.flatten_append, List.flatten_cons, ofId_append, ofId_append, hbatch,
    List.getLast?_append, List.getLast?_append]
  cases (ofId id after.flatten).getLast? with
  | none => rfl
  | some last => rfl

end Batches

/-!
## What is found
-/

structure Collects (batches : List (List GoalRecord)) (records : List GoalRecord) : Prop where
  names : forall record, record ∈ records -> HasName record
  kept : forall id, ofId id records = keptOf id [] batches

section Found

variable {batches before after : List (List GoalRecord)} {records batch : List GoalRecord}
variable {id : String}

theorem Collects.find_of_single (h : Collects batches records)
    (hbatches : batches = before ++ batch :: after) (hbefore : ofId id before.flatten = [])
    (hsingle : (ofId id batch).length = 1) :
    exists last, (ofId id batches.flatten).getLast? = some last ∧
      find (indexOf records) id = .ok last := by
  rcases List.length_eq_one_iff.mp hsingle with ⟨first, hbatch⟩
  have hkept := h.kept id
  rw [hbatches, keptOf_of_first hbefore hbatch] at hkept
  refine ⟨(ofId id after.flatten).getLast?.getD first, ?_, find_indexOf h.names ?_⟩
  · rw [hbatches, getLast?_of_single hbatch]
  · rw [hkept]
    rfl

theorem Collects.find_of_repeated (h : Collects batches records)
    (hbatches : batches = before ++ batch :: after) (hbefore : ofId id before.flatten = [])
    (hrepeated : 1 < (ofId id batch).length) :
    exists last, (ofId id batch).getLast? = some last ∧ find (indexOf records) id = .ok last := by
  have hkept := h.kept id
  rw [hbatches] at hkept
  cases hbatch : ofId id batch with
  | nil =>
      rw [hbatch] at hrepeated
      cases hrepeated
  | cons first rest =>
      rw [keptOf_of_first hbefore hbatch] at hkept
      cases rest with
      | nil =>
          rw [hbatch] at hrepeated
          exact absurd hrepeated (Nat.lt_irrefl 1)
      | cons second others =>
          -- the last old record stands behind the one that is replaced
          refine ⟨(second :: others).getLast (List.cons_ne_nil _ _), ?_, find_indexOf h.names ?_⟩
          · rw [List.getLast?_cons_cons, List.getLast?_eq_some_getLast]
          · rw [hkept, List.getLast?_cons_cons, List.getLast?_eq_some_getLast]

/-- Every id that was written is found. -/
theorem Collects.find_of_mem (h : Collects batches records) {record : GoalRecord}
    (hrecord : record ∈ batches.flatten) (hid : isNamed id record = true) :
    exists found, found ∈ batches.flatten ∧ isNamed id found = true ∧
      find (indexOf records) id = .ok found := by
  have hwritten : ofId id batches.flatten ≠ [] :=
    List.ne_nil_of_mem (List.mem_filter.mpr ⟨hrecord, hid⟩)
  rcases exists_firstBatch hwritten with ⟨before, batch, after, hbatches, hbefore, hbatch⟩
  have hfound : exists last, last ∈ ofId id batches.flatten ∧
      find (indexOf records) id = .ok last := by
    rcases Nat.lt_or_eq_of_le (List.length_pos_iff.mpr hbatch) with hrepeated | hsingle
    · rcases h.find_of_repeated hbatches hbefore hrepeated with ⟨last, hlast, hfind⟩
      refine ⟨last, ?_, hfind⟩
      rw [hbatches, List.flatten_append, List.flatten_cons, ofId_append, ofId_append]
      simp [List.mem_of_getLast? hlast]
    · rcases h.find_of_single hbatches hbefore hsingle.symm with ⟨last, hlast, hfind⟩
      exact ⟨last, List.mem_of_getLast? hlast, hfind⟩
  rcases hfound with ⟨last, hlast, hfind⟩
  exact ⟨last, (List.mem_filter.mp hlast).left, (List.mem_filter.mp hlast).right, hfind⟩

end Found

/-- What a catalogue knows of the batches that were written to it.  Every id is found; an id that
came once in its first batch is found with the record that was written last, and one that came more
often there is found with the last record of that batch, whatever was written later. -/
structure Remembers (batches : List (List GoalRecord)) (index : Index) : Prop where
  known : forall (id : String) (record : GoalRecord), record ∈ batches.flatten ->
    isNamed id record = true -> exists found, found ∈ batches.flatten ∧ isNamed id found = true ∧
      find index id = .ok found
  latest : forall (id : String) (before after : List (List GoalRecord)) (batch : List GoalRecord),
    batches = before ++ batch :: after -> ofId id before.flatten = [] -> (ofId id batch).length = 1 ->
      exists last, (ofId id batches.flatten).getLast? = some last ∧ find index id = .ok last
  stuck : forall (id : String) (before after : List (List GoalRecord)) (batch : List GoalRecord),
    batches = before ++ batch :: after -> ofId id before.flatten = [] -> 1 < (ofId id batch).length ->
      exists last, (ofId id batch).getLast? = some last ∧ find index id = .ok last

/-- Batches of goals that are written to a new file are all taken, and the file can be opened
afterwards and remembers them. -/
theorem writeEach_remembered {folder : Folder} {path : Path} {batches : List (List GoalRecord)}
    (hvacant : Vacant folder path) (hne : batches ≠ [])
    (hgoals : forall batch, batch ∈ batches -> forall record, record ∈ batch -> IsGoal record) :
    exists after index, (writeEach path batches).on folder = (.ok (), after) ∧
      openIndex after path = .ok index ∧ Remembers batches index := by
  rcases writeEach_of_vacant hvacant hne hgoals with ⟨after, records, hwrite, hholds, hkept⟩
  have hcollects : Collects batches records :=
    ⟨fun record hrecord => (hholds.goals record hrecord).hasName, hkept⟩
  refine ⟨after, indexOf records, hwrite, openIndex_eq_ok hholds, ?_, ?_, ?_⟩
  · intro id record hrecord hid
    exact hcollects.find_of_mem hrecord hid
  · intro id before later batch hbatches hbefore hsingle
    exact hcollects.find_of_single hbatches hbefore hsingle
  · intro id before later batch hbatches hbefore hrepeated
    exact hcollects.find_of_repeated hbatches hbefore hrepeated

def numbered (number : Int) : GoalRecord :=
  [("id", .text "a"), ("mode", .text "TABLE"), ("n", .whole number)]

theorem isNamed_numbered (number : Int) : isNamed "a" (numbered number) = true :=
  isNamed_iff.mpr rfl

theorem isGoal_numbered {number : Int} (h : number.natAbs < 10) : IsGoal (numbered number) := by
  have hten : 10 ≤ Nat.pow 10 Text.digitLimit := @Text.pow_ten_le 1 Text.digitLimit (by decide)
  constructor
  · exact ⟨"a", by decide, isNamed_numbered number⟩
  · have hmode : Document.field? (numbered number) "mode" = some (.text "TABLE") := rfl
    rw [hmode]
    exact ⟨.table, rfl⟩
  · refine Document.exact_record ["id", "mode", "n"] rfl (by decide) (by decide) ?_
    intro value hvalue
    simp only [numbered, List.map_cons, List.map_nil, List.mem_cons, List.not_mem_nil, or_false]
      at hvalue
    rcases hvalue with rfl | rfl | rfl
    · exact .text (Document.rejoined_of_isPlainName (by decide))
    · exact .text (Document.rejoined_of_isPlainName (by decide))
    · exact .whole number
  · refine Document.isWritable_record_iff.mpr fun field hfield => ?_
    simp only [numbered, List.mem_cons, List.not_mem_nil, or_false] at hfield
    rcases hfield with rfl | rfl | rfl
    · rfl
    · rfl
    · rw [Document.isWritable, decide_eq_true_eq]
      exact Nat.lt_of_lt_of_le h hten

def dataPath : Path := ⟨0, ["data.json".toList]⟩

theorem vacant_empty : Vacant Folder.empty dataPath := by
  refine ⟨Folder.empty, ⟨.above 0, ["data.json".toList]⟩, rfl, rfl, ?_⟩
  have hnothing : Folder.empty.contents[(⟨.above 0, ["data.json".toList]⟩ : Place)]? = none :=
    Std.HashMap.getElem?_empty
  unfold Folder.contentAt?
  rw [if_neg (by decide), hnothing]
  decide

/-- A record that is replaced by the next one of its id. -/
theorem writeEach_remembered_replaced :
    exists after index, (writeEach dataPath [[numbered 1], [numbered 2]]).on Folder.empty =
        (.ok (), after) ∧
      openIndex after dataPath = .ok index ∧ find index "a" = .ok (numbered 2) := by
  have hgoals : forall batch, batch ∈ [[numbered 1], [numbered 2]] -> forall record,
      record ∈ batch -> IsGoal record := by
    intro batch hbatch record hrecord
    simp only [List.mem_cons, List.not_mem_nil, or_false] at hbatch
    rcases hbatch with rfl | rfl
    · cases List.mem_singleton.mp hrecord
      exact isGoal_numbered (by decide)
    · cases List.mem_singleton.mp hrecord
      exact isGoal_numbered (by decide)
  rcases writeEach_remembered vacant_empty (by decide) hgoals with
    ⟨after, index, hwrite, hopen, hremembers⟩
  rcases hremembers.latest "a" [] [[numbered 2]] [numbered 1] rfl rfl rfl with ⟨last, hlast, hfind⟩
  cases hlast
  exact ⟨after, index, hwrite, hopen, hfind⟩

/-- An update of a record whose id was written twice at first is lost. -/
theorem not_writeEach_remembered :
    exists after index,
      (writeEach dataPath [[numbered 1, numbered 2], [numbered 3]]).on Folder.empty =
        (.ok (), after) ∧
      openIndex after dataPath = .ok index ∧ find index "a" ≠ .ok (numbered 3) := by
  have hgoals : forall batch, batch ∈ [[numbered 1, numbered 2], [numbered 3]] -> forall record,
      record ∈ batch -> IsGoal record := by
    intro batch hbatch record hrecord
    simp only [List.mem_cons, List.not_mem_nil, or_false] at hbatch
    rcases hbatch with rfl | rfl
    · simp only [List.mem_cons, List.not_mem_nil, or_false] at hrecord
      rcases hrecord with rfl | rfl
      · exact isGoal_numbered (by decide)
      · exact isGoal_numbered (by decide)
    · cases List.mem_singleton.mp hrecord
      exact isGoal_numbered (by decide)
  rcases writeEach_of_vacant vacant_empty (by decide) hgoals with
    ⟨after, records, hwrite, hholds, hkept⟩
  refine ⟨after, indexOf records, hwrite, openIndex_eq_ok hholds, ?_⟩
  have hfind : find (indexOf records) "a" = .ok (numbered 2) := by
    refine find_indexOf (fun record hrecord => (hholds.goals record hrecord).hasName) ?_
    rw [hkept]
    rfl
  rw [hfind]
  intro hsame
  have hnumbers := congrArg (fun record => Document.field? record "n") (Except.ok.inj hsame)
  injection hnumbers with hnumber
  injection hnumber with hfalse
  cases hfalse

end Catalogue
end Mosaic
