import Mosaic.Folder
import Mosaic.Proofs.Attempts

/-!
# Files in folders

A folder that is made is there, and making it again does nothing.  What is written to a path can be
read at that path, and a path goes where it went before.
-/

namespace Mosaic

def Filing.on {α : Type} (filing : Filing α) (folder : Folder) : Except Fault α × Folder :=
  filing folder

namespace Folder

variable {α β : Type}

@[simp] theorem on_pure (value : α) (folder : Folder) :
    Filing.on (pure value) folder = (.ok value, folder) := rfl

@[simp] theorem on_throw (fault : Fault) (folder : Folder) :
    Filing.on (throw fault : Filing α) folder = (.error fault, folder) := rfl

@[simp] theorem on_get (folder : Folder) :
    Filing.on (get : Filing Folder) folder = (.ok folder, folder) := rfl

theorem on_bind_of_ok {filing : Filing α} {folder after : Folder} {value : α}
    (h : filing.on folder = (.ok value, after)) (next : α -> Filing β) :
    Filing.on (filing >>= next) folder = (next value).on after :=
  Attempts.run_bind_of_ok h next

theorem on_bind_of_error {filing : Filing α} {folder after : Folder} {fault : Fault}
    (h : filing.on folder = (.error fault, after)) (next : α -> Filing β) :
    Filing.on (filing >>= next) folder = (.error fault, after) :=
  Attempts.run_bind_of_error h next

theorem on_tryCatch (filing : Filing α) (handler : Fault -> Filing α) (folder : Folder) :
    Filing.on (tryCatch filing handler) folder =
      match filing.on folder with
      | (.ok value, after) => (.ok value, after)
      | (.error fault, after) => (handler fault).on after := by
  unfold Filing.on
  simp only [tryCatch, tryCatchThe, MonadExceptOf.tryCatch, ExceptT.tryCatch, ExceptT.mk, StateT.bind, bind]
  cases filing folder with
  | mk result after =>
      cases result with
      | ok value => rfl
      | error fault => rfl

theorem on_tryCatch_eq_ok {filing : Filing α} {handler : Fault -> Filing α} {folder after : Folder}
    {value : α} (h : Filing.on (tryCatch filing handler) folder = (.ok value, after)) :
    filing.on folder = (.ok value, after) ∨
      exists fault between, filing.on folder = (.error fault, between) ∧
        (handler fault).on between = (.ok value, after) := by
  rw [on_tryCatch] at h
  cases hfirst : filing.on folder with
  | mk first between =>
      rw [hfirst] at h
      cases first with
      | ok result => exact Or.inl h
      | error fault => exact Or.inr ⟨fault, between, rfl, h⟩

theorem on_bind_eq_ok {filing : Filing α} {next : α -> Filing β} {folder after : Folder} {result : β}
    (h : Filing.on (filing >>= next) folder = (.ok result, after)) :
    exists value between, filing.on folder = (.ok value, between) ∧
      (next value).on between = (.ok result, after) := by
  cases hfirst : filing.on folder with
  | mk first between =>
      cases first with
      | ok value =>
          rw [on_bind_of_ok hfirst] at h
          exact ⟨value, between, rfl, h⟩
      | error fault =>
          rw [on_bind_of_error hfirst] at h
          cases h

/-!
## Following paths
-/

variable {folder : Folder} {path : Path} {place target : Place}

theorem enter_put (hother : folder.contentAt? target ≠ some .folder) (content : Content)
    {name : List Char} {next : Place} (h : folder.enter place name = .ok next) :
    (folder.put target content).enter place name = .ok next := by
  unfold enter at h ⊢
  have hfolder : folder.contentAt? place = some .folder := by
    cases hfound : folder.contentAt? place with
    | none =>
        rw [hfound] at h
        cases h
    | some found =>
        rw [hfound] at h
        cases found with
        | folder => rfl
        | text value => cases h
        | picture width height => cases h
  have hne : place ≠ target := by
    intro hsame
    rw [hsame] at hfolder
    exact hother hfolder
  rw [contentAt?_put_of_ne folder content hne]
  exact h

theorem foldlM_enter_put (hother : folder.contentAt? target ≠ some .folder) (content : Content)
    {names : List (List Char)} {last : Place} (h : names.foldlM folder.enter place = .ok last) :
    names.foldlM (folder.put target content).enter place = .ok last := by
  induction names generalizing place with
  | nil => exact h
  | cons name rest ih =>
      rw [List.foldlM_cons] at h
      rcases Attempts.bind_eq_ok_iff.mp h with ⟨next, hnext, hrest⟩
      rw [Attempts.foldlM_cons_of_ok (enter_put hother content hnext)]
      exact ih hrest

theorem locate_eq_ok_iff :
    folder.locate path = .ok place ↔
      checkBytes path.text = .ok () ∧ byteLength path.text.toList ≤ pathLimit ∧
        path.names.foldlM folder.enter (Place.startOf path) = .ok place := by
  unfold locate
  cases checkBytes path.text with
  | error fault =>
      constructor
      · nofun
      · nofun
  | ok _ =>
      show (if _ then _ else _) = _ ↔ _
      split
      · rename_i hlong
        constructor
        · nofun
        · intro h
          exact absurd h.right.left (Nat.not_le.mpr hlong)
      · rename_i hshort
        constructor
        · intro h
          exact ⟨rfl, Nat.not_lt.mp hshort, h⟩
        · intro h
          exact h.right.right

/-- A path goes where it went, whatever is put in a place that is no folder. -/
theorem locate_put (hother : folder.contentAt? target ≠ some .folder) (content : Content)
    (h : folder.locate path = .ok place) : (folder.put target content).locate path = .ok place := by
  rw [locate_eq_ok_iff] at h ⊢
  exact ⟨h.left, h.right.left, foldlM_enter_put hother content h.right.right⟩

theorem names_ne_nil (hother : folder.contentAt? place ≠ some .folder) : place.names ≠ [] := by
  intro hnil
  apply hother
  unfold contentAt?
  rw [hnil]
  rfl

theorem find?_of_locate (h : folder.locate path = .ok place) :
    folder.find? path = .ok (folder.contentAt? place) := by
  unfold find?
  rw [h]

theorem exists_of_find? {content : Content} (h : folder.find? path = .ok (some content)) :
    exists place, folder.locate path = .ok place ∧ folder.contentAt? place = some content := by
  unfold find? at h
  split at h
  · rename_i place hplace
    exact ⟨place, hplace, Except.ok.inj h⟩
  · cases h
  · cases h

/-!
## Making folders
-/

/-- A folder that the path of a file leads through is there. -/
def HasWay (folder : Folder) (path : Path) : Prop :=
  path.parent.names = [] ∨ folder.find? path.parent = .ok (some .folder)

theorem on_follow (h : folder.locate path = .ok place) :
    (follow path).on folder = (.ok place, folder) := by
  unfold follow
  rw [on_bind_of_ok (on_get folder), h]
  rfl

theorem on_follow_of_error {fault : FileFault} (h : folder.locate path = .error fault) :
    (follow path).on folder = (.error (.file fault), folder) := by
  unfold follow
  rw [on_bind_of_ok (on_get folder), h]
  rfl

theorem find?_makeOne {after : Folder} (h : (makeOne path).on folder = (.ok (), after)) :
    after.find? path = .ok (some .folder) := by
  unfold makeOne at h
  cases hplace : folder.locate path with
  | error fault =>
      rw [on_bind_of_error (on_follow_of_error hplace)] at h
      cases h
  | ok place =>
      rw [on_bind_of_ok (on_follow hplace), on_bind_of_ok (on_get folder)] at h
      cases hcontent : folder.contentAt? place with
      | some content =>
          rw [hcontent] at h
          cases h
      | none =>
          rw [hcontent] at h
          cases h
          have hother : folder.contentAt? place ≠ some .folder := by
            rw [hcontent]
            nofun
          rw [find?_of_locate (locate_put hother .folder hplace),
            contentAt?_put_self folder .folder (names_ne_nil hother)]

theorem makeOne_of_folder (h : folder.find? path = .ok (some .folder)) :
    (makeOne path).on folder = (.error (.file .occupied), folder) := by
  rcases exists_of_find? h with ⟨place, hplace, hcontent⟩
  unfold makeOne
  rw [on_bind_of_ok (on_follow hplace), on_bind_of_ok (on_get folder), hcontent]
  rfl

theorem unlessFolder_eq_ok {fault : Fault} {after : Folder}
    (h : (unlessFolder path fault).on folder = (.ok (), after)) :
    after = folder ∧ folder.find? path = .ok (some .folder) := by
  unfold unlessFolder at h
  rw [on_bind_of_ok (on_get folder)] at h
  cases hfound : folder.find? path with
  | error other =>
      rw [hfound] at h
      cases h
  | ok found =>
      rw [hfound] at h
      change (if _ then _ else _ : Filing Unit).on folder = _ at h
      split at h
      · cases h
      · rename_i hfolder
        cases h
        simp only [bne_iff_ne, ne_eq, Decidable.not_not] at hfolder
        rw [hfolder]
        exact ⟨rfl, rfl⟩

theorem find?_makeOrFind {after : Folder}
    (h : Filing.on (tryCatch (makeOne path) fun fault => unlessFolder path fault) folder =
      (.ok (), after)) : after.find? path = .ok (some .folder) := by
  rcases on_tryCatch_eq_ok h with hmade | ⟨fault, between, _, hfound⟩
  · exact find?_makeOne hmade
  · rcases unlessFolder_eq_ok hfound with ⟨rfl, hfolder⟩
    exact hfolder

theorem find?_makeNamed {slashes : Nat} {name : List Char} {outer : List (List Char)}
    {after : Folder} (h : (makeNamed slashes (name :: outer)).on folder = (.ok (), after)) :
    after.find? ⟨slashes, (name :: outer).reverse⟩ = .ok (some .folder) := by
  rw [makeNamed] at h
  rcases on_tryCatch_eq_ok h with hmade | ⟨fault, between, _, hcaught⟩
  · exact find?_makeOne hmade
  · split at hcaught
    · rcases on_bind_eq_ok hcaught with ⟨_, around, _, htried⟩
      exact find?_makeOrFind htried
    · rcases unlessFolder_eq_ok hcaught with ⟨rfl, hfolder⟩
      exact hfolder

theorem hasWay_of_make {after : Folder} (h : (make path.parent).on folder = (.ok (), after)) :
    after.HasWay path := by
  unfold make at h
  cases hnames : path.parent.names.reverse with
  | nil => exact Or.inl (List.reverse_eq_nil_iff.mp hnames)
  | cons name outer =>
      rw [hnames] at h
      have hfolder := find?_makeNamed h
      rw [← hnames, List.reverse_reverse] at hfolder
      exact Or.inr hfolder

theorem make_of_hasWay (h : folder.HasWay path) : (make path.parent).on folder = (.ok (), folder) := by
  unfold make
  rcases h with hnil | hfolder
  · rw [hnil]
    rfl
  · cases hnames : path.parent.names.reverse with
    | nil => rfl
    | cons name outer =>
        have hpath : (⟨path.parent.slashes, (name :: outer).reverse⟩ : Path) = path.parent := by
          rw [← hnames, List.reverse_reverse]
        rw [makeNamed]
        simp only [hpath]
        rw [on_tryCatch, makeOne_of_folder hfolder]
        show (unlessFolder path.parent (.file .occupied)).on folder = _
        unfold unlessFolder
        rw [on_bind_of_ok (on_get folder), hfolder]
        rfl

/-!
## Writing and reading
-/

structure HasText (folder : Folder) (path : Path) (text : String) : Prop where
  way : folder.HasWay path
  found : exists place, folder.locate path = .ok place ∧ folder.contentAt? place = some (.text text)

theorem hasWay_put (hother : folder.contentAt? target ≠ some .folder) (content : Content)
    (h : folder.HasWay path) : (folder.put target content).HasWay path := by
  rcases h with hnil | hfolder
  · exact Or.inl hnil
  · rcases exists_of_find? hfolder with ⟨place, hplace, hcontent⟩
    have hne : place ≠ target := by
      intro hsame
      rw [hsame] at hcontent
      exact hother hcontent
    refine Or.inr ?_
    rw [find?_of_locate (locate_put hother content hplace), contentAt?_put_of_ne folder content hne,
      hcontent]

/-- A text that is written to a file is there afterwards. -/
theorem write_eq_ok {text : String} (hway : folder.HasWay path) (hplace : folder.locate path = .ok place)
    (hother : folder.contentAt? place ≠ some .folder) (hbytes : checkContent (.text text) = .ok ()) :
    exists after, (write path (.text text)).on folder = (.ok (), after) ∧ after.HasText path text := by
  refine ⟨folder.put place (.text text), ?_, hasWay_put hother _ hway, place,
    locate_put hother _ hplace, contentAt?_put_self folder _ (names_ne_nil hother)⟩
  unfold write
  rw [on_bind_of_ok (on_follow hplace), on_bind_of_ok (on_get folder), if_neg hother]
  simp only [hbytes]
  rfl

theorem HasText.has {text : String} (h : folder.HasText path text) : folder.has path = .ok true := by
  rcases h.found with ⟨place, hplace, hcontent⟩
  unfold Folder.has
  rw [find?_of_locate hplace, hcontent]
  rfl

theorem HasText.readText {text : String} (h : folder.HasText path text) :
    folder.readText path = .ok (String.ofList (Text.plainLineEnds text.toList)) := by
  rcases h.found with ⟨place, hplace, hcontent⟩
  unfold Folder.readText
  rw [hplace]
  simp only [hcontent]

end Folder
end Mosaic
