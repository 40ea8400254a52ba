import Mosaic.Fault

/-!
# Attempts in a row

Loading and running are chains of attempts, each of which gives a value or a fault.  These facts
take a chain apart: it gives a value only through a value of every attempt, and its fault is the
fault of the first attempt that has one.
-/

namespace Mosaic
namespace Attempts

variable {ε α β : Type}

theorem bind_eq_ok_iff {attempt : Except ε α} {next : α -> Except ε β} {result : β} :
    (attempt >>= next) = .ok result ↔
      exists value, attempt = .ok value ∧ next value = .ok result := by
  cases attempt with
  | error fault => simp [bind, Except.bind]
  | ok value => simp [bind, Except.bind]

theorem bind_eq_error_iff {attempt : Except ε α} {next : α -> Except ε β} {fault : ε} :
    (attempt >>= next) = .error fault ↔
      attempt = .error fault ∨
        exists value, attempt = .ok value ∧ next value = .error fault := by
  cases attempt with
  | error other => simp [bind, Except.bind]
  | ok value => simp [bind, Except.bind]

theorem map_eq_ok_iff {attempt : Except ε α} {change : α -> β} {result : β} :
    attempt.map change = .ok result ↔ exists value, attempt = .ok value ∧ change value = result := by
  cases attempt with
  | error fault => simp [Except.map]
  | ok value => simp [Except.map]

theorem map_eq_error_iff {attempt : Except ε α} {change : α -> β} {fault : ε} :
    attempt.map change = .error fault ↔ attempt = .error fault := by
  cases attempt with
  | error other => simp [Except.map]
  | ok value => simp [Except.map]

theorem map_bind_congr {γ δ : Type} {attempt other : Except ε α} {next further : α -> Except ε β}
    {seen : α -> γ} {shown : β -> δ} (h : attempt.map seen = other.map seen)
    (hnext : forall value same, seen value = seen same ->
      (next value).map shown = (further same).map shown) :
    (attempt >>= next).map shown = (other >>= further).map shown := by
  cases attempt with
  | error fault =>
      cases other with
      | error same =>
          cases h
          rfl
      | ok value => cases h
  | ok value =>
      cases other with
      | error fault => cases h
      | ok same =>
          injection h with hseen
          exact hnext value same hseen

theorem pure_eq_ok_iff {value result : α} :
    (pure value : Except ε α) = .ok result ↔ value = result := by
  simp [pure, Except.pure]

theorem foldlM_cons_of_ok {attempt : β -> α -> Except ε β} {start next : β} {item : α}
    (h : attempt start item = .ok next) (rest : List α) :
    (item :: rest).foldlM attempt start = rest.foldlM attempt next := by
  rw [List.foldlM_cons, h]
  rfl

theorem foldlM_append_of_ok {attempt : β -> α -> Except ε β} {start next : β} {front : List α}
    (h : front.foldlM attempt start = .ok next) (back : List α) :
    (front ++ back).foldlM attempt start = back.foldlM attempt next := by
  rw [List.foldlM_append, h]
  rfl

/-- A chain over a list has a fault where one of its attempts has it, behind those that went well. -/
theorem foldlM_eq_error_iff {attempt : β -> α -> Except ε β} {items : List α} {start : β}
    {fault : ε} :
    items.foldlM attempt start = .error fault ↔
      exists before item after reached, items = before ++ item :: after ∧
        before.foldlM attempt start = .ok reached ∧ attempt reached item = .error fault := by
  constructor
  · intro h
    induction items generalizing start with
    | nil => cases h
    | cons first rest ih =>
        rw [List.foldlM_cons] at h
        rcases bind_eq_error_iff.mp h with hfirst | ⟨next, hnext, hrest⟩
        · exact ⟨[], first, rest, start, rfl, rfl, hfirst⟩
        · rcases ih hrest with ⟨before, item, after, reached, happend, hbefore, hfault⟩
          refine ⟨first :: before, item, after, reached, by rw [happend, List.cons_append], ?_,
            hfault⟩
          rw [List.foldlM_cons, hnext]
          exact hbefore
  · intro hgiven
    rcases hgiven with ⟨before, item, after, reached, rfl, hbefore, hfault⟩
    rw [List.foldlM_append, hbefore]
    show ((item :: after).foldlM attempt reached) = _
    rw [List.foldlM_cons, hfault]
    rfl

theorem mapM_map_of_ok {γ : Type} {attempt : β -> Except ε γ} (before : α -> β) (after : α -> γ)
    (items : List α) (h : forall item, item ∈ items -> attempt (before item) = .ok (after item)) :
    (items.map before).mapM attempt = .ok (items.map after) := by
  induction items with
  | nil => rfl
  | cons item rest ih =>
      rw [List.map_cons, List.mapM_cons, h item (by simp),
        ih fun other hother => h other (List.mem_cons_of_mem item hother)]
      rfl

theorem filterAuxM_of_ok {attempt : α -> Except ε Bool} {test : α -> Bool} {items : List α}
    (h : forall item, item ∈ items -> attempt item = .ok (test item)) (before : List α) :
    items.filterAuxM attempt before = .ok ((items.filter test).reverse ++ before) := by
  induction items generalizing before with
  | nil => rfl
  | cons item rest ih =>
      rw [List.filterAuxM, h item (by simp)]
      show rest.filterAuxM attempt (bif test item then item :: before else before) = _
      rw [ih fun other hother => h other (List.mem_cons_of_mem item hother), List.filter_cons]
      cases test item with
      | true => simp
      | false => simp

theorem filterM_of_ok {attempt : α -> Except ε Bool} {test : α -> Bool} {items : List α}
    (h : forall item, item ∈ items -> attempt item = .ok (test item)) :
    items.filterM attempt = .ok (items.filter test) := by
  unfold List.filterM
  rw [filterAuxM_of_ok h, List.append_nil]
  show Except.ok (items.filter test).reverse.reverse = _
  rw [List.reverse_reverse]

theorem exists_of_mapM_eq_ok {attempt : α -> Except ε β} {items : List α} {results : List β}
    (h : items.mapM attempt = .ok results) {result : β} (hresult : result ∈ results) :
    exists item, item ∈ items ∧ attempt item = .ok result := by
  induction items generalizing results with
  | nil =>
      cases h
      cases hresult
  | cons item rest ih =>
      rw [List.mapM_cons] at h
      rcases bind_eq_ok_iff.mp h with ⟨first, hfirst, htail⟩
      rcases bind_eq_ok_iff.mp htail with ⟨others, hothers, hpure⟩
      cases pure_eq_ok_iff.mp hpure
      rcases List.mem_cons.mp hresult with rfl | hlater
      · exact ⟨item, by simp, hfirst⟩
      · rcases ih hothers hlater with ⟨other, hother, hattempt⟩
        exact ⟨other, List.mem_cons_of_mem item hother, hattempt⟩

theorem exists_mapM_eq_ok_iff {attempt : α -> Except ε β} {items : List α} :
    (exists results, items.mapM attempt = .ok results) ↔
      forall item, item ∈ items -> exists result, attempt item = .ok result := by
  induction items with
  | nil => exact iff_of_true ⟨[], rfl⟩ nofun
  | cons item rest ih =>
      rw [List.forall_mem_cons, ← ih, List.mapM_cons]
      constructor
      · intro hgiven
        rcases hgiven with ⟨results, h⟩
        rcases bind_eq_ok_iff.mp h with ⟨first, hfirst, htail⟩
        rcases bind_eq_ok_iff.mp htail with ⟨others, hothers, _⟩
        exact ⟨⟨first, hfirst⟩, others, hothers⟩
      · intro hgiven
        rcases hgiven with ⟨⟨first, hfirst⟩, others, hothers⟩
        refine ⟨first :: others, ?_⟩
        rw [hfirst, hothers]
        rfl

/-- A row of attempts has the fault of the first one that does not go well. -/
theorem mapM_eq_error_iff {attempt : α -> Except ε β} {items : List α} {fault : ε} :
    items.mapM attempt = .error fault ↔
      exists before item after, items = before ++ item :: after ∧
        (forall other, other ∈ before -> exists result, attempt other = .ok result) ∧
        attempt item = .error fault := by
  constructor
  · intro h
    induction items with
    | nil => cases h
    | cons first rest ih =>
        rw [List.mapM_cons] at h
        rcases bind_eq_error_iff.mp h with hfirst | ⟨result, hresult, htail⟩
        · exact ⟨[], first, rest, rfl, nofun, hfirst⟩
        · rcases bind_eq_error_iff.mp htail with hrest | ⟨others, _, hpure⟩
          · rcases ih hrest with ⟨before, item, after, happend, hbefore, hfault⟩
            refine ⟨first :: before, item, after, by rw [happend, List.cons_append], ?_, hfault⟩
            exact List.forall_mem_cons.mpr ⟨⟨result, hresult⟩, hbefore⟩
          · cases hpure
  · intro hgiven
    rcases hgiven with ⟨before, item, after, rfl, hbefore, hfault⟩
    rcases exists_mapM_eq_ok_iff.mpr hbefore with ⟨results, hresults⟩
    rw [List.mapM_append, hresults, List.mapM_cons, hfault]
    rfl

theorem eq_map_of_mapM_eq_ok {attempt : α -> Except ε β} {back : β -> α} {items : List α}
    {results : List β} (h : items.mapM attempt = .ok results)
    (hback : forall item result, item ∈ items -> attempt item = .ok result -> item = back result) :
    items = results.map back := by
  induction items generalizing results with
  | nil =>
      cases h
      rfl
  | cons item rest ih =>
      rw [List.mapM_cons] at h
      rcases bind_eq_ok_iff.mp h with ⟨first, hfirst, htail⟩
      rcases bind_eq_ok_iff.mp htail with ⟨others, hothers, hpure⟩
      cases pure_eq_ok_iff.mp hpure
      rw [List.map_cons, ← hback item first (by simp) hfirst,
        ← ih hothers fun other result hother => hback other result (List.mem_cons_of_mem item hother)]

/-- Two attempts with one fault, or with results that belong together. -/
inductive Both (related : α -> β -> Prop) : Except ε α -> Except ε β -> Prop
  | fault (fault : ε) : Both related (.error fault) (.error fault)
  | value {first : α} {second : β} (h : related first second) : Both related (.ok first) (.ok second)

theorem both_map {γ δ : Type} {attempt : Except ε α} {seen : α -> γ} {shown : α -> δ}
    {related : γ -> δ -> Prop}
    (h : forall value, attempt = .ok value -> related (seen value) (shown value)) :
    Both related (attempt.map seen) (attempt.map shown) := by
  cases attempt with
  | error fault => exact .fault fault
  | ok value => exact .value (h value rfl)

/-!
## Attempts that change something
-/

section Changing

variable {S : Type} {attempt : ExceptT ε (StateM S) α} {state after : S}

theorem run_bind_of_ok {value : α} (h : attempt state = (.ok value, after))
    (next : α -> ExceptT ε (StateM S) β) :
    (attempt >>= next : ExceptT ε (StateM S) β) state = next value after := by
  simp only [bind, ExceptT.bind, ExceptT.mk, StateT.bind, h]
  rfl

theorem run_bind_of_error {fault : ε} (h : attempt state = (.error fault, after))
    (next : α -> ExceptT ε (StateM S) β) :
    (attempt >>= next : ExceptT ε (StateM S) β) state = (.error fault, after) := by
  simp only [bind, ExceptT.bind, ExceptT.mk, StateT.bind, h]
  rfl

end Changing

end Attempts
end Mosaic
