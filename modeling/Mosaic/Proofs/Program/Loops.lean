import Mosaic.Program.Expansion
import Mosaic.Program.Screen.Sequence
import Mosaic.Proofs.Attempts

/-!
# Commands inside loops

A property of commands is followed from the words of a screen line through the operations they are
read into, however deeply loops are nested, to the commands that are written out.
-/

namespace Mosaic
namespace Op

mutual

/-- Every command in an operation has a property. -/
def Every (P : Command -> Prop) : Op -> Prop
  | once command => P command
  | loop _ _ body => EveryOf P body

def EveryOf (P : Command -> Prop) : List Op -> Prop
  | [] => True
  | op :: rest => Every P op ∧ EveryOf P rest

end

variable {P : Command -> Prop}

theorem everyOf_iff {ops : List Op} : EveryOf P ops ↔ forall op, op ∈ ops -> Every P op := by
  induction ops with
  | nil => simp [EveryOf]
  | cons op rest ih => simp [EveryOf, ih]

theorem everyOf_reverse {ops : List Op} (h : EveryOf P ops) : EveryOf P ops.reverse := by
  rw [everyOf_iff] at h ⊢
  intro op hop
  exact h op (List.mem_reverse.mp hop)

mutual

theorem of_mem_expandUpTo {limit : Nat} {op : Op} (h : Every P op) :
    forall command, command ∈ expandUpTo limit op -> P command := by
  intro command hcommand
  cases op with
  | once only =>
      rw [expandUpTo] at hcommand
      have honly := List.mem_of_mem_take hcommand
      rw [List.mem_singleton] at honly
      rw [honly]
      rw [Every] at h
      exact h
  | loop line count body =>
      rw [expandUpTo] at hcommand
      have hcopies := List.mem_of_mem_take hcommand
      rcases List.mem_flatten.mp hcopies with ⟨copy, hcopy, hmem⟩
      rw [(List.mem_replicate.mp hcopy).right] at hmem
      rw [Every] at h
      exact of_mem_expandAllUpTo h command hmem

theorem of_mem_expandAllUpTo {limit : Nat} {ops : List Op} (h : EveryOf P ops) :
    forall command, command ∈ expandAllUpTo limit ops -> P command := by
  intro command hcommand
  cases ops with
  | nil =>
      rw [expandAllUpTo] at hcommand
      cases hcommand
  | cons op rest =>
      rw [EveryOf] at h
      rw [expandAllUpTo] at hcommand
      rcases List.mem_append.mp hcommand with hstart | hrest
      · exact of_mem_expandUpTo h.left command hstart
      · exact of_mem_expandAllUpTo h.right command hrest

end

end Op

namespace Screen

def Progress.Every (P : Command -> Prop) : Progress -> Prop
  | items frames ops => (forall frame, frame ∈ frames -> Op.EveryOf P frame.before) ∧ Op.EveryOf P ops
  | counted frames ops _ =>
      (forall frame, frame ∈ frames -> Op.EveryOf P frame.before) ∧ Op.EveryOf P ops
  | starred frames ops _ =>
      (forall frame, frame ∈ frames -> Op.EveryOf P frame.before) ∧ Op.EveryOf P ops

theorem step_every {P : Command -> Prop} {line : Int}
    (hwords : forall text action, wordAction? text = some action -> P ⟨line, action⟩)
    {progress next : Progress} {token : Token} (h : progress.Every P)
    (hstep : progress.step line token = .ok next) : next.Every P := by
  unfold Progress.step at hstep
  split at hstep
  · cases hstep
    exact h
  · rcases Attempts.bind_eq_ok_iff.mp hstep with ⟨count, _, hnext⟩
    rw [← Attempts.pure_eq_ok_iff.mp hnext]
    exact h
  · split at hstep
    · rename_i hword
      cases hstep
      exact ⟨h.left, hwords _ _ hword, h.right⟩
    · cases hstep
  · cases hstep
  · split at hstep
    · cases hstep
    · cases hstep
      rename_i frame frames ops _
      have hframe := h.left frame (by simp)
      refine ⟨fun other hother => h.left other (by simp [hother]), ?_⟩
      exact ⟨Op.everyOf_reverse h.right, hframe⟩
  · cases hstep
  · cases hstep
    exact h
  · cases hstep
  · cases hstep
    rename_i frames ops count
    refine ⟨?_, trivial⟩
    intro frame hframe
    rcases List.mem_cons.mp hframe with rfl | hframe
    · exact h.right
    · exact h.left frame hframe
  · cases hstep

theorem foldlM_step_every {P : Command -> Prop} {line : Int}
    (hwords : forall text action, wordAction? text = some action -> P ⟨line, action⟩)
    {row : List Token} {progress final : Progress} (h : progress.Every P)
    (hfold : row.foldlM (Progress.step line) progress = .ok final) : final.Every P := by
  induction row generalizing progress with
  | nil =>
      cases hfold
      exact h
  | cons token rest ih =>
      rw [List.foldlM_cons] at hfold
      rcases Attempts.bind_eq_ok_iff.mp hfold with ⟨next, hnext, hrest⟩
      exact ih (step_every hwords h hnext) hrest

theorem finish_every {P : Command -> Prop} (line : Int) {progress : Progress} {ops : List Op}
    (h : progress.Every P) (hfinish : progress.finish line = .ok ops) : Op.EveryOf P ops := by
  unfold Progress.finish at hfinish
  split at hfinish
  · cases hfinish
  · cases hfinish
    exact Op.everyOf_reverse h.right
  · cases hfinish
  · cases hfinish
  · cases hfinish

/-- What a screen line asks for, in terms of what its words do. -/
theorem lineOps_every {P : Command -> Prop} {line : Int} {cs : List Char} {ops : List Op}
    (hwords : forall text action, wordAction? text = some action -> P ⟨line, action⟩)
    (h : lineOps line cs = .ok ops) : Op.EveryOf P ops := by
  unfold lineOps at h
  rcases Attempts.bind_eq_ok_iff.mp h with ⟨placed, _, hsequence⟩
  unfold sequence at hsequence
  rcases Attempts.bind_eq_ok_iff.mp hsequence with ⟨final, hfold, hfinish⟩
  have hstart : (Progress.items [] []).Every P := ⟨by simp, trivial⟩
  exact finish_every line (foldlM_step_every hwords hstart hfold) hfinish

theorem wordAction?_cases {text : List Char} {action : Primitive}
    (h : wordAction? text = some action) :
    action = .erase ∨ exists color, action = .paint color := by
  simp only [wordAction?] at h
  split at h
  · cases h
    exact Or.inl rfl
  · split at h
    · rcases Option.map_eq_some_iff.mp h with ⟨color, _, rfl⟩
      exact Or.inr ⟨color, rfl⟩
    · cases h

end Screen
end Mosaic
