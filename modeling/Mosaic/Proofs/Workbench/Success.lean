import Mathlib.Data.List.Induction
import Mosaic.Proofs.Run.Success
import Mosaic.Proofs.Workbench.Moves

/-!
# What the success of a workbench refers to

A run that succeeds shows its target.  It stays in success when a target is put in its place: by
hand, with a new goal, or with the goal of a challenge.  So the success of a workbench refers to the
target of the moment it came to, and to the present target only as far as that is what the run shows.
-/

namespace Mosaic
namespace Workbench

variable {σ : Type}

def Remains [RandomSource σ] (P : Workbench σ -> Prop) : List Request -> Workbench σ -> Prop
  | [], bench => P bench
  | request :: rest, bench => P bench ∧ Remains P rest (request.perform bench)

def Succeeded (bench : Workbench σ) : Prop := bench.run.outcome = .success

/-- The last target that requests in a row put in place. -/
def lastPut? [RandomSource σ] : List Request -> Workbench σ -> Option (Option Grid)
  | [], _ => none
  | request :: rest, bench => (lastPut? rest (request.perform bench)).or (put? bench request)

section Rows

variable [RandomSource σ] {P : Workbench σ -> Prop}

theorem remains_append_singleton {requests : List Request} {bench : Workbench σ} {last : Request}
    (h : Remains P requests bench)
    (hlast : P (last.perform (Request.performAll requests bench))) :
    Remains P (requests ++ [last]) bench := by
  induction requests generalizing bench with
  | nil => exact ⟨h, hlast⟩
  | cons request rest ih => exact ⟨h.left, ih h.right hlast⟩

theorem performAll_append_singleton (requests : List Request) (last : Request)
    (bench : Workbench σ) :
    Request.performAll (requests ++ [last]) bench =
      last.perform (Request.performAll requests bench) := by
  unfold Request.performAll
  rw [List.foldl_append]
  rfl

theorem Reachable.performAll {bench : Workbench σ} (h : bench.Reachable) (requests : List Request) :
    (Request.performAll requests bench).Reachable := by
  induction requests generalizing bench with
  | nil => exact h
  | cons request rest ih => exact ih (.performed request h)

theorem lastPut?_append_singleton (requests : List Request) (last : Request)
    (bench : Workbench σ) :
    lastPut? (requests ++ [last]) bench =
      (put? (Request.performAll requests bench) last).or (lastPut? requests bench) := by
  induction requests generalizing bench with
  | nil => simp [lastPut?]
  | cons request rest ih =>
      rw [List.cons_append, lastPut?, ih, lastPut?, Option.or_assoc]
      rfl

end Rows

/-!
## From request to request
-/

section Requests

variable [RandomSource σ] {bench : Workbench σ} {target : Option (Option Grid)} {after : Run}

theorem outcome_drawRun (mode : Mode) (chance : σ) : (drawRun mode chance).1.outcome = .idle := by
  unfold drawRun
  split
  · rfl
  · rfl

theorem outdoors_drawRun (mode : Mode) (chance : σ) : (drawRun mode chance).1.Outdoors := by
  unfold drawRun
  split
  · rename_i hmode
    intro hother
    exact absurd hmode hother
  · intro _
    rfl

theorem mode_restored {run loaded : Run} {maze : Maze} {code : String}
    (h : (run.forSession maze).load code false = .ok loaded) : loaded.mode = .maze :=
  (Run.sameGoal_load (Or.inl rfl) h).mode.trans (Run.mode_forSession run maze)

theorem outdoors_of_becomes (h : Becomes bench target after) (hbefore : bench.run.Outdoors) :
    after.Outdoors := by
  cases h with
  | same => exact hbefore
  | event event keeps result => exact Run.outdoors_event keeps hbefore result
  | put grid code mode size => exact hbefore
  | moved maze mode playable => exact fun hother => absurd mode hother
  | exchanged mode chance => exact outdoors_drawRun mode chance
  | entered session => exact fun hother => absurd (Run.mode_forSession bench.run _) hother
  | restored session result => exact fun hother => absurd (mode_restored result) hother

theorem outdoors_create {settings : Settings} {chance : σ} {mode : Mode}
    (h : create settings chance mode = .ok bench) :
    bench.run.Outdoors ∧ bench.run.outcome = .idle := by
  unfold create at h
  rcases Attempts.bind_eq_ok_iff.mp h with ⟨challenge, _, hbench⟩
  cases Attempts.pure_eq_ok_iff.mp hbench
  exact ⟨outdoors_drawRun mode chance, outcome_drawRun mode chance⟩

theorem Reachable.outdoors (h : bench.Reachable) : bench.run.Outdoors :=
  h.kept outdoors_drawRun fun _ _ _ hbefore hmove => outdoors_of_becomes hmove hbefore

theorem honest_of_becomes (h : Becomes bench target after) (hbefore : bench.run.Outdoors)
    (hidle : bench.run.outcome ≠ .success) : after.Honest := by
  have hhonest := Run.honest_of_outcome hbefore hidle
  have houtdoors := outdoors_of_becomes h hbefore
  cases h with
  | same => exact hhonest
  | event event keeps result => exact Run.honest_event keeps hhonest result
  | put grid code mode size => exact Run.honest_of_outcome hbefore hidle
  | moved maze mode playable => exact Run.honest_of_outcome houtdoors nofun
  | exchanged mode chance =>
      apply Run.honest_of_outcome houtdoors
      rw [outcome_drawRun]
      decide
  | entered session =>
      exact ⟨houtdoors, fun hother => absurd (Run.mode_forSession bench.run _) hother⟩
  | restored session result => exact ⟨houtdoors, fun hother => absurd (mode_restored result) hother⟩

theorem kept_of_becomes (h : Becomes bench target after) (hbefore : bench.run.outcome = .success)
    (hstill : after.outcome = .success) (hother : after.mode ≠ .maze) :
    bench.run.mode ≠ .maze ∧ after.grid = bench.run.grid ∧
      after.target = target.getD bench.run.target := by
  cases h with
  | same => exact ⟨hother, rfl, rfl⟩
  | event event keeps result =>
      rcases Run.success_event hbefore result hstill with ⟨hmode, hgrid, htarget⟩
      rw [hmode] at hother
      exact ⟨hother, hgrid, htarget⟩
  | put grid code mode size => exact ⟨mode, rfl, rfl⟩
  | moved maze mode playable => cases hstill
  | exchanged mode chance =>
      rw [outcome_drawRun] at hstill
      cases hstill
  | entered session => exact absurd (Run.mode_forSession bench.run _) hother
  | restored session result => exact absurd (mode_restored result) hother

/-- Requests in a row that bring a run to its success, and what they do to its target from then on:
the requests up to the one that ends the run, that one, and those that leave the success standing. -/
structure Succeeds (opened : Workbench σ) (earlier : List Request) (ending : Request)
    (later : List Request) (ended bench : Workbench σ) : Prop where
  unfinished : Not (Request.performAll earlier opened).Succeeded
  ends : ending.perform (Request.performAll earlier opened) = ended
  remains : Remains Succeeded later ended
  shown : ended.run.ShowsTarget
  reached : Request.performAll later ended = bench
  grid : bench.run.grid = ended.run.grid
  target : bench.run.target = (lastPut? later ended).getD ended.run.target

theorem Succeeds.next {opened ended : Workbench σ} {earlier later : List Request}
    {ending : Request} (h : Succeeds opened earlier ending later ended bench) (last : Request)
    (hstill : (last.perform bench).Succeeded)
    (hgrid : (last.perform bench).run.grid = bench.run.grid)
    (htarget : (last.perform bench).run.target = (put? bench last).getD bench.run.target) :
    Succeeds opened earlier ending (later ++ [last]) ended (last.perform bench) := by
  have hreached := h.reached
  subst hreached
  constructor
  · exact h.unfinished
  · exact h.ends
  · exact remains_append_singleton h.remains hstill
  · exact h.shown
  · exact performAll_append_singleton later last ended
  · exact hgrid.trans h.grid
  · rw [lastPut?_append_singleton, htarget, h.target]
    cases put? (Request.performAll later ended) last with
    | none => rfl
    | some grid => rfl

/-- However a workbench outside of MAZE has come to its success, there was one moment at which its
run ended and showed its target. -/
theorem exists_succeeds {opened : Workbench σ} (hopened : opened.Reachable)
    (hidle : Not opened.Succeeded) (requests : List Request)
    (hother : (Request.performAll requests opened).run.mode ≠ .maze)
    (hsuccess : (Request.performAll requests opened).Succeeded) :
    exists earlier ending later ended, requests = earlier ++ ending :: later ∧
      Succeeds opened earlier ending later ended (Request.performAll requests opened) := by
  induction requests using List.reverseRecOn with
  | nil => exact absurd hsuccess hidle
  | append_singleton requests last ih =>
      rw [performAll_append_singleton] at hother hsuccess ⊢
      have hbecomes := becomes_perform last (Request.performAll requests opened)
      by_cases hbefore : (Request.performAll requests opened).Succeeded
      · rcases kept_of_becomes hbecomes hbefore hsuccess hother with ⟨hmode, hgrid, htarget⟩
        rcases ih hmode hbefore with ⟨earlier, ending, later, ended, hrow, hsucceeds⟩
        refine ⟨earlier, ending, later ++ [last], ended, ?_, ?_⟩
        · rw [hrow, List.append_assoc, List.cons_append]
        · exact hsucceeds.next last hsuccess hgrid htarget
      · have hhonest := honest_of_becomes hbecomes (hopened.performAll requests).outdoors hbefore
        refine ⟨requests, last, [], last.perform (Request.performAll requests opened), rfl, ?_⟩
        exact ⟨hbefore, rfl, hsuccess, hhonest.success hother hsuccess, rfl, rfl, rfl⟩

/-- Outside of MAZE, a success refers to the target that the run was ended with.  It refers to the
present target exactly if the last target that has been put in place since then is what the grid
shows. -/
theorem success_refers_to_target {settings : Settings} {chance : σ} {mode : Mode}
    {opened : Workbench σ} (hchecked : settings.checked = .ok settings)
    (hopened : create settings chance mode = .ok opened) (requests : List Request)
    (hother : (Request.performAll requests opened).run.mode ≠ .maze)
    (hsuccess : (Request.performAll requests opened).run.outcome = .success) :
    exists earlier ending later ended, requests = earlier ++ ending :: later ∧
      Succeeds opened earlier ending later ended (Request.performAll requests opened) ∧
      ((Request.performAll requests opened).run.ShowsTarget ↔
        forall target, lastPut? later ended = some target -> target = ended.run.grid) := by
  have hidle : Not opened.Succeeded := by
    unfold Succeeded
    rw [(outdoors_create hopened).right]
    decide
  rcases exists_succeeds (.created hchecked hopened) hidle requests hother hsuccess with
    ⟨earlier, ending, later, ended, hrow, hsucceeds⟩
  refine ⟨earlier, ending, later, ended, hrow, hsucceeds, ?_⟩
  rcases hsucceeds.shown with ⟨hset, hshown⟩
  unfold Run.ShowsTarget
  rw [hsucceeds.grid, hsucceeds.target]
  cases hlast : lastPut? later ended with
  | none => simp [hset, hshown]
  | some target =>
      rw [hshown]
      constructor
      · intro hshows other hsame
        cases hsame
        exact hshows.right.symm
      · intro hsame
        have htarget := hsame target rfl
        rw [htarget]
        exact ⟨hset, rfl⟩

end Requests

/-!
## One dark cell
-/

section Dark

variable [RandomSource σ] {bench : Workbench σ}

/-- One dark cell as the target, and a program that does nothing but declare it. -/
def showDark : List Request := [
  .setTarget (.list [.list [.null]]) none,
  .load (some "1#1") false,
  .runToHalt 1]

theorem run_showDark (h : bench.run = .start .table none) :
    exists halted : Run, (Request.performAll showDark bench).run = halted ∧ halted.mode = .table ∧
      halted.outcome = .success ∧ halted.grid = some [[none]] ∧ halted.target = some [[none]] := by
  have hmode : bench.run.mode ≠ .maze := by
    rw [h]
    decide
  have hread : readTarget bench.run.mode (.list [.list [.null]]) = .ok (some [[none]]) := by
    rw [h]
    rfl
  have hruns : exists loaded halted,
      Run.load { Run.start .table none with target := some [[none]], targetCode := none } "1#1"
        false = .ok loaded ∧
        loaded.runToHalt 1 = .ok halted ∧ halted.mode = .table ∧ halted.outcome = .success ∧
        halted.grid = some [[none]] ∧ halted.target = some [[none]] :=
    ⟨_, _, rfl, rfl, rfl, rfl, rfl, rfl⟩
  rcases hruns with ⟨loaded, halted, hload, hhalt, hends⟩
  have hput := run_setTarget hmode hread none
  rw [h] at hput
  rw [← hput] at hload
  refine ⟨halted, ?_, hends⟩
  show (Request.perform (.runToHalt 1) (Request.perform (.load (some "1#1") false) _)).run = halted
  rw [perform_load hload, perform_runToHalt hhalt]

end Dark

theorem exists_table :
    exists opened, create usualSettings (Twister.ofSeed 7) .table = .ok opened ∧
      opened.run = .start .table none := ⟨_, rfl, rfl⟩

/-- The dark cell is painted at once, and its success refers to it. -/
theorem success_refers_to_target_dark :
    exists opened, create usualSettings (Twister.ofSeed 7) .table = .ok opened ∧
      (Request.performAll showDark opened).run.outcome = .success ∧
      exists earlier ending later ended, showDark = earlier ++ ending :: later ∧
        Succeeds opened earlier ending later ended (Request.performAll showDark opened) := by
  rcases exists_table with ⟨opened, hopened, hrun⟩
  rcases run_showDark hrun with ⟨halted, hhalted, hmode, hsuccess, _⟩
  have hother : (Request.performAll showDark opened).run.mode ≠ .maze := by
    rw [hhalted, hmode]
    decide
  have houtcome : (Request.performAll showDark opened).run.outcome = .success := by
    rw [hhalted, hsuccess]
  rcases success_refers_to_target rfl hopened showDark hother houtcome with
    ⟨earlier, ending, later, ended, hrow, hsucceeds, _⟩
  exact ⟨opened, hopened, houtcome, earlier, ending, later, ended, hrow, hsucceeds⟩

/-- A red cell is put in place of the dark one, and the success stays. -/
theorem not_success_refers_to_target :
    exists opened bench, create usualSettings (Twister.ofSeed 7) .table = .ok opened ∧
      Request.performAll (showDark ++ [.setTarget (.list [.list [.text "R"]]) none]) opened =
        bench ∧
      bench.run.mode = .table ∧ bench.run.outcome = .success ∧
      Not (bench.run.target.isSome = true ∧ bench.run.grid = bench.run.target) := by
  rcases exists_table with ⟨opened, hopened, hrun⟩
  rcases run_showDark hrun with ⟨halted, hhalted, hmode, hsuccess, hgrid, _⟩
  refine ⟨opened, _, hopened, rfl, ?_⟩
  have hread : readTarget (Request.performAll showDark opened).run.mode
      (.list [.list [.text "R"]]) = .ok (some [[some .red]]) := by
    rw [hhalted, hmode]
    rfl
  have hput := run_setTarget (by rw [hhalted, hmode]; decide) hread none
  rw [hhalted] at hput
  rw [performAll_append_singleton, hput]
  refine ⟨hmode, hsuccess, ?_⟩
  intro hshows
  rw [hgrid] at hshows
  cases hshows.right

end Workbench
end Mosaic
