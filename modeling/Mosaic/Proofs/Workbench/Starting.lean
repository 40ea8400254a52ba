import Mosaic.Proofs.Workbench.Refusal

/-!
# Starting a challenge

A challenge may start if there is none and the lockout has passed.  Its goal is drawn and put in place
before the clock looks at the time it comes with.  A goal that shows something has time for at least
one row, and the challenge starts.  A dark screen has no time at all, so the clock refuses to start,
with the dark screen in place.
-/

namespace Mosaic

theorem Goal.Challenges.exists_budget {goal : Goal} {mode : Mode} (h : goal.Challenges mode)
    (hshows : goal.Shows) : exists budget, goal.budget = some budget ∧ 1 ≤ budget := by
  have htime := h.time.mpr hshows
  cases hbudget : goal.budget with
  | none =>
      rw [hbudget] at htime
      cases htime
  | some budget =>
      rw [hbudget] at htime
      exact ⟨budget, rfl, htime⟩

namespace Workbench

variable {σ : Type} [RandomSource σ]

theorem on_startChallenge {bench : Workbench σ} {goal : Goal} {chance : σ}
    (hready : bench.challenge.checkReady = .ok ())
    (hgoal : Goal.drawChallenge bench.run.mode bench.settings.secondsPerRow
      bench.settings.mazeBudget bench.chance = (.ok goal, chance))
    (hfits : goal.Fits bench.run.mode) :
    startChallenge.on bench =
      (((Challenge.start (goal.budget.getD 0)).run bench.challenge).1.map fun _ => goal,
        { bench with
          chance
          run := bench.run.towards goal
          challenge := ((Challenge.start (goal.budget.getD 0)).run bench.challenge).2 }) := by
  have happlied := on_applyGoal { bench with chance } (checkTargetSize_of_fits hfits)
  unfold startChallenge
  rw [on_bind_of_ok (on_get bench), hready, on_bind_of_ok (on_attempt _ bench),
    on_bind_of_ok (on_drawing _ bench), hgoal, on_bind_of_ok (on_attempt _ _),
    on_bind_of_ok happlied, on_bind, on_timing]
  cases ((Challenge.start (goal.budget.getD 0)).run bench.challenge).1 with
  | ok _ => rfl
  | error fault => rfl

theorem startsDark_iff {bench : Workbench σ} (hready : bench.challenge.checkReady = .ok ()) :
    bench.StartsDark ↔ bench.run.mode = .pixel ∧
      (Goal.drawPatterns bench.chance).1 = List.replicate Goal.screenRows .dark := by
  constructor
  · intro hdark
    refine ⟨hdark.mode, Classical.byContradiction fun hother => hdark.dark ?_⟩
    exact (Goal.isLit_drawScreen_iff bench.chance).mpr hother
  · intro hdark
    refine ⟨hready, hdark.left, fun hlit => ?_⟩
    exact (Goal.isLit_drawScreen_iff bench.chance).mp hlit hdark.right

section Starts

variable {bench : Workbench σ} {goal : Goal} {chance : σ}
  (hready : bench.challenge.checkReady = .ok ())
  (hgoal : Goal.drawChallenge bench.run.mode bench.settings.secondsPerRow
    bench.settings.mazeBudget bench.chance = (.ok goal, chance))

include hready hgoal

theorem startChallenge_of_shows (hchallenges : goal.Challenges bench.run.mode)
    (hshows : goal.Shows) :
    exists budget, goal.budget = some budget ∧ 1 ≤ budget ∧
      startChallenge.on bench =
        (.ok goal, { bench with
          chance
          run := bench.run.towards goal
          challenge := { bench.challenge with active := true, timeLeft := budget } }) := by
  rcases hchallenges.exists_budget hshows with ⟨budget, hbudget, hpositive⟩
  refine ⟨budget, hbudget, hpositive, ?_⟩
  rw [on_startChallenge hready hgoal hchallenges.fits, hbudget, Option.getD_some,
    Challenge.start_of_ready hready hpositive]
  rfl

theorem startChallenge_of_dark (hdark : bench.StartsDark) :
    goal.budget = some 0 ∧
      startChallenge.on bench =
        (.error (.challenge .budgetNotPositive),
          { bench with chance, run := bench.run.towards goal }) := by
  have hfits := Goal.fits_drawChallenge bench.run.mode bench.settings.secondsPerRow
    bench.settings.mazeBudget bench.chance goal (by rw [hgoal])
  have hscreen := Goal.drawChallenge_pixel bench.settings.secondsPerRow bench.settings.mazeBudget
    bench.chance
  have hrows : (Goal.drawScreen bench.chance).1.1.nonEmptyRows = 0 :=
    Nat.eq_zero_of_not_pos fun hpositive => hdark.dark (Grid.nonEmptyRows_pos_iff.mp hpositive)
  rw [← hdark.mode, hgoal, hrows] at hscreen
  have hbudget : goal.budget = some 0 := by
    cases hscreen
    exact congrArg some (Int.mul_zero _)
  refine ⟨hbudget, ?_⟩
  rw [on_startChallenge hready hgoal hfits, hbudget, Option.getD_some,
    Challenge.start_of_not_positive hready (Int.le_refl 0)]
  rfl

end Starts

/-- A challenge that may start does start, with its goal in place and all of its time left, unless its
goal is a dark screen.  Such a screen has no time, and the challenge is refused with it in place. -/
theorem startChallenge_of_idle {bench : Workbench σ} {goal : Goal} {chance : σ}
    (hsettings : bench.settings.checked = .ok bench.settings)
    (hidle : bench.challenge.active = false) (hunlocked : bench.challenge.isLockedOut = false)
    (hgoal : Goal.drawChallenge bench.run.mode bench.settings.secondsPerRow
      bench.settings.mazeBudget bench.chance = (.ok goal, chance)) :
    (Not bench.StartsDark ->
      exists budget, goal.budget = some budget ∧ 1 ≤ budget ∧
        startChallenge.on bench =
          (.ok goal, { bench with
            chance
            run := bench.run.towards goal
            challenge := { bench.challenge with active := true, timeLeft := budget } })) ∧
    (bench.StartsDark ->
      goal.budget = some 0 ∧
        startChallenge.on bench =
          (.error (.challenge .budgetNotPositive),
            { bench with chance, run := bench.run.towards goal })) := by
  have hready := Challenge.checkReady_of_idle hidle hunlocked
  rcases time_of_checked hsettings with ⟨hpace, hmaze⟩
  have hchallenges : goal.Challenges bench.run.mode :=
    Goal.challenges_drawChallenge bench.run.mode hpace hmaze bench.chance goal (by rw [hgoal])
  constructor
  · intro hlit
    refine startChallenge_of_shows hready hgoal hchallenges ?_
    by_cases hmode : bench.run.mode = .pixel
    · have hscreen := Goal.drawChallenge_pixel bench.settings.secondsPerRow
        bench.settings.mazeBudget bench.chance
      rw [← hmode, hgoal] at hscreen
      cases hscreen
      refine (Goal.shows_iff_of_grid rfl).mpr ?_
      exact Classical.byContradiction fun hdark => hlit ⟨hready, hmode, hdark⟩
    · exact hchallenges.shows hmode
  · exact startChallenge_of_dark hready hgoal

/-- The first challenge of a new workbench, in TABLE. -/
theorem startChallenge_of_idle_table :
    exists (bench after : Workbench Twister) (goal : Goal) (budget : Int),
      create usualSettings (Twister.ofSeed 7) .table = .ok bench ∧
        startChallenge.on bench = (.ok goal, after) ∧
        goal.budget = some budget ∧ 1 ≤ budget ∧
        after.challenge.active = true ∧ after.challenge.timeLeft = budget := by
  have hcreate : exists bench, create usualSettings (Twister.ofSeed 7) .table = .ok bench ∧
      bench.run.mode = .table ∧ bench.challenge.active = false ∧
      bench.challenge.isLockedOut = false ∧
      bench.settings.checked = .ok bench.settings := ⟨_, rfl, rfl, rfl, rfl, rfl⟩
  rcases hcreate with ⟨bench, hbench, hmode, hidle, hunlocked, hsettings⟩
  rcases time_of_checked hsettings with ⟨hpace, _⟩
  have hdeclares : bench.run.mode.declaresSize = true := by
    rw [hmode]
    rfl
  rcases Goal.drawChallenge_table hdeclares hpace bench.settings.mazeBudget bench.chance with
    ⟨grid, seconds, hgoal, _⟩
  have hlit : Not bench.StartsDark := by
    intro hdark
    have hscreen := hdark.mode
    rw [hmode] at hscreen
    cases hscreen
  rcases (startChallenge_of_idle hsettings hidle hunlocked (Prod.ext hgoal rfl)).left hlit with
    ⟨budget, hbudget, hpositive, hstart⟩
  exact ⟨bench, _, _, budget, hbench, hstart, hbudget, hpositive, rfl, rfl⟩

/-- A source of chance that always answers with the last number there is, or with a half. -/
inductive Dull
  | dull

instance : RandomSource Dull where
  below n source := (n - 1, source)
  fraction source := (Nat.pow 2 52, source)
  below_lt := fun _ _ h => Nat.sub_one_lt (Nat.ne_of_gt h)
  fraction_lt := fun _ => Nat.pow_lt_pow_right (by decide) (by decide)

theorem drawPatterns_dull :
    (Goal.drawPatterns Dull.dull).1 = List.replicate Goal.screenRows .dark := by
  decide

/-- A challenge that draws the dark screen has no time, and is refused with the screen in place. -/
theorem not_startChallenge_of_idle :
    exists (bench after : Workbench Dull) (goal : Goal) (fault : Fault),
      create usualSettings .dull .pixel = .ok bench ∧
        bench.challenge.active = false ∧ bench.challenge.isLockedOut = false ∧
        (Goal.drawChallenge bench.run.mode bench.settings.secondsPerRow
          bench.settings.mazeBudget bench.chance).1 = .ok goal ∧
        goal.budget = some 0 ∧ startChallenge.on bench = (.error fault, after) ∧
        after.run = bench.run.towards goal := by
  have hcreate : exists bench, create usualSettings Dull.dull .pixel = .ok bench ∧
      bench.run.mode = .pixel ∧ bench.challenge.active = false ∧
      bench.challenge.isLockedOut = false := ⟨_, rfl, rfl, rfl, rfl⟩
  rcases hcreate with ⟨bench, hbench, hmode, hidle, hunlocked⟩
  have hready := Challenge.checkReady_of_idle hidle hunlocked
  have hdark : bench.StartsDark := (startsDark_iff hready).mpr ⟨hmode, drawPatterns_dull⟩
  have hgoal := Goal.drawChallenge_pixel bench.settings.secondsPerRow bench.settings.mazeBudget
    bench.chance
  rw [← hmode] at hgoal
  rcases startChallenge_of_dark hready (Prod.ext hgoal rfl) hdark with ⟨hbudget, hrefused⟩
  exact ⟨bench, _, _, _, hbench, hidle, hunlocked, hgoal, hbudget, hrefused, rfl⟩

end Workbench
end Mosaic
