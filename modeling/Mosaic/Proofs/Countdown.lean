import Mosaic.Challenge
import Mosaic.Proofs.Attempts

/-!
# The countdown of a challenge

A clock counts a challenge down or waits for the lockout to pass, and never does both at once.  Each
second of either is one tick, whatever else the clock is asked for in between: a start that is refused
costs nothing, and only a stop cuts a challenge short.
-/

namespace Mosaic
namespace Challenge

inductive Demand
  | start (budget : Int)
  | stop
  | tick
  deriving DecidableEq, Repr

def Demand.on : Demand -> Challenge -> Challenge
  | start budget, clock => ((Challenge.start budget).run clock).2
  | stop, clock => clock.stop
  | tick, clock => clock.tick.2

def after (clock : Challenge) (demands : List Demand) : Challenge :=
  demands.foldl (fun clock demand => demand.on clock) clock

def seconds (demands : List Demand) : Nat := demands.count .tick

/-- The end of a challenge, by a stop or by the tick that takes its last second. -/
inductive Ends (clock : Challenge) : Challenge -> Prop
  | stopped (running : clock.active = true) : Ends clock clock.stop
  | ranOut {ended : Challenge} (result : clock.tick = (true, ended)) : Ends clock ended

def StartsNone (clock : Challenge) (demands : List Demand) : Prop :=
  forall front budget back, demands = front ++ .start budget :: back ->
    ((start budget).run (clock.after front)).1 ≠ .ok ()

@[simp] theorem after_nil (clock : Challenge) : clock.after [] = clock := rfl

@[simp] theorem after_cons (clock : Challenge) (demand : Demand) (rest : List Demand) :
    clock.after (demand :: rest) = (demand.on clock).after rest := rfl

theorem seconds_cons_tick (rest : List Demand) :
    (seconds (.tick :: rest) : Int) = seconds rest + 1 := by
  unfold seconds
  rw [List.count_cons_self]
  rfl

theorem seconds_cons_start (budget : Int) (rest : List Demand) :
    seconds (.start budget :: rest) = seconds rest :=
  List.count_cons_of_ne (by simp)

theorem seconds_cons_stop (rest : List Demand) : seconds (.stop :: rest) = seconds rest :=
  List.count_cons_of_ne (by simp)

theorem StartsNone.tail {clock : Challenge} {demand : Demand} {rest : List Demand}
    (h : clock.StartsNone (demand :: rest)) : (demand.on clock).StartsNone rest := by
  intro front budget back hsplit
  exact h (demand :: front) budget back (by rw [hsplit, List.cons_append])

/-!
## Starts
-/

theorem checkReady_of_idle {clock : Challenge} (hidle : clock.active = false)
    (hunlocked : clock.isLockedOut = false) : clock.checkReady = .ok () := by
  unfold checkReady
  rw [hidle, hunlocked]
  rfl

theorem start_of_ready {clock : Challenge} (h : clock.checkReady = .ok ()) {budget : Int}
    (hbudget : 0 < budget) :
    (start budget).run clock = (.ok (), { clock with active := true, timeLeft := budget }) := by
  have hfirst : (MonadExcept.ofExcept clock.checkReady : Timing Unit).run clock = (.ok (), clock) := by
    rw [h]
    rfl
  refine (Attempts.run_bind_of_ok rfl _).trans ((Attempts.run_bind_of_ok hfirst _).trans ?_)
  rw [if_neg (by omega)]
  rfl

theorem start_of_not_positive {clock : Challenge} (h : clock.checkReady = .ok ()) {budget : Int}
    (hbudget : budget ≤ 0) :
    (start budget).run clock = (.error (.challenge .budgetNotPositive), clock) := by
  have hfirst : (MonadExcept.ofExcept clock.checkReady : Timing Unit).run clock = (.ok (), clock) := by
    rw [h]
    rfl
  refine (Attempts.run_bind_of_ok rfl _).trans ((Attempts.run_bind_of_ok hfirst _).trans ?_)
  rw [if_pos hbudget]
  rfl

theorem start_of_not_ready {clock : Challenge} {fault : Fault}
    (h : clock.checkReady = .error fault) (budget : Int) :
    (start budget).run clock = (.error fault, clock) := by
  have hfirst : (MonadExcept.ofExcept clock.checkReady : Timing Unit).run clock =
      (.error fault, clock) := by
    rw [h]
    rfl
  exact (Attempts.run_bind_of_ok rfl _).trans (Attempts.run_bind_of_error hfirst _)

theorem start_cases (clock : Challenge) (budget : Int) :
    (clock.checkReady = .ok () ∧ 0 < budget ∧ (start budget).run clock =
      (.ok (), { clock with active := true, timeLeft := budget })) ∨
    exists fault, (start budget).run clock = (.error fault, clock) := by
  cases hready : clock.checkReady with
  | error fault => exact Or.inr ⟨fault, start_of_not_ready hready budget⟩
  | ok _ =>
      by_cases hbudget : 0 < budget
      · exact Or.inl ⟨rfl, hbudget, start_of_ready hready hbudget⟩
      · exact Or.inr ⟨_, start_of_not_positive hready (Int.not_lt.mp hbudget)⟩

theorem active_of_granted {clock : Challenge} {budget : Int}
    (h : ((start budget).run clock).1 = .ok ()) : ((start budget).run clock).2.active = true := by
  rcases start_cases clock budget with ⟨_, _, hgranted⟩ | ⟨fault, hrefused⟩
  · rw [hgranted]
  · rw [hrefused] at h
    cases h

theorem on_start_of_refused {clock : Challenge} {budget : Int}
    (h : ((start budget).run clock).1 ≠ .ok ()) : Demand.on (.start budget) clock = clock := by
  show ((start budget).run clock).2 = clock
  rcases start_cases clock budget with ⟨_, _, hgranted⟩ | ⟨fault, hrefused⟩
  · rw [hgranted] at h
    exact absurd rfl h
  · rw [hrefused]

theorem StartsNone.head {clock : Challenge} {budget : Int} {rest : List Demand}
    (h : clock.StartsNone (.start budget :: rest)) : Demand.on (.start budget) clock = clock :=
  on_start_of_refused (h [] budget rest rfl)

/-!
## The two phases
-/

def counting (lockout left : Int) : Challenge := ⟨lockout, left, 0, true⟩

def waiting (lockout left : Int) : Challenge := ⟨lockout, 0, left, false⟩

theorem create_of_nonneg {lockout : Int} (h : 0 ≤ lockout) :
    create lockout = .ok (waiting lockout 0) :=
  if_neg (Int.not_lt.mpr h)

theorem start_counting (lockout left budget : Int) :
    (start budget).run (counting lockout left) =
      (.error (.challenge .alreadyActive), counting lockout left) :=
  start_of_not_ready rfl budget

theorem checkReady_waiting (lockout left : Int) :
    (waiting lockout left).checkReady =
      if 0 < left then .error (.challenge (.lockedOut left)) else .ok () := by
  show (if decide (0 < left) then _ else _) = _
  simp only [decide_eq_true_eq]
  rfl

theorem tick_counting (lockout : Int) {left : Int} (h : 1 ≤ left) :
    (counting lockout left).tick =
      if left = 1 then (true, waiting lockout lockout) else (false, counting lockout (left - 1)) := by
  have hmax : max 0 (left - 1) = left - 1 := Int.max_eq_right (by omega)
  show (if max 0 (left - 1) = 0 then (true, waiting lockout lockout)
    else (false, counting lockout (max 0 (left - 1)))) = _
  rw [hmax]
  by_cases hlast : left = 1
  · rw [if_pos (by omega), if_pos hlast]
  · rw [if_neg (by omega), if_neg hlast]

theorem tick_waiting (lockout : Int) {left : Int} (h : 0 ≤ left) :
    (waiting lockout left).tick = (false, waiting lockout (max 0 (left - 1))) := by
  show (if decide (0 < left) then (false, waiting lockout (left - 1))
    else (false, waiting lockout left)) = _
  by_cases hlocked : 0 < left
  · rw [if_pos (decide_eq_true hlocked), Int.max_eq_right (by omega)]
  · have hzero : left = 0 := by omega
    rw [if_neg (by simpa using hlocked), hzero]
    rfl

/-- A clock in one of the two phases. -/
inductive Sound (lockout : Int) : Challenge -> Prop
  | counts {left : Int} (positive : 1 ≤ left) : Sound lockout (counting lockout left)
  | waits {left : Int} (nonneg : 0 ≤ left) (bounded : left ≤ lockout) :
      Sound lockout (waiting lockout left)

section Sound

variable {lockout : Int} {clock : Challenge}

theorem sound_ended (h : 0 ≤ lockout) : Sound lockout (waiting lockout lockout) :=
  .waits h (Int.le_refl lockout)

theorem Sound.start_eq_ok_iff (h : Sound lockout clock) {started : Challenge} {budget : Int} :
    (start budget).run clock = (.ok (), started) ↔
      0 < budget ∧ clock = waiting lockout 0 ∧ started = counting lockout budget := by
  constructor
  · intro hstart
    rcases start_cases clock budget with ⟨hready, hpositive, hgranted⟩ | ⟨fault, hrefused⟩
    · cases hgranted.symm.trans hstart
      cases h with
      | counts positive => cases hready
      | @waits left nonneg bounded =>
          rw [checkReady_waiting] at hready
          split at hready
          · cases hready
          · have hzero : left = 0 := by omega
            subst hzero
            exact ⟨hpositive, rfl, rfl⟩
    · cases hrefused.symm.trans hstart
  · intro hgiven
    rcases hgiven with ⟨hpositive, rfl, rfl⟩
    exact start_of_ready (checkReady_waiting lockout 0) hpositive

theorem Sound.on (h : Sound lockout clock) (hlockout : 0 ≤ lockout) (demand : Demand) :
    Sound lockout (demand.on clock) := by
  cases demand with
  | start budget =>
      show Sound lockout ((start budget).run clock).2
      rcases start_cases clock budget with ⟨_, _, hgranted⟩ | ⟨fault, hrefused⟩
      · rcases h.start_eq_ok_iff.mp hgranted with ⟨hpositive, _, hstarted⟩
        rw [hgranted, hstarted]
        exact .counts hpositive
      · rw [hrefused]
        exact h
  | stop =>
      cases h with
      | counts positive => exact sound_ended hlockout
      | waits nonneg bounded => exact .waits nonneg bounded
  | tick =>
      cases h with
      | @counts left positive =>
          show Sound lockout (counting lockout left).tick.2
          rw [tick_counting lockout positive]
          split
          · exact sound_ended hlockout
          · exact .counts (by omega)
      | @waits left nonneg bounded =>
          show Sound lockout (waiting lockout left).tick.2
          rw [tick_waiting lockout nonneg]
          exact .waits (by omega) (by omega)

theorem Sound.after (h : Sound lockout clock) (hlockout : 0 ≤ lockout) (demands : List Demand) :
    Sound lockout (clock.after demands) := by
  induction demands generalizing clock with
  | nil => exact h
  | cons demand rest ih => exact ih (h.on hlockout demand)

theorem Sound.of_ends (h : Sound lockout clock) {ended : Challenge} (hends : clock.Ends ended) :
    ended = waiting lockout lockout := by
  cases h with
  | @counts left positive =>
      cases hends with
      | stopped running => rfl
      | ranOut result =>
          rw [tick_counting lockout positive] at result
          split at result
          · cases result
            rfl
          · cases result
  | waits nonneg bounded =>
      cases hends with
      | stopped running => cases running
      | ranOut result =>
          rw [tick_waiting lockout nonneg] at result
          cases result

end Sound

/-!
## Seconds that pass
-/

/-- A challenge that is not stopped loses a second with each tick, and nothing else changes it. -/
theorem after_counting (lockout : Int) {left : Int} {later : List Demand}
    (hstop : .stop ∉ later) (hseconds : (seconds later : Int) < left) :
    (counting lockout left).after later = counting lockout (left - seconds later) := by
  induction later generalizing left with
  | nil => exact congrArg (counting lockout) (Int.sub_zero left).symm
  | cons demand rest ih =>
      rw [List.mem_cons, not_or] at hstop
      cases demand with
      | start budget =>
          rw [seconds_cons_start] at hseconds ⊢
          have hrefused : ((start budget).run (counting lockout left)).1 ≠ .ok () := by
            rw [start_counting]
            nofun
          rw [after_cons, on_start_of_refused hrefused]
          exact ih hstop.right hseconds
      | stop => exact absurd rfl hstop.left
      | tick =>
          rw [seconds_cons_tick] at hseconds ⊢
          have htick : Demand.on .tick (counting lockout left) = counting lockout (left - 1) := by
            show (counting lockout left).tick.2 = _
            rw [tick_counting lockout (by omega), if_neg (by omega)]
          rw [after_cons, htick, ih hstop.right (by omega)]
          congr 1
          omega

/-- A lockout loses a second with each tick until none is left, unless a challenge starts. -/
theorem after_waiting (lockout : Int) {left : Int} (hleft : 0 ≤ left) {later : List Demand}
    (hnone : (waiting lockout left).StartsNone later) :
    (waiting lockout left).after later = waiting lockout (max 0 (left - seconds later)) := by
  induction later generalizing left with
  | nil =>
      show waiting lockout left = waiting lockout (max 0 (left - 0))
      rw [Int.sub_zero, Int.max_eq_right hleft]
  | cons demand rest ih =>
      have htail := hnone.tail
      cases demand with
      | start budget =>
          rw [hnone.head] at htail
          rw [after_cons, hnone.head, seconds_cons_start]
          exact ih hleft htail
      | stop =>
          rw [after_cons, seconds_cons_stop]
          exact ih hleft htail
      | tick =>
          have htick : Demand.on .tick (waiting lockout left) =
              waiting lockout (max 0 (left - 1)) :=
            congrArg Prod.snd (tick_waiting lockout hleft)
          rw [htick] at htail
          rw [after_cons, htick, seconds_cons_tick, ih (Int.le_max_left 0 (left - 1)) htail]
          congr 1
          omega

/-- What a clock promises to those who ask it: it is in one of the two phases, a start that it refuses
changes nothing, a challenge that is not stopped has exactly the seconds it was started with, and
when it has ended the next one may start as soon as the lockout has passed, and not before. -/
structure KeepsTime (lockout : Int) (clock : Challenge) : Prop where
  phase : clock.active = true ∧ 1 ≤ clock.timeLeft ∧ clock.lockoutLeft = 0 ∨
    clock.active = false ∧ clock.timeLeft = 0 ∧ 0 ≤ clock.lockoutLeft ∧ clock.lockoutLeft ≤ lockout
  refused : forall budget, ((start budget).run clock).1 ≠ .ok () -> forall later,
    clock.after (.start budget :: later) = clock.after later
  expires : forall budget started, (start budget).run clock = (.ok (), started) -> forall later,
    .stop ∉ later -> (seconds later : Int) < budget ->
      ((started.after later).tick.1 = true ↔ (seconds later : Int) + 1 = budget)
  reopens : forall ended, clock.Ends ended -> forall later, ended.StartsNone later ->
    forall budget, (exists started, (start budget).run (ended.after later) = (.ok (), started)) ↔
      0 < budget ∧ lockout ≤ seconds later

theorem Sound.keepsTime {lockout : Int} {clock : Challenge} (h : Sound lockout clock)
    (hlockout : 0 ≤ lockout) : KeepsTime lockout clock := by
  constructor
  · cases h with
    | counts positive => exact Or.inl ⟨rfl, positive, rfl⟩
    | waits nonneg bounded => exact Or.inr ⟨rfl, rfl, nonneg, bounded⟩
  · intro budget hrefused later
    rw [after_cons, on_start_of_refused hrefused]
  · intro budget started hstart later hstop hseconds
    rcases h.start_eq_ok_iff.mp hstart with ⟨_, _, rfl⟩
    rw [after_counting lockout hstop hseconds, tick_counting lockout (by omega)]
    split
    · rename_i hlast
      exact ⟨fun _ => by omega, fun _ => rfl⟩
    · rename_i hmore
      constructor
      · intro hexpired
        cases hexpired
      · intro hlast
        omega
  · intro ended hends later hnone budget
    have hended := h.of_ends hends
    subst hended
    have hlater := (sound_ended hlockout).after hlockout later
    rw [after_waiting lockout hlockout hnone] at hlater ⊢
    constructor
    · intro hgiven
      rcases hgiven with ⟨started, hstarted⟩
      rcases hlater.start_eq_ok_iff.mp hstarted with ⟨hpositive, hopen, _⟩
      have hleft : max 0 (lockout - seconds later) = 0 := congrArg lockoutLeft hopen
      exact ⟨hpositive, by omega⟩
    · intro hgiven
      rcases hgiven with ⟨hpositive, hpassed⟩
      have hleft : max 0 (lockout - (seconds later : Int)) = 0 := by omega
      rw [hleft] at hlater ⊢
      exact ⟨_, hlater.start_eq_ok_iff.mpr ⟨hpositive, rfl, rfl⟩⟩

/-- Whatever a clock has been asked for since it was made, it keeps time. -/
theorem clock_keepsTime {lockout : Int} (h : 0 ≤ lockout) :
    exists clock, create lockout = .ok clock ∧
      forall demands : List Demand, KeepsTime lockout (clock.after demands) := by
  refine ⟨waiting lockout 0, create_of_nonneg h, fun demands => ?_⟩
  have hfirst : Sound lockout (waiting lockout 0) := .waits (Int.le_refl 0) h
  exact (hfirst.after h demands).keepsTime h

/-- Two seconds, the second of which is the last, and a lockout of one second behind them. -/
theorem clock_keepsTime_two_seconds :
    exists clock started ended again : Challenge,
      create 1 = .ok clock ∧ (start 2).run clock = (.ok (), started) ∧
        (started.after [.start 5]).tick.1 = false ∧
        started.after [.start 5, .tick] = started.after [.tick] ∧
        (started.after [.tick]).tick = (true, ended) ∧
        (forall early, (start 3).run ended ≠ (.ok (), early)) ∧
        (start 3).run (ended.after [.tick]) = (.ok (), again) := by
  rcases @clock_keepsTime 1 (by decide) with ⟨clock, hclock, hkeeps⟩
  cases hclock
  have hstart : (start 2).run (waiting 1 0) = (.ok (), counting 1 2) := rfl
  have hcounts := (hkeeps []).expires 2 (counting 1 2) hstart
  have hends : (counting 1 1).Ends (waiting 1 1) := .ranOut rfl
  have hreopens := (hkeeps [.start 2, .tick]).reopens (waiting 1 1) hends
  have hnothing : forall front (budget : Int) back, [] ≠ front ++ Demand.start budget :: back := by
    intro front budget back hsplit
    simp at hsplit
  have hquiet : (waiting 1 1).StartsNone [] := by
    intro front budget back hsplit
    exact absurd hsplit (hnothing front budget back)
  have hsecond : (waiting 1 1).StartsNone [.tick] := by
    intro front budget back hsplit
    cases front with
    | nil => cases hsplit
    | cons first others =>
        injection hsplit with _ hsplit
        exact absurd hsplit (hnothing others budget back)
  have hrefused := (hkeeps [.start 2]).refused 5 nofun [.tick]
  rcases (hreopens [.tick] hsecond 3).mpr (by decide) with ⟨again, hagain⟩
  refine ⟨_, counting 1 2, waiting 1 1, again, rfl, hstart, ?_, hrefused, rfl, ?_, hagain⟩
  · rw [Bool.eq_false_iff]
    intro hearly
    exact absurd ((hcounts [.start 5] (by decide) (by decide)).mp hearly) (by decide)
  · intro early hearly
    exact absurd ((hreopens [] hquiet 3).mp ⟨early, hearly⟩).right (by decide)

end Challenge
end Mosaic
