import Mosaic.Fault

/-!
# Timed challenges

A challenge counts down from its budget, one second a tick.  When it ends, by running out of time or
by being stopped, no new one may start until the lockout has passed, again one second a tick.
-/

namespace Mosaic

structure Challenge where
  lockout : Int
  timeLeft : Int
  lockoutLeft : Int
  active : Bool
  deriving DecidableEq, Repr, Inhabited

/-- An operation of the clock: the clock afterwards is there in any case. -/
abbrev Timing (α : Type) : Type := ExceptT Fault (StateM Challenge) α

namespace Challenge

def create (lockout : Int) : Except Fault Challenge :=
  if lockout < 0 then .error (.challenge .lockoutNegative) else .ok ⟨lockout, 0, 0, false⟩

def isLockedOut (clock : Challenge) : Bool := 0 < clock.lockoutLeft

/-- Nothing but a clock that is idle and not locked lets a challenge start. -/
def checkReady (clock : Challenge) : Except Fault Unit :=
  if clock.active then .error (.challenge .alreadyActive)
  else if clock.isLockedOut then .error (.challenge (.lockedOut clock.lockoutLeft))
  else .ok ()

def start (budget : Int) : Timing Unit := do
  MonadExcept.ofExcept (<- get).checkReady
  if budget ≤ 0 then throw (.challenge .budgetNotPositive)
  modify fun clock => { clock with active := true, timeLeft := budget }

/-- The end of a challenge, from which the lockout counts. -/
def ended (clock : Challenge) : Challenge :=
  { clock with active := false, timeLeft := 0, lockoutLeft := clock.lockout }

def stop (clock : Challenge) : Challenge := if clock.active then clock.ended else clock

/-- One second later, and whether the challenge ran out of time in this second. -/
def tick (clock : Challenge) : Bool × Challenge :=
  if clock.active then
    let left := max 0 (clock.timeLeft - 1)
    if left = 0 then (true, clock.ended) else (false, { clock with timeLeft := left })
  else if clock.isLockedOut then (false, { clock with lockoutLeft := clock.lockoutLeft - 1 })
  else (false, clock)

end Challenge
end Mosaic
