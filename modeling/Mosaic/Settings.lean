import Mosaic.Fault
import Mosaic.Text.Quoted

/-!
# Settings

The settings are the pace of automatic steps and the timing of challenges.  Each may be given; if it
is not, it is taken from its environment variable, and if that is not set or blank, it has its usual
value.  The settings are looked up in the order in which they are listed, and then checked.
-/

namespace Mosaic

structure Settings where
  stepInterval : Int
  secondsPerRow : Int
  lockout : Int
  mazeBudget : Int
  deriving DecidableEq, Repr, Inhabited

namespace Settings

structure Given where
  stepInterval : Option Int
  secondsPerRow : Option Int
  lockout : Option Int
  mazeBudget : Option Int
  deriving Repr, Inhabited

def Given.nothing : Given := ⟨none, none, none, none⟩

abbrev Environment := List (String × String)

def stepIntervalVariable : String := "CODEGRID_STEP_INTERVAL_MS"

def secondsPerRowVariable : String := "CODEGRID_SECONDS_PER_ROW"

def lockoutVariable : String := "CODEGRID_LOCKOUT_SECONDS"

def mazeBudgetVariable : String := "CODEGRID_MAZE_TIME_BUDGET"

def variableNames : List String :=
  [stepIntervalVariable, secondsPerRowVariable, lockoutVariable, mazeBudgetVariable]

def usualStepInterval : Int := 300

def usualLockout : Int := 300

def usualSecondsPerRow : Int := 60

def usualMazeBudget : Int := 600

def fromEnvironment (environment : Environment) (name : String) (usual : Int) :
    Except Fault Int :=
  match environment.lookup name with
  | none => .ok usual
  | some value =>
      if (Text.trim value.toList).isEmpty then .ok usual
      else match Text.readWhole value.toList with
        | .ok n => .ok n
        | .error _ => .error (.challenge (.settingNotWhole name (Text.quoted value.toList)))

/-- A given number, or the one from a variable. -/
def lookUp (environment : Environment) (given : Option Int) (name : String) (usual : Int) :
    Except Fault Int :=
  match given with
  | some n => .ok n
  | none => fromEnvironment environment name usual

def checked (settings : Settings) : Except Fault Settings :=
  if settings.stepInterval ≤ 0 then .error (.challenge .intervalNotPositive)
  else if settings.secondsPerRow ≤ 0 || settings.mazeBudget ≤ 0 then
    .error (.challenge .budgetsNotPositive)
  else if settings.lockout < 0 then .error (.challenge .lockoutNegative)
  else .ok settings

def make (environment : Environment) (given : Given) : Except Fault Settings := do
  let stepInterval <- lookUp environment given.stepInterval stepIntervalVariable usualStepInterval
  let secondsPerRow <-
    lookUp environment given.secondsPerRow secondsPerRowVariable usualSecondsPerRow
  let lockout <- lookUp environment given.lockout lockoutVariable usualLockout
  let mazeBudget <- lookUp environment given.mazeBudget mazeBudgetVariable usualMazeBudget
  checked { stepInterval, secondsPerRow, lockout, mazeBudget }

end Settings
end Mosaic
