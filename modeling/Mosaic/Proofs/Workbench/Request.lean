import Mosaic.Proofs.Workbench.Operations

/-!
# Requests

A student asks a workbench for one operation after the other.  A request names the operation with
its arguments; whether it is granted or refused, the workbench goes on from what it is afterwards.
-/

namespace Mosaic

inductive Request
  | load (source : Option String) (asTarget : Bool)
  | step
  | resume
  | stop
  | reset (newMaze : Bool)
  | runToHalt (maxSteps : Int)
  | setMode (mode : Document)
  | setSource (source : String)
  | setTarget (target : Document) (code : Option String)
  | newGoal
  | startChallenge
  | stopChallenge
  | tick
  | saveSession
  | restoreSession (text : String)
  | score
  | report

namespace Request

variable {σ : Type} [RandomSource σ]

/-- The operation that a request names, without its result.  Scores and reports are read off. -/
def operation : Request -> Operation σ Unit
  | load source asTarget => discard (Workbench.load source asTarget)
  | step => discard Workbench.step
  | resume => discard Workbench.resume
  | stop => discard Workbench.stop
  | reset newMaze => discard (Workbench.reset newMaze)
  | runToHalt maxSteps => discard (Workbench.runToHalt maxSteps)
  | setMode mode => discard (Workbench.setMode mode)
  | setSource source => Workbench.setSource source
  | setTarget target code => discard (Workbench.setTarget target code)
  | newGoal => discard Workbench.newGoal
  | startChallenge => discard Workbench.startChallenge
  | stopChallenge => Workbench.stopChallenge
  | tick => discard Workbench.tick
  | saveSession => discard Workbench.saveSession
  | restoreSession text => discard (Workbench.restoreSession text)
  | score => pure ()
  | report => pure ()

def perform (request : Request) (bench : Workbench σ) : Workbench σ :=
  (request.operation.on bench).2

def performAll (requests : List Request) (bench : Workbench σ) : Workbench σ :=
  requests.foldl (fun bench request => request.perform bench) bench

@[simp] theorem performAll_nil (bench : Workbench σ) : performAll [] bench = bench := rfl

@[simp] theorem performAll_cons (request : Request) (rest : List Request) (bench : Workbench σ) :
    performAll (request :: rest) bench = performAll rest (request.perform bench) := rfl

end Request

namespace Workbench

variable {σ : Type} [RandomSource σ] {bench : Workbench σ}

/-!
## The workbench after a request
-/

theorem perform_load {source : String} {asTarget : Bool} {loaded : Run}
    (h : bench.run.load source asTarget = .ok loaded) :
    Request.perform (.load (some source) asTarget) bench =
      { bench with source, run := loaded } := by
  unfold Request.perform Request.operation
  simp only
  rw [on_discard, on_load, on_changeRun]
  simp only [Option.getD_some]
  rw [h]

theorem perform_runToHalt {maxSteps : Int} {halted : Run}
    (h : bench.run.runToHalt maxSteps = .ok halted) :
    Request.perform (.runToHalt maxSteps) bench = { bench with run := halted } := by
  unfold Request.perform Request.operation runToHalt
  simp only
  rw [on_discard, on_changeRun]
  simp only
  rw [h]

theorem run_setTarget {target : Document} {grid : Option Grid} (hmode : bench.run.mode ≠ .maze)
    (h : readTarget bench.run.mode target = .ok grid) (code : Option String) :
    (Request.perform (.setTarget target code) bench).run =
      { bench.run with target := grid, targetCode := code } := by
  unfold Request.perform Request.operation
  simp only
  rw [on_discard, on_setTarget hmode, h]

end Workbench
end Mosaic
