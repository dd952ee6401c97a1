import DataGate.Log

/-!
Calls on a record. A call commits its fact before it reads the clock, so a clock that fails leaves
the fact in place, the time as it was, and nothing in the log.
-/

namespace DataGate

/-- What may be asked of a record. -/
inductive Call
  | block (obstacle : Obstacle)
  | permit (grant : Grant)
  | propose (candidate : Option Candidate)
  deriving DecidableEq, Repr

/-- What calls leave behind: the record, the wall clock, the entries written and, if the last call
failed, why. -/
structure Change where
  evaluation : Evaluation
  wall : Clock
  fault : Option ClockFault := none
  entries : List Log.Entry := []

namespace Evaluation

def blockedEntry (evaluation : Evaluation) (obstacle : Obstacle) : Log.Entry where
  channel := .evaluation
  level := .debug
  message := "Data disallowed reason added"
  context := .blocked evaluation.trigger obstacle

def permittedEntry (evaluation : Evaluation) (asserted : Grant) : Log.Entry where
  channel := .evaluation
  level := .debug
  message := "Data allowed reason added"
  context := .permitted evaluation.trigger asserted evaluation.decision.grant

def settle (evaluation : Evaluation) (wall : Clock) (entry : Log.Entry) :
    Except ClockFault Int → Change
  | .ok time => { evaluation := { evaluation with evaluatedMs := time }, wall, entries := [entry] }
  | .error fault => { evaluation, wall, fault := some fault }

/-- Reads the record's clock, or the wall clock if it has none, and stamps the record. -/
def stamp (evaluation : Evaluation) (wall : Clock) (entry : Log.Entry) : Change :=
  match evaluation.clock with
  | some clock =>
      { evaluation with clock := some clock.tick.2 }.settle wall entry clock.tick.1
  | none => evaluation.settle wall.tick.2 entry wall.tick.1

def call (evaluation : Evaluation) (wall : Clock) : Call → Change
  | .block obstacle =>
      let changed := { evaluation with decision := evaluation.decision.block obstacle }
      changed.stamp wall (changed.blockedEntry obstacle)
  | .permit grant =>
      let changed := { evaluation with decision := evaluation.decision.permit grant }
      changed.stamp wall (changed.permittedEntry grant)
  | .propose candidate => { evaluation := { evaluation with candidate }, wall }

end Evaluation

namespace Change

/-- One more call, whether or not the last one failed: the caller goes on. -/
def resume (change : Change) (call : Call) : Change :=
  let next := change.evaluation.call change.wall call
  { next with entries := change.entries ++ next.entries }

/-- One more call unless the last one failed. -/
def proceed (change : Change) (call : Call) : Change :=
  if change.fault.isSome then change else change.resume call

end Change

/-- The record after calls by a caller who goes on after each failure. -/
def Evaluation.afterCalls (evaluation : Evaluation) (wall : Clock) (calls : List Call) : Change :=
  calls.foldl Change.resume { evaluation, wall }

namespace Verdict

/-- The grant comes first, for a later obstacle to remove. -/
def calls (verdict : Verdict) (candidate : Option Candidate) : List Call :=
  (if verdict.grant = .none then [] else [.permit verdict.grant]) ++
    verdict.obstacles.toList.map .block ++
    (if candidate.isSome then [.propose candidate] else [])

/-- Builds a record that tells of the verdict. It reads the wall clock. -/
def replay (verdict : Verdict) (trigger : Trigger) (candidate : Option Candidate) (wall : Clock) :
    Change :=
  (verdict.calls candidate).foldl Change.proceed { evaluation := { trigger }, wall }

end Verdict

end DataGate
