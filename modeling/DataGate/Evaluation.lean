import DataGate.Candidate
import DataGate.Decision
import DataGate.Ruling
import DataGate.Time.Clock
import DataGate.Time.Stamp
import DataGate.Trigger

namespace DataGate

/-- The time of a record that was never stamped. -/
def Evaluation.unevaluatedMs : Int := 0

/-- The record of one evaluation cycle. A record without a clock of its own reads the wall clock. -/
structure Evaluation where
  trigger : Trigger
  decision : Decision := .undecided
  candidate : Option Candidate := none
  evaluatedMs : Int := Evaluation.unevaluatedMs
  clock : Option Clock := none

/-- What the audit log keeps of an evaluation. -/
structure Report where
  trigger : String
  allowed : Bool
  obstacles : List String
  hasHard : Bool
  grant : String
  candidate : Option String
  evaluatedMs : Int
  evaluatedTime : String
  deriving DecidableEq, Repr

namespace Evaluation

def ruling (evaluation : Evaluation) : Ruling :=
  .ofBool evaluation.decision.isAllowed

def report (evaluation : Evaluation) (zone : Zone) : Except TimeError Report := do
  let evaluatedTime ← EvaluationTime.render evaluation.evaluatedMs zone
  return {
    trigger := evaluation.trigger.name
    allowed := evaluation.decision.isAllowed
    obstacles := evaluation.decision.obstacles.names
    hasHard := evaluation.decision.hasHard
    grant := evaluation.decision.grant.name
    candidate := evaluation.candidate.map Candidate.shown
    evaluatedMs := evaluation.evaluatedMs
    evaluatedTime }

def findings (evaluation : Evaluation) : String :=
  if evaluation.decision.isAllowed then "Data allowed reason: " ++ evaluation.decision.grant.name
  else
    "Data disallowed reasons:" ++ String.join (evaluation.decision.obstacles.names.map (" " ++ ·))

def shownCandidate (evaluation : Evaluation) : String :=
  (evaluation.candidate.map Candidate.shown).getD "None"

def summaryAt (evaluation : Evaluation) (time : String) : String :=
  "Data evaluation: evaluation reason:" ++ evaluation.trigger.name ++ ", " ++
    evaluation.findings ++ ", candidate profile=" ++ evaluation.shownCandidate ++ ", time=" ++ time

/-- The debug text of a record. -/
def summary (evaluation : Evaluation) (zone : Zone) : Except TimeError String :=
  (EvaluationTime.render evaluation.evaluatedMs zone).map evaluation.summaryAt

/-- The short text of a record, which shows no time. -/
def brief (evaluation : Evaluation) : String :=
  "DataEvaluation(reason=" ++ evaluation.trigger.name ++ ", disallowed=" ++
    Text.quotedList evaluation.decision.obstacles.names ++ ", allowed=" ++
    evaluation.decision.grant.name ++ ")"

end DataGate.Evaluation
