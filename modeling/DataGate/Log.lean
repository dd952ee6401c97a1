import DataGate.Evaluation
import DataGate.Verdict

namespace DataGate.Log

/-- `notset` is the absence of a level of one's own. -/
inductive Level
  | notset
  | debug
  | info
  | warning
  | error
  | critical
  deriving DecidableEq, Repr

namespace Level

def name : Level → String
  | notset => "NOTSET"
  | debug => "DEBUG"
  | info => "INFO"
  | warning => "WARNING"
  | error => "ERROR"
  | critical => "CRITICAL"

def rank : Level → Nat
  | notset => 0
  | debug => 10
  | info => 20
  | warning => 30
  | error => 40
  | critical => 50

/-- Two levels have a second name. The case of a name matters. -/
def names : List (String × Level) :=
  [("NOTSET", notset), ("DEBUG", debug), ("INFO", info), ("WARN", warning), ("WARNING", warning),
    ("ERROR", error), ("FATAL", critical), ("CRITICAL", critical)]

def ofName? (name : String) : Option Level :=
  names.lookup name

/-- A level that is not set leaves the decision to the level of the whole program, `warning`. -/
def effective : Level → Level
  | notset => warning
  | level => level

def admits (threshold level : Level) : Bool :=
  threshold.effective.rank ≤ level.rank

end Level

/-- The parts of the program that write log entries. -/
inductive Channel
  | settings
  | evaluation
  | verdict
  | metrics
  | audit
  deriving DecidableEq, Repr

def Channel.name : Channel → String
  | settings => "data_admission.evaluation_config"
  | evaluation => "data_admission.logic.data_evaluation"
  | verdict => "data_admission.logic.evaluation_verdict"
  | metrics => "data_admission.observability.evaluation_metrics"
  | audit => "data_admission.audit"

/-- The fields that an entry carries beside its message. -/
inductive Context
  | none
  | blocked (trigger : Trigger) (obstacle : Obstacle)
  | permitted (trigger : Trigger) (asserted retained : Grant)
  | resolved (digest : Verdict.Digest)
  | audited (report : Report)
  deriving DecidableEq, Repr

structure Entry where
  channel : Channel
  level : Level
  message : String
  context : Context := .none
  deriving DecidableEq, Repr

/-- An entry together with the level in force when it was written. -/
structure Issue where
  entry : Entry
  threshold : Level
  deriving DecidableEq, Repr

def Issue.isEmitted (issue : Issue) : Bool :=
  issue.threshold.admits issue.entry.level

/-- What a reader of the log sees of the entries written. -/
def emitted (issues : List Issue) : List Entry :=
  (issues.filter Issue.isEmitted).map Issue.entry

end DataGate.Log
