import DataGate.Loading

/-!
Publishing a finished evaluation: counting it, writing it to the audit log, and a debug summary.
Counting never fails its caller. The audit entry and the summary show the time, and a time that
cannot be shown fails the publication whether or not the log would have taken the entry.
-/

namespace DataGate

open Effect

namespace Evaluation

def countedEntry (evaluation : Evaluation) : Log.Entry where
  channel := .metrics
  level := .debug
  message := "Metric: data_evaluation | evaluation_reason=" ++ evaluation.trigger.name ++
    " | outcome=" ++ evaluation.ruling.name

def uncountedEntry (complaint : String) : Log.Entry where
  channel := .metrics
  level := .error
  message := "[OBS-001] Failed to record data_evaluation metrics | error=" ++ complaint

def summaryEntry (summary : String) : Log.Entry where
  channel := .metrics
  level := .debug
  message := summary

def count (evaluation : Evaluation) : Effect Unit := do
  let world ← read
  let (counters, complaint) := world.counters.tally world.broken evaluation.labels
  modify ({ · with counters })
  match complaint with
  | none => issue evaluation.countedEntry
  | some complaint => issue (uncountedEntry complaint)

end Evaluation

def Report.auditEntry (report : Report) : Log.Entry :=
  if report.allowed then
    { channel := .audit
      level := .info
      message := "DATA_ALLOWED: Reason=" ++ report.grant
      context := .audited report }
  else
    let severity : Severity := if report.hasHard then .hard else .soft
    { channel := .audit
      level := .warning
      message := "DATA_DISALLOWED: Severity=" ++ severity.name ++ " Reasons=" ++
        String.intercalate "," report.obstacles
      context := .audited report }

namespace Evaluation

def audit (evaluation : Evaluation) (zone : Zone) : Effect Unit := do
  let report ← ofExcept .time (evaluation.report zone)
  issue report.auditEntry

def publishWith (evaluation : Evaluation) (settings : Settings) : Effect Unit := do
  if settings.metricsEnabled then evaluation.count
  if settings.auditEnabled then evaluation.audit settings.zone
  let summary ← ofExcept .time (evaluation.summary settings.zone)
  issue (summaryEntry summary)

/-- Without settings of the caller's own, the shared ones apply. -/
def publish (evaluation : Evaluation) (settings : Option Settings) : Effect Unit := do
  match settings with
  | some settings => evaluation.publishWith settings
  | none =>
      let shared ← Settings.shared true
      evaluation.publishWith shared.settings

end Evaluation

end DataGate
