import DataGate.Effect
import DataGate.Change

namespace DataGate

namespace Verdict

def resolvedEntry (verdict : Verdict) : Log.Entry where
  channel := .verdict
  level := .debug
  message := "Aggregate verdict resolved"
  context := .resolved verdict.digest

/-- The verdict on these facts, noted in the log. -/
def reach (obstacles : List Obstacle) (grants : List Grant) : Effect Verdict := do
  let verdict := resolve obstacles grants
  Effect.issue verdict.resolvedEntry
  return verdict

/-- The record that tells of the verdict, written by the wall clock. -/
def record (verdict : Verdict) (trigger : Trigger) (candidate : Option Candidate) :
    Effect Evaluation := fun world =>
  let change := verdict.replay trigger candidate world.wall
  { result := match change.fault with
      | some reason => .error (.clock reason)
      | none => .ok change.evaluation
    world := { world with wall := change.wall }
    issued := change.entries.map world.issue }

end Verdict

end DataGate
