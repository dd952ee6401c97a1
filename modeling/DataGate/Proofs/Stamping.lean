import DataGate.Proofs.Replay

/-!
What calls make of a fresh record, in full. The facts among them decide, whatever the clock does,
and the readings of the clock date the record, whatever is decided. The clock is read once for each
fact, also for one that changes nothing, and the last reading that gave a time is the one that
stays.
-/

namespace DataGate

namespace Clock

variable (clock : Clock) (count : Nat)

/-- The clock when it has been read this many times more. -/
def after : Clock :=
  { clock with reads := clock.reads + count }

/-- The times that the next readings give, this many of them; one that fails gives none. -/
def returned : List Int :=
  (List.range count).filterMap fun index => (clock.reading (clock.reads + index)).toOption

/-- The time of a record that the next readings stamp. -/
def lastReturned : Int :=
  (clock.returned count).getLast?.getD Evaluation.unevaluatedMs

theorem tick_after :
    (clock.after count).tick = (clock.reading (clock.reads + count), clock.after (count + 1)) := rfl

theorem lastReturned_succ :
    clock.lastReturned (count + 1) =
      (clock.reading (clock.reads + count)).toOption.getD (clock.lastReturned count) := by
  have more : clock.returned (count + 1) =
      clock.returned count ++ (clock.reading (clock.reads + count)).toOption.toList := by
    rw [returned, List.range_succ, List.filterMap_append, returned]
    cases reading : (clock.reading (clock.reads + count)).toOption <;> simp [reading]
  rw [lastReturned, more, List.getLast?_append]
  cases (clock.reading (clock.reads + count)).toOption <;> rfl

end Clock

/-- The candidate that a call proposes, which may be that there is none. -/
def Call.proposal? : Call → Option (Option Candidate)
  | .propose candidate => some candidate
  | _ => none

/-- The facts among calls. -/
def Call.facts (calls : List Call) : List Call :=
  calls.filter Call.stamps

namespace Evaluation

/-- The clock that the record reads while this one is on the wall. -/
def source (evaluation : Evaluation) (wall : Clock) : Clock :=
  evaluation.clock.getD wall

/-- A record that a reading has stamped. -/
def stamped (evaluation : Evaluation) (reading : Except ClockFault Int) : Evaluation :=
  { evaluation with
    evaluatedMs := reading.toOption.getD evaluation.evaluatedMs
    clock := evaluation.clock.map fun clock => clock.tick.2 }

theorem stamp_evaluation (evaluation : Evaluation) (wall : Clock) (entry : Log.Entry) :
    (evaluation.stamp wall entry).evaluation =
      evaluation.stamped (evaluation.source wall).tick.1 := by
  have settled (ticked : Evaluation) (reading : Except ClockFault Int) (left : Clock) :
      (ticked.settle left entry reading).evaluation =
        { ticked with evaluatedMs := reading.toOption.getD ticked.evaluatedMs } := by
    cases reading <;> rfl
  cases own : evaluation.clock with
  | none => simp only [stamp, own, settled, stamped, source, Option.getD_none, Option.map_none]
  | some clock =>
      simp only [stamp, own, settled, stamped, source, Option.getD_some, Option.map_some]

theorem stamp_wall_of_unclocked {evaluation : Evaluation} (unclocked : evaluation.clock = none)
    (wall : Clock) (entry : Log.Entry) : (evaluation.stamp wall entry).wall = wall.tick.2 := by
  simp only [stamp, unclocked]
  cases wall.tick.1 <;> rfl

variable {evaluation : Evaluation} {wall : Clock} {call : Call}

theorem call_of_fact (fact : call.stamps = true) :
    (evaluation.call wall call).evaluation =
      { evaluation with decision := evaluation.decision.apply call }.stamped
        (evaluation.source wall).tick.1 := by
  cases call with
  | block obstacle => exact stamp_evaluation _ wall _
  | permit grant => exact stamp_evaluation _ wall _
  | propose candidate => cases fact

theorem call_wall_of_fact (fact : call.stamps = true) (unclocked : evaluation.clock = none) :
    (evaluation.call wall call).wall = wall.tick.2 := by
  cases call with
  | block obstacle => exact stamp_wall_of_unclocked (by exact unclocked) wall _
  | permit grant => exact stamp_wall_of_unclocked (by exact unclocked) wall _
  | propose candidate => cases fact

/-- A fresh record after calls. The wall clock is the one that there was before them. -/
def told (trigger : Trigger) (clock : Option Clock) (wall : Clock) (calls : List Call) :
    Evaluation where
  trigger
  decision := (Call.facts calls).foldl Decision.apply .undecided
  candidate := (calls.filterMap Call.proposal?).getLast?.join
  evaluatedMs := (clock.getD wall).lastReturned (Call.facts calls).length
  clock := clock.map fun clock => clock.after (Call.facts calls).length

variable {trigger : Trigger} {clock : Option Clock} {calls : List Call} {now : Clock}

theorem told_nil : told trigger clock wall [] = { trigger, clock } := by
  cases clock <;> rfl

theorem source_told (sound : clock = none → now = wall.after (Call.facts calls).length) :
    (told trigger clock wall calls).source now =
      (clock.getD wall).after (Call.facts calls).length := by
  cases clock with
  | none => exact sound rfl
  | some own => rfl

theorem facts_concat_fact (fact : call.stamps = true) :
    Call.facts (calls ++ [call]) = Call.facts calls ++ [call] := by
  simp [Call.facts, fact]

theorem facts_concat_proposal (candidate : Option Candidate) :
    Call.facts (calls ++ [.propose candidate]) = Call.facts calls := by
  simp [Call.facts, Call.stamps]

theorem proposal?_of_fact (fact : call.stamps = true) : call.proposal? = none := by
  cases call with
  | propose candidate => cases fact
  | _ => rfl

/-- One call more. -/
theorem call_told (sound : clock = none → now = wall.after (Call.facts calls).length)
    (call : Call) :
    ((told trigger clock wall calls).call now call).evaluation =
        told trigger clock wall (calls ++ [call]) ∧
      (clock = none → ((told trigger clock wall calls).call now call).wall =
        wall.after (Call.facts (calls ++ [call])).length) := by
  cases fact : call.stamps with
  | true =>
      constructor
      · rw [call_of_fact fact, source_told sound, Clock.tick_after]
        simp only [stamped, told, facts_concat_fact fact, List.foldl_append, List.foldl_cons,
          List.foldl_nil, List.filterMap_append, List.filterMap_cons, List.filterMap_nil,
          proposal?_of_fact fact, List.append_nil, List.length_append, List.length_cons,
          List.length_nil, Nat.zero_add, Clock.lastReturned_succ, Option.map_map]
        rfl
      · intro unclocked
        have own : (told trigger clock wall calls).clock = none := by rw [told, unclocked]; rfl
        rw [call_wall_of_fact fact own, sound unclocked, facts_concat_fact fact,
          List.length_append]
        rfl
  | false =>
      cases call with
      | propose candidate =>
          rw [facts_concat_proposal]
          refine ⟨?_, sound⟩
          simp [Evaluation.call, told, facts_concat_proposal, Call.proposal?]
      | _ => cases fact

end Evaluation

end DataGate
