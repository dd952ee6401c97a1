import Mathlib.Data.List.Dedup
import DataGate.Dotenv
import DataGate.Proofs.Stamping

namespace DataGate

section Calls

variable {clock wall : Clock} {count : Nat} {evaluation : Evaluation} {change : Change}
  {calls : List Call}

theorem Clock.works_zero (clock : Clock) : clock.Works 0 :=
  fun _ none => absurd none (Nat.not_lt_zero _)

theorem Clock.works_succ_iff :
    clock.Works (count + 1) ↔ (∃ time, clock.tick.1 = .ok time) ∧ clock.tick.2.Works count := by
  constructor
  · intro works
    exact ⟨works.reading, works.tick⟩
  · intro works index within
    obtain ⟨⟨time, first⟩, later⟩ := works
    cases index with
    | zero => exact ⟨time, first⟩
    | succ index =>
        obtain ⟨time, reading⟩ := later index (Nat.lt_of_succ_lt_succ within)
        refine ⟨time, ?_⟩
        rw [Clock.tick_reading, Clock.tick_reads, Nat.add_right_comm] at reading
        exact reading

/-- The last of some readings that all give a time is the one that dates a record. -/
theorem Clock.Works.lastReturned (works : clock.Works (count + 1)) :
    clock.reading (clock.reads + count) = .ok (clock.lastReturned (count + 1)) := by
  obtain ⟨time, reading⟩ := works count (Nat.lt_succ_self count)
  rw [lastReturned_succ, reading]
  rfl

namespace Evaluation

theorem stamp_clock_of_unclocked (unclocked : evaluation.clock = none) (entry : Log.Entry) :
    (evaluation.stamp wall entry).evaluation.clock = none := by
  rw [stamp_evaluation, stamped, unclocked]
  rfl

theorem works_of_stamp {entry : Log.Entry} (unclocked : evaluation.clock = none)
    (unfailed : (evaluation.stamp wall entry).fault = none)
    (works : (evaluation.stamp wall entry).wall.Works count) : wall.Works (count + 1) := by
  rw [stamp_wall_of_unclocked unclocked] at works
  refine Clock.works_succ_iff.mpr ⟨?_, works⟩
  simp only [stamp, unclocked] at unfailed
  cases reading : wall.tick.1 with
  | error fault =>
      rw [reading] at unfailed
      cases unfailed
  | ok time => exact ⟨time, rfl⟩

theorem call_clock_of_unclocked (unclocked : evaluation.clock = none) (call : Call) :
    (evaluation.call wall call).evaluation.clock = none := by
  cases call with
  | block obstacle => exact stamp_clock_of_unclocked (by exact unclocked) _
  | permit grant => exact stamp_clock_of_unclocked (by exact unclocked) _
  | propose candidate => exact unclocked

/-- A call that does not fail has found a clock that works for it. -/
theorem works_of_call {call : Call} (unclocked : evaluation.clock = none)
    (unfailed : (evaluation.call wall call).fault = none)
    (works : (evaluation.call wall call).wall.Works count) :
    wall.Works (count + if call.stamps then 1 else 0) := by
  cases call with
  | block obstacle => exact works_of_stamp (by exact unclocked) unfailed works
  | permit grant => exact works_of_stamp (by exact unclocked) unfailed works
  | propose candidate => exact works

end Evaluation

namespace Change

variable {call : Call}

theorem proceed_clock (unclocked : change.evaluation.clock = none) (call : Call) :
    (change.proceed call).evaluation.clock = none := by
  unfold proceed
  split
  · exact unclocked
  · exact Evaluation.call_clock_of_unclocked unclocked call

theorem unhindered_of_proceed (unclocked : change.evaluation.clock = none)
    (unhindered : (change.proceed call).Unhindered count) :
    change.Unhindered (count + if call.stamps then 1 else 0) := by
  obtain ⟨unfailed, _, works⟩ := unhindered
  cases failed : change.fault with
  | some fault =>
      have stopped : change.proceed call = change := by
        rw [proceed, failed]
        rfl
      rw [stopped, failed] at unfailed
      cases unfailed
  | none =>
      rw [proceed_of_unfailed failed] at unfailed works
      exact ⟨failed, unclocked, Evaluation.works_of_call unclocked unfailed works⟩

/-- Calls by a caller who stops at a failure all succeed just if the clock works for all of them. -/
theorem unhindered_foldl_proceed_iff (unclocked : change.evaluation.clock = none) :
    (calls.foldl Change.proceed change).Unhindered 0 ↔
      change.Unhindered (calls.countP Call.stamps) := by
  refine ⟨fun finish => ?_, fun start => start.foldl_proceed.1⟩
  induction calls generalizing change with
  | nil => exact finish
  | cons call rest ih =>
      rw [List.countP_cons]
      exact unhindered_of_proceed unclocked (ih (proceed_clock unclocked call) finish)

theorem foldl_proceed_clock (unclocked : change.evaluation.clock = none) :
    (calls.foldl Change.proceed change).evaluation.clock = none := by
  induction calls generalizing change with
  | nil => exact unclocked
  | cons call rest ih => exact ih (proceed_clock unclocked call)

end Change

/-- A fresh record and the wall clock after calls by a caller who goes on. -/
theorem Evaluation.foldl_resume_told (trigger : Trigger) (clock : Option Clock) (wall : Clock)
    (calls : List Call) :
    let change := calls.foldl Change.resume { evaluation := { trigger, clock }, wall }
    change.evaluation = told trigger clock wall calls ∧
      (clock = none → change.wall = wall.after (Call.facts calls).length) := by
  induction calls using List.reverseRecOn with
  | nil => exact ⟨told_nil.symm, fun _ => rfl⟩
  | append_singleton before last ih =>
      obtain ⟨record, left⟩ := ih
      rw [List.foldl_append, List.foldl_cons, List.foldl_nil, Change.resume, record]
      exact call_told left last

end Calls

theorem ObstacleSet.size_ofList (obstacles : List Obstacle) :
    (ofList obstacles).size = obstacles.dedup.length := by
  apply List.Perm.length_eq
  apply (List.perm_ext_iff_of_nodup (nodup_toList _) obstacles.nodup_dedup).mpr
  intro obstacle
  rw [mem_toList, mem_ofList, List.mem_dedup]

namespace Verdict

variable {verdict : Verdict} {trigger : Trigger} {candidate : Option Candidate} {wall : Clock}

/-- The verdict allows data exactly if it upholds no obstacle, and upholds no grant beside one. -/
structure IsConsistent (verdict : Verdict) : Prop where
  allowed_iff : verdict.allowed = true ↔ verdict.obstacles = ∅
  grant_eq : verdict.obstacles ≠ ∅ → verdict.grant = .none

theorem length_facts_calls (verdict : Verdict) (candidate : Option Candidate) :
    (Call.facts (verdict.calls candidate)).length = verdict.stamps := by
  rw [Call.facts, ← List.countP_eq_length_filter, countP_stamps_calls]

theorem proposals_calls (verdict : Verdict) (candidate : Option Candidate) :
    ((verdict.calls candidate).filterMap Call.proposal?).getLast?.join = candidate := by
  have permits (grants : List Grant) : (grants.map Call.permit).filterMap Call.proposal? = [] := by
    simp [Call.proposal?]
  have blocks (obstacles : List Obstacle) :
      (obstacles.map Call.block).filterMap Call.proposal? = [] := by
    simp [Call.proposal?]
  rw [calls_eq, List.filterMap_append, List.filterMap_append, permits, blocks]
  cases candidate <;> rfl

theorem fault_replay_eq_none_iff (trigger : Trigger) (candidate : Option Candidate) :
    (verdict.replay trigger candidate wall).fault = none ↔ wall.Works verdict.stamps := by
  have start : (verdict.replay trigger candidate wall).Unhindered 0 ↔
      Change.Unhindered { evaluation := { trigger }, wall } verdict.stamps := by
    rw [← countP_stamps_calls verdict candidate]
    exact Change.unhindered_foldl_proceed_iff rfl
  constructor
  · intro unfailed
    exact (start.mp ⟨unfailed, Change.foldl_proceed_clock rfl, Clock.works_zero _⟩).works
  · intro works
    exact (start.mpr ⟨rfl, rfl, works⟩).unfailed

theorem replay_told (works : wall.Works verdict.stamps) :
    (verdict.replay trigger candidate wall).evaluation =
        .told trigger none wall (verdict.calls candidate) ∧
      (verdict.replay trigger candidate wall).wall = wall.after verdict.stamps := by
  have start : Change.Unhindered { evaluation := { trigger }, wall }
      ((verdict.calls candidate).countP Call.stamps) := by
    rw [countP_stamps_calls]
    exact ⟨rfl, rfl, works⟩
  obtain ⟨record, left⟩ := Evaluation.foldl_resume_told trigger none wall (verdict.calls candidate)
  rw [replay, start.foldl_proceed.2, record, left rfl, length_facts_calls]
  exact ⟨rfl, rfl⟩

theorem isConsistent_resolve (obstacles : List Obstacle) (grants : List Grant) :
    (resolve obstacles grants).IsConsistent := by
  by_cases permits : Permits obstacles grants
  · rw [resolve_of_permits permits]
    exact ⟨iff_of_true rfl rfl, fun obstructed => absurd rfl obstructed⟩
  · rw [resolve_of_not_permits permits]
    exact ⟨iff_of_false Bool.false_ne_true (ofList_ne_empty_of_not_permits permits), fun _ => rfl⟩

/-- A decision on the verdict's obstacles, and on its grant if there are none, is the verdict's own
just if the verdict is consistent. -/
theorem matches_iff_isConsistent {decision : Decision}
    (obstacles : decision.obstacles = verdict.obstacles)
    (grant : decision.grant = if verdict.obstacles = ∅ then verdict.grant else .none) :
    decision.Matches verdict ↔ verdict.IsConsistent := by
  have allowed : decision.isAllowed = verdict.allowed ↔
      (verdict.allowed = true ↔ verdict.obstacles = ∅) := by
    rw [Bool.eq_iff_iff, Decision.isAllowed, ObstacleSet.isEmpty_iff, obstacles]
    exact iff_comm
  have same : decision.grant = verdict.grant ↔
      (verdict.obstacles ≠ ∅ → verdict.grant = .none) := by
    rw [grant]
    split
    · next clear => exact iff_of_true rfl fun obstructed => absurd clear obstructed
    · next obstructed => exact ⟨fun same _ => same.symm, fun absent => (absent obstructed).symm⟩
  constructor
  · intro agrees
    exact ⟨allowed.mp agrees.1, same.mp agrees.2.2⟩
  · intro consistent
    exact ⟨allowed.mpr consistent.allowed_iff, obstacles, same.mpr consistent.grant_eq⟩

/-- What a record tells of a verdict on the obstacles of this list, and what writing it has read
from the wall clock: the last of these readings is the time of the record. -/
structure WrittenAs (verdict : Verdict) (listed : List Obstacle) (trigger : Trigger)
    (candidate : Option Candidate) (wall : Clock) (readings : Nat) (written : Evaluation) :
    Prop where
  trigger : written.trigger = trigger
  obstacles : ∀ obstacle, obstacle ∈ written.decision.obstacles ↔ obstacle ∈ listed
  grant : written.decision.grant = if listed = [] then verdict.grant else .none
  candidate : written.candidate = candidate
  undated : readings = 0 → written.evaluatedMs = 0
  dated : ∀ before, readings = before + 1 →
    wall.reading (wall.reads + before) = .ok written.evaluatedMs
  matches_iff : written.decision.Matches verdict ↔ verdict.IsConsistent

theorem writtenAs_replay {listed : List Obstacle} (works : wall.Works verdict.stamps)
    (lists : verdict.obstacles = ObstacleSet.ofList listed) :
    verdict.WrittenAs listed trigger candidate wall verdict.stamps
      (verdict.replay trigger candidate wall).evaluation := by
  have decided := (verdict.replay_of_works trigger candidate works).2
  have obstacles := congrArg Decision.obstacles decided
  have grant := congrArg Decision.grant decided
  rw [foldl_calls_obstacles] at obstacles
  rw [foldl_calls_grant] at grant
  have time : (verdict.replay trigger candidate wall).evaluation.evaluatedMs =
      wall.lastReturned verdict.stamps := by
    rw [(replay_told works).1, Evaluation.told, length_facts_calls]
    rfl
  constructor
  · rw [(replay_told works).1]
    rfl
  · intro obstacle
    rw [obstacles, lists, ObstacleSet.mem_ofList]
  · rw [grant, lists]
    simp only [ObstacleSet.ofList_eq_empty_iff]
  · rw [(replay_told works).1]
    exact verdict.proposals_calls candidate
  · intro none
    rw [time, none]
    rfl
  · intro before counted
    rw [time, counted]
    rw [counted] at works
    exact works.lastReturned
  · exact matches_iff_isConsistent obstacles grant

theorem record_eq_ok_iff {world : World} {written : Evaluation} :
    (verdict.record trigger candidate world).result = .ok written ↔
      world.wall.Works verdict.stamps ∧
        written = (verdict.replay trigger candidate world.wall).evaluation := by
  rw [← fault_replay_eq_none_iff trigger candidate]
  simp only [record]
  cases (verdict.replay trigger candidate world.wall).fault with
  | none => simp [eq_comm]
  | some fault => simp

/-- Any verdict, whether its fields agree or not and however its obstacles are listed, is written
into a record exactly if the wall clock gives a time for each reading: one for a grant, if there is
one, and one for each obstacle. The record is of the given trigger and candidate and holds the
obstacles, or else the grant, so it says what the verdict says exactly if the verdict is consistent,
as those are that come of resolving facts. -/
theorem record_tells_of_verdict (allowed : Bool) (listed : List Obstacle) (grant : Grant)
    (overridden : List Obstacle) (trigger : Trigger) (candidate : Option Candidate)
    (world : World) :
    let verdict : Verdict :=
      { allowed, obstacles := .ofList listed, grant, overridden := .ofList overridden }
    let outcome := verdict.record trigger candidate world
    let readings := (if grant = .none then 0 else 1) + listed.dedup.length
    ((∃ written, outcome.result = .ok written) ↔ world.wall.Works readings) ∧
      (∀ written, outcome.result = .ok written →
        verdict.WrittenAs listed trigger candidate world.wall readings written ∧
          outcome.world = { world with wall := world.wall.after readings }) ∧
      ∀ obstacles grants, (resolve obstacles grants).IsConsistent := by
  intro verdict outcome readings
  have stamps : verdict.stamps = readings := by
    rw [Verdict.stamps, ObstacleSet.size_ofList]
  rw [← stamps]
  refine ⟨?_, ?_, isConsistent_resolve⟩
  · constructor
    · intro records
      obtain ⟨written, done⟩ := records
      exact (record_eq_ok_iff.mp done).1
    · intro works
      exact ⟨_, record_eq_ok_iff.mpr ⟨works, rfl⟩⟩
  · intro written done
    obtain ⟨works, rfl⟩ := record_eq_ok_iff.mp done
    refine ⟨writtenAs_replay works rfl, ?_⟩
    change { world with wall := (verdict.replay trigger candidate world.wall).wall } = _
    rw [(replay_told works).2]

/-- A verdict that allows data in spite of two obstacles and beside a grant. Its record takes three
readings, the last that this clock has to give, and does not say what the verdict says; the empty
text is a candidate. -/
theorem record_tells_of_verdict_at_odds :
    let listed : List Obstacle := [.simNotReady, .dataDisabled, .simNotReady]
    let verdict : Verdict :=
      { allowed := true, obstacles := .ofList listed, grant := .emergency
        overridden := .ofList [] }
    let wall := Clock.ofReadings (.ok 5) [.ok 7, .ok 9, .error .stopped]
    let world : World :=
      { loader := Dotenv.loader, environment := .ofList [], dotenv := "", level := .debug, wall }
    let outcome := verdict.record .simLoaded (some (.text "")) world
    outcome.world.wall.reads = 3 ∧
      ∃ written, outcome.result = .ok written ∧ written.evaluatedMs = 9 ∧
        written.decision.grant = .none ∧ written.candidate = some (.text "") ∧
        ¬ written.decision.Matches verdict := by
  intro listed verdict wall world outcome
  obtain ⟨records, tells, _⟩ := record_tells_of_verdict true listed .emergency [] .simLoaded
    (some (.text "")) world
  have works : wall.Works 3 := by
    intro index within
    match index, within with
    | 0, _ => exact ⟨5, rfl⟩
    | 1, _ => exact ⟨7, rfl⟩
    | 2, _ => exact ⟨9, rfl⟩
  obtain ⟨written, done⟩ := records.mpr works
  obtain ⟨record, left⟩ := tells written done
  have reads : outcome.world.wall.reads = 3 := congrArg (fun world => world.wall.reads) left
  have last : Except.ok (9 : Int) = Except.ok written.evaluatedMs := record.dated 2 rfl
  refine ⟨reads, written, done, (Except.ok.inj last).symm, record.grant, record.candidate, ?_⟩
  intro agrees
  have clear := (record.matches_iff.mp agrees).allowed_iff.mp rfl
  exact absurd clear (by decide +kernel)

end Verdict

end DataGate
