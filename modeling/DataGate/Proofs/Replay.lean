import DataGate.Proofs.Agreement

namespace DataGate

/-- The next readings, this many of them, all give a time. -/
def Clock.Works (clock : Clock) (count : Nat) : Prop :=
  ∀ index < count, ∃ time, clock.reading (clock.reads + index) = .ok time

/-- Whether a call stamps its record. -/
def Call.stamps : Call → Bool
  | .block _ | .permit _ => true
  | .propose _ => false

/-- How often a replay of the verdict stamps its record. -/
def Verdict.stamps (verdict : Verdict) : Nat :=
  (if verdict.grant = .none then 0 else 1) + verdict.obstacles.size

/-- No call has failed, and the wall clock will stamp the record that often. -/
structure Change.Unhindered (change : Change) (count : Nat) : Prop where
  unfailed : change.fault = none
  unclocked : change.evaluation.clock = none
  works : change.wall.Works count

section Calls

variable {clock wall : Clock} {count : Nat} {evaluation : Evaluation} {change : Change}

theorem Clock.Works.reading (works : clock.Works (count + 1)) : ∃ time, clock.tick.1 = .ok time :=
  works 0 (Nat.succ_pos count)

theorem Clock.Works.tick (works : clock.Works (count + 1)) : clock.tick.2.Works count := by
  intro index within
  obtain ⟨time, reading⟩ := works (index + 1) (Nat.succ_lt_succ within)
  refine ⟨time, ?_⟩
  rw [Clock.tick_reading, Clock.tick_reads, Nat.add_right_comm, Nat.add_assoc]
  exact reading

theorem Evaluation.stamp_unhindered (evaluation : Evaluation) (unclocked : evaluation.clock = none)
    (works : wall.Works (count + 1)) (entry : Log.Entry) :
    (evaluation.stamp wall entry).Unhindered count := by
  obtain ⟨time, reading⟩ := works.reading
  have stamped : evaluation.stamp wall entry =
      { evaluation := { evaluation with evaluatedMs := time }
        wall := wall.tick.2
        entries := [entry] } := by
    simp only [stamp, unclocked, reading, settle]
  rw [stamped]
  exact ⟨rfl, unclocked, works.tick⟩

theorem Evaluation.call_unhindered (unclocked : evaluation.clock = none) (call : Call)
    (works : wall.Works (count + if call.stamps then 1 else 0)) :
    (evaluation.call wall call).Unhindered count := by
  cases call with
  | block obstacle =>
      have stampable : wall.Works (count + 1) := works
      refine stamp_unhindered _ ?_ stampable _
      exact unclocked
  | permit grant =>
      have stampable : wall.Works (count + 1) := works
      refine stamp_unhindered _ ?_ stampable _
      exact unclocked
  | propose candidate => exact ⟨rfl, unclocked, works⟩

namespace Change

theorem proceed_of_unfailed (unfailed : change.fault = none) (call : Call) :
    change.proceed call = change.resume call := by
  unfold proceed
  rw [unfailed]
  rfl

theorem Unhindered.proceed {call : Call}
    (unhindered : change.Unhindered (count + if call.stamps then 1 else 0)) :
    (change.proceed call).Unhindered count := by
  have next := Evaluation.call_unhindered unhindered.unclocked call unhindered.works
  rw [proceed_of_unfailed unhindered.unfailed]
  exact ⟨next.unfailed, next.unclocked, next.works⟩

/-- While no call fails, it makes no difference whether the caller would go on after a failure. -/
theorem Unhindered.foldl_proceed {calls : List Call}
    (unhindered : change.Unhindered (calls.countP Call.stamps)) :
    (calls.foldl Change.proceed change).Unhindered 0 ∧
      calls.foldl Change.proceed change = calls.foldl Change.resume change := by
  induction calls generalizing change with
  | nil => exact ⟨unhindered, rfl⟩
  | cons call rest ih =>
      rw [List.countP_cons] at unhindered
      -- What is left of the clock after the first call suffices for the others.
      rw [List.foldl_cons, List.foldl_cons, ← proceed_of_unfailed unhindered.unfailed]
      exact ih unhindered.proceed

end Change

end Calls

namespace Verdict

variable (verdict : Verdict) (trigger : Trigger) (candidate : Option Candidate)

/-- The grant of a verdict as the facts that a record is told. -/
def granted : List Grant :=
  if verdict.grant = .none then [] else [verdict.grant]

theorem calls_eq :
    verdict.calls candidate =
      verdict.granted.map Call.permit ++ verdict.obstacles.toList.map Call.block ++
        if candidate.isSome then [.propose candidate] else [] := by
  unfold calls granted
  split <;> rfl

theorem countP_stamps_calls :
    (verdict.calls candidate).countP Call.stamps = verdict.stamps := by
  have blocks (obstacles : List Obstacle) :
      (obstacles.map Call.block).countP Call.stamps = obstacles.length := by
    rw [List.countP_map]
    exact congrFun List.countP_true obstacles
  have proposals :
      (if candidate.isSome then [Call.propose candidate] else []).countP Call.stamps = 0 := by
    split <;> rfl
  have permits : (verdict.granted.map Call.permit).countP Call.stamps =
      if verdict.grant = .none then 0 else 1 := by
    unfold granted
    split <;> rfl
  rw [calls_eq, List.countP_append, List.countP_append, permits, blocks, proposals]
  rfl

theorem foldl_calls (decision : Decision) :
    (verdict.calls candidate).foldl Decision.apply decision =
      (verdict.granted.map Call.permit ++ verdict.obstacles.toList.map Call.block).foldl
        Decision.apply decision := by
  rw [calls_eq, List.foldl_append]
  split <;> rfl

theorem foldl_calls_obstacles :
    ((verdict.calls candidate).foldl Decision.apply .undecided).obstacles = verdict.obstacles := by
  rw [foldl_calls, obstaclesLast_obstacles, ObstacleSet.ofList_toList]

/-- The grant is told first, so it lasts only if no obstacle follows. -/
theorem foldl_calls_grant :
    ((verdict.calls candidate).foldl Decision.apply .undecided).grant =
      if verdict.obstacles = ∅ then verdict.grant else .none := by
  rw [foldl_calls, List.foldl_append]
  split
  · next clear =>
      have unblocked : verdict.obstacles.toList = [] := by
        rw [clear]
        rfl
      have strongest : verdict.granted.foldl Grant.join .none = verdict.grant := by
        unfold granted
        cases verdict.grant <;> rfl
      rw [unblocked, List.map_nil, List.foldl_nil, Decision.foldl_permit_grant]
      exact strongest
  · next obstructed =>
      apply Decision.foldl_block_grant
      intro unblocked
      exact obstructed (ObstacleSet.toList_inj.mp unblocked)

theorem replay_of_works {wall : Clock} (works : wall.Works verdict.stamps) :
    (verdict.replay trigger candidate wall).fault = none ∧
      (verdict.replay trigger candidate wall).evaluation.decision =
        (verdict.calls candidate).foldl Decision.apply .undecided := by
  rw [← verdict.countP_stamps_calls candidate] at works
  have start : Change.Unhindered { evaluation := { trigger }, wall }
      ((verdict.calls candidate).countP Call.stamps) := ⟨rfl, rfl, works⟩
  obtain ⟨finish, resumed⟩ := start.foldl_proceed
  refine ⟨finish.unfailed, ?_⟩
  rw [replay, resumed]
  exact Evaluation.foldl_resume_decision _ _

/-- As long as the wall clock works, a replay gives a record, and the record holds what the verdict
upholds. -/
theorem record_of_works {world : World} (works : world.wall.Works verdict.stamps) :
    ∃ written, (verdict.record trigger candidate world).result = .ok written ∧
      written.decision.obstacles = verdict.obstacles ∧
      written.decision.grant = if verdict.obstacles = ∅ then verdict.grant else .none := by
  obtain ⟨unfailed, decided⟩ := verdict.replay_of_works trigger candidate works
  refine ⟨(verdict.replay trigger candidate world.wall).evaluation, ?_, ?_, ?_⟩
  · simp only [record, unfailed]
  · rw [decided, foldl_calls_obstacles]
  · rw [decided, foldl_calls_grant]

end Verdict

end DataGate
