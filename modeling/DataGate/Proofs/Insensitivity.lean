import DataGate.Dotenv
import DataGate.Proofs.Recording
import DataGate.Proofs.Resolve

/-!
The order in which facts are found, and how often, makes no difference to anything that follows from
them. Two verdicts on the same facts are equal. The records that tell of them are written by clocks
in step, which give the same readings from there on; each call on a record keeps clocks in step.
They are published in worlds in step, which are equal but for such clocks.
-/

namespace DataGate

/-- From here on the clocks give the same readings. They may have been read differently before. -/
def Clock.InStep (left right : Clock) : Prop :=
  ∀ index, left.reading (left.reads + index) = right.reading (right.reads + index)

/-- Worlds that are equal or differ only in how their clocks came to give the same readings. -/
structure World.InStep (left right : World) : Prop where
  wall : left.wall.InStep right.wall
  others : right = { left with wall := right.wall }

/-- Outcomes that neither the caller nor a reader of the log can tell apart, now or later on. -/
structure Outcome.InStep {α : Type} (left right : Outcome α) : Prop where
  result : left.result = right.result
  world : left.world.InStep right.world
  issued : left.issued = right.issued

/-- Changes that differ at most in how their clocks came to give the same readings. -/
structure Change.InStep (left right : Change) : Prop where
  evaluation : left.evaluation = right.evaluation
  wall : left.wall.InStep right.wall
  fault : left.fault = right.fault
  entries : left.entries = right.entries

section Steps

variable {left right : Clock} {first second : Change}

theorem Clock.InStep.reading (inStep : left.InStep right) : left.tick.1 = right.tick.1 :=
  inStep 0

theorem Clock.InStep.tick (inStep : left.InStep right) : left.tick.2.InStep right.tick.2 := by
  intro index
  simp only [Clock.tick_reading, Clock.tick_reads, Nat.add_assoc]
  exact inStep (1 + index)

namespace Evaluation

variable (evaluation : Evaluation)

theorem settle_inStep (inStep : left.InStep right) (entry : Log.Entry)
    (reading : Except ClockFault Int) :
    (evaluation.settle left entry reading).InStep (evaluation.settle right entry reading) := by
  cases reading with
  | ok time => exact ⟨rfl, inStep, rfl, rfl⟩
  | error fault => exact ⟨rfl, inStep, rfl, rfl⟩

/-- A record with a clock of its own leaves the wall clock alone. -/
theorem stamp_inStep (inStep : left.InStep right) (entry : Log.Entry) :
    (evaluation.stamp left entry).InStep (evaluation.stamp right entry) := by
  unfold stamp
  split
  · exact settle_inStep _ inStep entry _
  · rw [inStep.reading]
    exact settle_inStep _ inStep.tick entry _

theorem call_inStep (inStep : left.InStep right) (call : Call) :
    (evaluation.call left call).InStep (evaluation.call right call) := by
  cases call with
  | block obstacle => exact stamp_inStep _ inStep _
  | permit grant => exact stamp_inStep _ inStep _
  | propose candidate => exact ⟨rfl, inStep, rfl, rfl⟩

end Evaluation

namespace Change

theorem InStep.resume (inStep : first.InStep second) (call : Call) :
    (first.resume call).InStep (second.resume call) := by
  have next := first.evaluation.call_inStep inStep.wall call
  unfold Change.resume
  rw [← inStep.evaluation, ← inStep.entries]
  exact ⟨next.evaluation, next.wall, next.fault, congrArg (first.entries ++ ·) next.entries⟩

theorem InStep.proceed (inStep : first.InStep second) (call : Call) :
    (first.proceed call).InStep (second.proceed call) := by
  unfold Change.proceed
  rw [inStep.fault]
  split
  · exact inStep
  · exact inStep.resume call

theorem InStep.foldl_proceed (inStep : first.InStep second) (calls : List Call) :
    (calls.foldl Change.proceed first).InStep (calls.foldl Change.proceed second) := by
  induction calls generalizing first second with
  | nil => exact inStep
  | cons call rest ih => exact ih (inStep.proceed call)

end Change

end Steps

section Publication

variable {world other : World}

theorem Settings.obtained_timed (settings : Option Settings) (world : World) (wall : Clock) :
    obtained settings { world with wall } =
      { obtained settings world with world := { (obtained settings world).world with wall } } := by
  have timed : { (obtained settings world).world with wall } =
      (obtained settings world).world.fitted wall world.broken := by
    rw [← obtained_broken settings world]
    rfl
  rw [timed]
  exact obtained_fitted settings world wall world.broken

namespace Evaluation

variable (evaluation : Evaluation)

theorem countUnder_timed (settings : Settings) (world : World) (wall : Clock) :
    evaluation.countUnder settings { world with wall } =
      { evaluation.countUnder settings world with
        world := { (evaluation.countUnder settings world).world with wall } } := by
  unfold countUnder
  split
  · rw [count_apply, count_apply]
    rfl
  · rfl

/-- A publication neither reads the clock nor moves it. -/
theorem publish_timed (settings : Option Settings) (world : World) (wall : Clock) :
    evaluation.publish settings { world with wall } =
      { evaluation.publish settings world with
        world := { (evaluation.publish settings world).world with wall } } := by
  have timed := Settings.obtained_timed settings world wall
  have same := congrArg Outcome.result timed
  cases found : (Settings.obtained settings world).result with
  | error fault =>
      rw [publish_of_error evaluation found, publish_of_error evaluation (same.trans found), timed]
  | ok current =>
      rw [publish_of_ok evaluation found, publish_of_ok evaluation (same.trans found), timed,
        countUnder_timed]
      rfl

theorem publish_inStep (settings : Option Settings) (inStep : world.InStep other) :
    (evaluation.publish settings world).InStep (evaluation.publish settings other) := by
  have wall : (evaluation.publish settings world).world.wall = world.wall :=
    evaluation.keeps_publish (fun _ _ => rfl) (fun _ _ => rfl) (fun _ _ => rfl) (fun _ _ => rfl)
      (fun _ _ => rfl) settings world
  rw [inStep.others, evaluation.publish_timed settings world other.wall]
  refine ⟨rfl, ⟨?_, rfl⟩, rfl⟩
  rw [wall]
  exact inStep.wall

end Evaluation

end Publication

namespace Verdict

variable {obstacles otherObstacles : List Obstacle} {grants otherGrants : List Grant}

theorem replay_inStep (verdict : Verdict) (trigger : Trigger) (candidate : Option Candidate)
    {left right : Clock} (inStep : left.InStep right) :
    (verdict.replay trigger candidate left).InStep (verdict.replay trigger candidate right) := by
  have start : Change.InStep { evaluation := { trigger }, wall := left }
      { evaluation := { trigger }, wall := right } := ⟨rfl, inStep, rfl, rfl⟩
  exact start.foldl_proceed (verdict.calls candidate)

/-- What two attempts to write a record have in common: both succeed or both fail, for the same
reason and with the same entries, and the records that they write agree in decision and in time and
are not told apart by publishing them. -/
structure WroteAlike (left right : Outcome Evaluation) : Prop where
  result : left.result = right.result
  entries : left.issued.map Log.Issue.entry = right.issued.map Log.Issue.entry
  wall : left.world.wall.InStep right.world.wall
  records : ∀ first second, left.result = .ok first → right.result = .ok second →
    first.decision = second.decision ∧ first.evaluatedMs = second.evaluatedMs ∧
      ∀ settings (world other : World), world.InStep other →
        (first.publish settings world).InStep (second.publish settings other)

theorem record_wroteAlike (verdict : Verdict) (trigger : Trigger) (candidate : Option Candidate)
    {left right : World} (inStep : left.wall.InStep right.wall) :
    WroteAlike (verdict.record trigger candidate left)
      (verdict.record trigger candidate right) := by
  have replayed := verdict.replay_inStep trigger candidate inStep
  have result : (verdict.record trigger candidate left).result =
      (verdict.record trigger candidate right).result := by
    simp only [record, replayed.fault, replayed.evaluation]
  refine ⟨result, ?_, replayed.wall, ?_⟩
  · simp only [record, List.map_map, replayed.entries]
    rfl
  · intro first second written writtenOther
    have same : first = second := by
      rw [written, writtenOther] at result
      exact Except.ok.inj result
    subst same
    exact ⟨rfl, rfl, fun settings _ _ inStep => first.publish_inStep settings inStep⟩

theorem reach_congr
    (sameObstacles : ∀ obstacle, obstacle ∈ obstacles ↔ obstacle ∈ otherObstacles)
    (sameGrants : ∀ grant, grant ∈ grants ↔ grant ∈ otherGrants) :
    reach obstacles grants = reach otherObstacles otherGrants := by
  unfold reach
  rw [resolve_congr sameObstacles sameGrants]

end Verdict

namespace Session

variable {first second : Operation}

/-- Operations that do the same in every session may take each other's place in any run. -/
theorem performAll_replace
    (same : ∀ session : Session, session.perform first = session.perform second)
    (session : Session) (before after : List Operation) :
    session.performAll (before ++ first :: after) =
      session.performAll (before ++ second :: after) := by
  induction before generalizing session with
  | nil => simp only [List.nil_append, performAll, same]
  | cons operation rest ih => simp only [List.cons_append, performAll, ih]

end Session

namespace Verdict

/-- The order and the number of the facts make no difference to the verdict, to the entry that tells
of it, to the record made from it or the publication of that record, or to anything that happens in
a run in which the verdict is reached. -/
theorem order_immaterial {obstacles otherObstacles : List Obstacle}
    {grants otherGrants : List Grant}
    (sameObstacles : ∀ obstacle, obstacle ∈ obstacles ↔ obstacle ∈ otherObstacles)
    (sameGrants : ∀ grant, grant ∈ grants ↔ grant ∈ otherGrants) :
    resolve obstacles grants = resolve otherObstacles otherGrants ∧
      (∃ entry : Log.Entry, entry.level = .debug ∧ ∀ world,
        (reach obstacles grants world).issued = [world.issue entry] ∧
          (reach otherObstacles otherGrants world).issued = [world.issue entry]) ∧
      (∀ trigger candidate (left right : World), left.wall.InStep right.wall →
        WroteAlike ((resolve obstacles grants).record trigger candidate left)
          ((resolve otherObstacles otherGrants).record trigger candidate right)) ∧
      ∀ (session : Session) before after,
        session.performAll (before ++ .resolve obstacles grants :: after) =
          session.performAll (before ++ .resolve otherObstacles otherGrants :: after) := by
  have same := resolve_congr sameObstacles sameGrants
  have sameReach := reach_congr sameObstacles sameGrants
  refine ⟨same, ⟨(resolve obstacles grants).resolvedEntry, rfl, fun world => ⟨rfl, ?_⟩⟩, ?_, ?_⟩
  · rw [← sameReach]
    rfl
  · intro trigger candidate left right inStep
    rw [← same]
    exact record_wroteAlike _ trigger candidate inStep
  · intro session before after
    refine Session.performAll_replace (fun session => ?_) session before after
    simp only [Session.perform, sameReach]

/-- Two clocks, one of which has been read before, time the obstacles of a shuffled list alike. -/
theorem order_immaterial_shuffled :
    let obstacles : List Obstacle := [.dataDisabled, .simNotReady]
    let shuffled : List Obstacle := [.simNotReady, .dataDisabled, .simNotReady]
    let start (wall : Clock) : World :=
      { loader := Dotenv.loader, environment := .ofList [], dotenv := "", level := .debug, wall }
    let left := start (.ofReadings (.ok 5) [.ok 7])
    let right := start { Clock.ofReadings (.error .stopped) [.ok 5, .ok 7] with reads := 1 }
    WroteAlike ((resolve obstacles [.emergency, .normal]).record .simLoaded none left)
        ((resolve shuffled [.normal, .emergency]).record .simLoaded none right) ∧
      ((resolve obstacles [.emergency, .normal]).record .simLoaded none left).result.toOption.map
        (·.evaluatedMs) = some 7 := by
  intro obstacles shuffled start left right
  have sameObstacles (obstacle : Obstacle) : obstacle ∈ obstacles ↔ obstacle ∈ shuffled := by
    cases obstacle <;> decide
  have sameGrants (grant : Grant) :
      grant ∈ [Grant.emergency, .normal] ↔ grant ∈ [Grant.normal, .emergency] := by
    cases grant <;> decide
  have inStep : left.wall.InStep right.wall := by
    intro index
    have leftIndex : left.wall.reads + index = index := Nat.zero_add index
    have rightIndex : right.wall.reads + index = index + 1 := Nat.add_comm 1 index
    rw [leftIndex, rightIndex]
    rfl
  obtain ⟨_, _, wroteAlike, _⟩ := order_immaterial sameObstacles sameGrants
  exact ⟨wroteAlike .simLoaded none left right inStep, by decide +kernel⟩

end Verdict

end DataGate
