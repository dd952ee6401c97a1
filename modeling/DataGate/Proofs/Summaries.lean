import DataGate.Proofs.DeclaredOrder
import DataGate.Proofs.LastWriter
import DataGate.Proofs.Timestamp
import DataGate.Proofs.Wording

namespace DataGate

open Text Vocabulary

/-- What a summary says was found: a grant, or obstacles. -/
inductive Finding
  | grant (grant : Grant)
  | obstacles (listed : List Obstacle)
  deriving DecidableEq, Repr

/-- A summary taken apart. -/
structure Summary where
  trigger : Trigger
  finding : Finding
  candidate : String
  time : String
  deriving DecidableEq, Repr

def Finding.read? (text : List Char) : Option Finding :=
  match after? "Data allowed reason: " text with
  | some rest => (ofName? (String.ofList rest)).map .grant
  | none => do
      let names ← after? "Data disallowed reasons: " text
      let listed ← wordsApart? ' ' names
      return .obstacles listed

theorem after?_allowed_disallowed (rest : List Char) :
    after? "Data allowed reason: " ("Data disallowed reasons: ".toList ++ rest) = none := rfl

namespace Summary

/-- Takes the end of a summary apart, by the width that a time has. -/
def readEnd? (text : List Char) : Option (String × String) := do
  let (shown, time) := text.splitAt (text.length - Stamp.shape.length)
  let candidate ← shown.dropSuffix? ", time=".toList
  return (String.ofList candidate, String.ofList time)

theorem readEnd?_append {candidate time : String}
    (wide : time.toList.length = Stamp.shape.length) :
    readEnd? (candidate.toList ++ (", time=".toList ++ time.toList)) = some (candidate, time) := by
  have front : (candidate.toList ++ ", time=".toList).dropSuffix? ", time=".toList =
      some candidate.toList :=
    List.dropSuffix?_eq_some_iff.mpr ⟨_, rfl, beq_self_eq_true _⟩
  have width : ((candidate.toList ++ ", time=".toList) ++ time.toList).length -
      Stamp.shape.length = (candidate.toList ++ ", time=".toList).length := by
    rw [List.length_append, wide, Nat.add_sub_cancel]
  rw [← List.append_assoc, readEnd?, width, List.splitAt_eq, List.take_left, List.drop_left]
  simp only [front, Option.bind_eq_bind, Option.bind_some, String.ofList_toList]
  rfl

def read? (text : List Char) : Option Summary := do
  let rest ← after? "Data evaluation: evaluation reason:" text
  let (trigger, rest) ← wordBefore? ',' rest
  let rest ← after? ", " rest
  let (found, rest) := cut ',' rest
  let finding ← Finding.read? found
  let rest ← after? ", candidate profile=" rest
  let (candidate, time) ← readEnd? rest
  return { trigger, finding, candidate, time }

end Summary

namespace Evaluation

variable {evaluation left right : Evaluation} {zone otherZone : Zone} {text time : String}

/-- What a summary is to say that the evaluation has found. -/
def finding (evaluation : Evaluation) : Finding :=
  if evaluation.decision.isAllowed then .grant evaluation.decision.grant
  else .obstacles evaluation.decision.obstacles.toList

/-- The parts of the evaluation's summary if it shows this time. -/
def summaryParts (evaluation : Evaluation) (time : String) : Summary where
  trigger := evaluation.trigger
  finding := evaluation.finding
  candidate := evaluation.shownCandidate
  time

theorem finding_of_allowed (allowed : evaluation.decision.isAllowed = true) :
    evaluation.finding = .grant evaluation.decision.grant :=
  if_pos allowed

theorem finding_of_blocked (blocked : ¬ evaluation.decision.isAllowed = true) :
    evaluation.finding = .obstacles evaluation.decision.obstacles.toList :=
  if_neg blocked

theorem findings_of_allowed (allowed : evaluation.decision.isAllowed = true) :
    evaluation.findings.toList =
      "Data allowed reason: ".toList ++ evaluation.decision.grant.name.toList := by
  rw [findings, if_pos allowed, String.toList_append]

theorem findings_of_blocked (blocked : ¬ evaluation.decision.isAllowed = true) :
    evaluation.findings.toList =
      "Data disallowed reasons:".toList ++
        evaluation.decision.obstacles.toList.flatMap (' ' :: ·.name.toList) := by
  rw [findings, if_neg blocked, String.toList_append, String.toList_join, ObstacleSet.names,
    List.map_map, List.flatMap_map]
  simp only [Function.comp_apply, String.toList_append]
  rfl

/-- Between the names of obstacles stands one blank. -/
theorem findings_of_blocked_apart (blocked : ¬ evaluation.decision.isAllowed = true) :
    evaluation.findings.toList =
      "Data disallowed reasons: ".toList ++
        [' '].intercalate (evaluation.decision.obstacles.toList.map (·.name.toList)) := by
  have names : evaluation.decision.obstacles.toList.map (·.name.toList) ≠ [] :=
    mt List.map_eq_nil_iff.mp (mt Decision.isAllowed_iff.mpr blocked)
  have heading :
      "Data disallowed reasons: ".toList = "Data disallowed reasons:".toList ++ [' '] := by
    decide +kernel
  rw [findings_of_blocked blocked, ← List.flatMap_map, flatMap_cons_eq_intercalate names, heading,
    List.append_assoc, List.singleton_append]

/-- Names hold no mark, so the marks of what was found are those of its headings, and blanks. -/
theorem not_mem_findings (evaluation : Evaluation) {mark : Char} (marks : isLetter mark = false)
    (unblank : mark ≠ ' ') (ofGrant : mark ∉ "Data allowed reason: ".toList)
    (ofObstacles : mark ∉ "Data disallowed reasons:".toList) :
    mark ∉ evaluation.findings.toList := by
  by_cases allowed : evaluation.decision.isAllowed = true
  · have grant : mark ∉ evaluation.decision.grant.name.toList :=
      not_mem_of_isPlain evaluation.decision.grant.isPlain_name marks
    rw [findings_of_allowed allowed, List.mem_append, not_or]
    exact ⟨ofGrant, grant⟩
  · have obstacle (obstacle : Obstacle) : mark ∉ obstacle.name.toList :=
      not_mem_of_isPlain obstacle.isPlain_name marks
    rw [findings_of_blocked allowed, List.mem_append, not_or]
    exact ⟨ofObstacles, by simp [unblank, obstacle]⟩

theorem comma_not_mem_findings (evaluation : Evaluation) : ',' ∉ evaluation.findings.toList :=
  evaluation.not_mem_findings rfl (by decide) (by decide) (by decide)

theorem finding_read?_findings (evaluation : Evaluation) :
    Finding.read? evaluation.findings.toList = some evaluation.finding := by
  by_cases allowed : evaluation.decision.isAllowed = true
  · have read : ofName? (String.ofList evaluation.decision.grant.name.toList) =
        some evaluation.decision.grant := by
      rw [String.ofList_toList]
      exact ofName?_name evaluation.decision.grant
    rw [findings_of_allowed allowed, Finding.read?, after?_append, finding_of_allowed allowed]
    simp only [read, Option.map_some]
  · have read : wordsApart? ' '
        ([' '].intercalate (evaluation.decision.obstacles.toList.map (·.name.toList))) =
          some evaluation.decision.obstacles.toList :=
      wordsApart?_intercalate Obstacle.isPlain_name rfl (mt Decision.isAllowed_iff.mpr allowed)
    rw [findings_of_blocked_apart allowed, Finding.read?, after?_allowed_disallowed,
      finding_of_blocked allowed]
    simp only [after?_append, Option.bind_eq_bind, Option.bind_some, read]
    rfl

theorem toList_summaryAt (evaluation : Evaluation) (time : String) :
    (evaluation.summaryAt time).toList =
      "Data evaluation: evaluation reason:".toList ++ (evaluation.trigger.name.toList ++
        (", ".toList ++ (evaluation.findings.toList ++ (", candidate profile=".toList ++
          (evaluation.shownCandidate.toList ++ (", time=".toList ++ time.toList)))))) := by
  unfold summaryAt
  generalize evaluation.trigger.name = trigger
  generalize evaluation.findings = findings
  generalize evaluation.shownCandidate = candidate
  simp only [String.toList_append, List.append_assoc]

theorem read?_summaryAt (wide : time.toList.length = Stamp.shape.length) :
    Summary.read? (evaluation.summaryAt time).toList = some (evaluation.summaryParts time) := by
  rw [toList_summaryAt, Summary.read?, after?_append]
  simp only [Option.bind_eq_bind, Option.bind_some]
  rw [evaluation.trigger.wordBefore?_comma rfl]
  simp only [Option.bind_some]
  rw [after?_append]
  simp only [Option.bind_some]
  rw [cut_append evaluation.comma_not_mem_findings rfl]
  simp only [finding_read?_findings, Option.bind_some]
  rw [after?_append]
  simp only [Option.bind_some, Summary.readEnd?_append wide]
  rfl

theorem length_of_render {millis : Int} (rendered : EvaluationTime.render millis zone = .ok time) :
    time.toList.length = Stamp.shape.length := by
  rw [EvaluationTime.toList_of_render rendered]
  exact (Stamp.render_fits _).length_eq.symm

theorem summary_eq_ok_iff :
    evaluation.summary zone = .ok text ↔
      ∃ time, EvaluationTime.render evaluation.evaluatedMs zone = .ok time ∧
        text = evaluation.summaryAt time := by
  cases rendered : EvaluationTime.render evaluation.evaluatedMs zone <;>
    simp [summary, rendered, Except.map, eq_comm]

theorem exists_read?_of_summary (shown : evaluation.summary zone = .ok text) :
    ∃ time, EvaluationTime.render evaluation.evaluatedMs zone = .ok time ∧
      Summary.read? text.toList = some (evaluation.summaryParts time) := by
  obtain ⟨time, rendered, rfl⟩ := summary_eq_ok_iff.mp shown
  exact ⟨time, rendered, read?_summaryAt (length_of_render rendered)⟩

/-- A finding shows either the grant or the obstacles, but a decision that holds the one holds none
of the other. -/
theorem decision_eq_of_finding_eq (same : left.finding = right.finding) :
    left.decision = right.decision := by
  by_cases allowed : left.decision.isAllowed = true
  · rw [finding_of_allowed allowed] at same
    by_cases otherAllowed : right.decision.isAllowed = true
    · rw [finding_of_allowed otherAllowed] at same
      have clear := ObstacleSet.isEmpty_iff.mp allowed
      have otherClear := ObstacleSet.isEmpty_iff.mp otherAllowed
      exact Decision.ext (clear.trans otherClear.symm) (Finding.grant.inj same)
    · rw [finding_of_blocked otherAllowed] at same
      cases same
  · rw [finding_of_blocked allowed] at same
    by_cases otherAllowed : right.decision.isAllowed = true
    · rw [finding_of_allowed otherAllowed] at same
      cases same
    · rw [finding_of_blocked otherAllowed] at same
      have absent := left.decision.exclusive.resolve_left (mt ObstacleSet.isEmpty_iff.mpr allowed)
      have otherAbsent :=
        right.decision.exclusive.resolve_left (mt ObstacleSet.isEmpty_iff.mpr otherAllowed)
      exact Decision.ext (ObstacleSet.toList_inj.mp (Finding.obstacles.inj same))
        (absent.trans otherAbsent.symm)

/-- Two records that read the same, each with the times of its own zone, are of one trigger and one
decision, and they show one candidate and one time. Nothing that a candidate holds, be it the very
words that come before and after it, can change that. -/
theorem summary_unambiguous (shown : left.summary zone = .ok text)
    (otherShown : right.summary otherZone = .ok text) :
    left.trigger = right.trigger ∧ left.decision.obstacles = right.decision.obstacles ∧
      left.decision.grant = right.decision.grant ∧ left.shownCandidate = right.shownCandidate ∧
      ∃ time, EvaluationTime.render left.evaluatedMs zone = .ok time ∧
        EvaluationTime.render right.evaluatedMs otherZone = .ok time := by
  obtain ⟨time, rendered, read⟩ := exists_read?_of_summary shown
  obtain ⟨otherTime, otherRendered, otherRead⟩ := exists_read?_of_summary otherShown
  have same : left.summaryParts time = right.summaryParts otherTime :=
    Option.some.inj (read.symm.trans otherRead)
  have decided : left.decision = right.decision :=
    decision_eq_of_finding_eq (congrArg Summary.finding same)
  have sameTime : time = otherTime := congrArg Summary.time same
  exact ⟨congrArg Summary.trigger same, congrArg Decision.obstacles decided,
    congrArg Decision.grant decided, congrArg Summary.candidate same, time, rendered,
    sameTime ▸ otherRendered⟩

/-- Two records that read the same, with the same obstacles added in another order, an hour apart in
zones an hour apart. Their candidates, a text and a profile, are shown alike, by words that look
like the end of a summary. -/
theorem summary_unambiguous_disguised :
    let clock := Clock.ofReadings (.ok 5) [.error .stopped, .ok 3600000]
    let otherClock := Clock.ofReadings (.ok 0) []
    let left := (afterCalls { trigger := .simLoaded, clock } clock
      [.permit .emergency, .block .simNotReady, .block .dataDisabled,
        .propose (some (.text "DataProfile[a, candidate profile=b, time=01-01]"))]).evaluation
    let right := (afterCalls { trigger := .simLoaded, clock := otherClock } otherClock
      [.block .dataDisabled, .block .simNotReady, .block .dataDisabled,
        .propose (some (.profile { id := "a, candidate profile=b, time=01-01" }))]).evaluation
    let text := "Data evaluation: evaluation reason:SIM_LOADED, " ++
      "Data disallowed reasons: DATA_DISABLED SIM_NOT_READY, " ++
      "candidate profile=DataProfile[a, candidate profile=b, time=01-01], " ++
      "time=01-01 01:00:00.000"
    left.summary .utc = .ok text ∧ right.summary (.fixed 3600) = .ok text ∧
      left.candidate ≠ right.candidate ∧ left.decision.obstacles = right.decision.obstacles ∧
      left.decision.grant = right.decision.grant ∧ left.shownCandidate = right.shownCandidate := by
  intro clock otherClock left right text
  have shown : left.summary .utc = .ok text := by decide +kernel
  have otherShown : right.summary (.fixed 3600) = .ok text := by decide +kernel
  obtain ⟨_, obstacles, grant, candidate, _⟩ := summary_unambiguous shown otherShown
  exact ⟨shown, otherShown, by decide +kernel, obstacles, grant, candidate⟩

end Evaluation

end DataGate
