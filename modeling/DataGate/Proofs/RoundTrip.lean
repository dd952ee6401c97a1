import DataGate.Dotenv
import DataGate.Proofs.Replay

namespace DataGate

namespace Verdict

variable {obstacles listed : List Obstacle} {grants : List Grant} {decision : Decision}

/-- An obstacle does not yield to the absence of a grant. -/
theorem not_permits_none (obstructed : obstacles ≠ []) : ¬ Permits obstacles [.none] := by
  intro permits
  rcases permits.2 with unobstructed | ⟨grant, member, overriding⟩
  · exact obstructed unobstructed
  · rw [List.mem_singleton.mp member] at overriding
    exact Nat.not_lt_zero _ overriding

/-- A decision as a verdict. -/
def ofDecision (decision : Decision) : Verdict where
  allowed := decision.isAllowed
  obstacles := decision.obstacles
  grant := decision.grant
  overridden := ∅

theorem resolve_decision
    (lists : ∀ obstacle, obstacle ∈ listed ↔ obstacle ∈ decision.obstacles) :
    resolve listed [decision.grant] = ofDecision decision := by
  have same : ObstacleSet.ofList listed = decision.obstacles := by
    ext obstacle
    rw [ObstacleSet.mem_ofList, lists]
  by_cases clear : decision.obstacles = ∅
  · have allowed : decision.isAllowed = true := ObstacleSet.isEmpty_iff.mpr clear
    have unobstructed : listed = [] := ObstacleSet.ofList_eq_empty_iff.mp (same.trans clear)
    subst unobstructed
    rw [resolve_of_permits (permits_nil _), Grant.strongest_singleton, ofDecision, allowed, clear]
    rfl
  · have blocks : decision.isAllowed = false :=
      Bool.eq_false_iff.mpr (mt ObstacleSet.isEmpty_iff.mp clear)
    have absent : decision.grant = .none := decision.exclusive.resolve_left clear
    have obstructed : listed ≠ [] := by
      intro unobstructed
      exact clear (same.symm.trans (ObstacleSet.ofList_eq_empty_iff.mpr unobstructed))
    rw [absent, resolve_of_not_permits (not_permits_none obstructed), same, ofDecision, blocks,
      absent]
    rfl

/-- The verdict of a decision, written into a record, is the decision again. -/
theorem record_ofDecision (decision : Decision) (trigger : Trigger) (candidate : Option Candidate)
    {world : World} (works : world.wall.Works (ofDecision decision).stamps) :
    ∃ written, ((ofDecision decision).record trigger candidate world).result = .ok written ∧
      written.decision = decision := by
  obtain ⟨written, done, obstacles, grant⟩ :=
    (ofDecision decision).record_of_works trigger candidate works
  refine ⟨written, done, Decision.ext obstacles (grant.trans ?_)⟩
  split
  · rfl
  · next obstructed => exact (decision.exclusive.resolve_left obstructed).symm

theorem resolve_resolve (obstacles : List Obstacle) (grants : List Grant)
    (lists : ∀ obstacle, obstacle ∈ listed ↔
      obstacle ∈ (resolve obstacles grants).obstacles ∨
        obstacle ∈ (resolve obstacles grants).overridden) :
    resolve listed [(resolve obstacles grants).grant] = resolve obstacles grants := by
  have same (obstacle : Obstacle) : obstacle ∈ listed ↔ obstacle ∈ obstacles := by
    rw [lists, mem_obstacles_resolve_iff, mem_overridden_resolve_iff, ← or_and_right]
    exact and_iff_right (Classical.em _).symm
  have sameEmpty : listed = [] ↔ obstacles = [] := by
    rw [← ObstacleSet.ofList_eq_empty_iff, ObstacleSet.ofList_congr same,
      ObstacleSet.ofList_eq_empty_iff]
  by_cases permits : Permits obstacles grants
  · have again : Permits listed [Grant.strongest grants] := by
      refine ⟨fun obstacle member => permits.1 obstacle ((same obstacle).mp member), ?_⟩
      refine permits.2.imp sameEmpty.mpr fun strong => ?_
      exact ⟨_, List.mem_singleton_self _,
        Grant.overrides_iff.mp (Grant.overrides_strongest_iff.mpr strong)⟩
    rw [resolve_of_permits permits]
    change resolve listed [Grant.strongest grants] = _
    rw [resolve_of_permits again, Grant.strongest_singleton, ObstacleSet.ofList_congr same]
  · have obstructed : obstacles ≠ [] := by
      intro unobstructed
      subst unobstructed
      exact permits (permits_nil grants)
    rw [resolve_of_not_permits permits]
    change resolve listed [.none] = _
    rw [resolve_of_not_permits (not_permits_none (mt sameEmpty.mp obstructed)),
      ObstacleSet.ofList_congr same]

/-- Whatever calls a record has had, with whatever clocks, the verdict on the obstacles and the
grant that it holds tells the same and overrides nothing, and a record written from that verdict
decides the same. The verdict on any facts is the verdict on all that it tells of. -/
theorem resolve_round_trips (trigger : Trigger) (clock : Option Clock) (wall : Clock)
    (calls : List Call) (candidate : Option Candidate) (world : World) :
    let evaluation := (Evaluation.afterCalls { trigger, clock } wall calls).evaluation
    (∀ listed, (∀ obstacle, obstacle ∈ listed ↔ obstacle ∈ evaluation.decision.obstacles) →
      let verdict := resolve listed [evaluation.decision.grant]
      verdict.allowed = evaluation.decision.isAllowed ∧
        verdict.obstacles = evaluation.decision.obstacles ∧
        verdict.grant = evaluation.decision.grant ∧ verdict.overridden = ∅ ∧
        (world.wall.Works verdict.stamps →
          ∃ written, (verdict.record evaluation.trigger candidate world).result = .ok written ∧
            written.decision = evaluation.decision)) ∧
      ∀ obstacles grants listed,
        let verdict := resolve obstacles grants
        (∀ obstacle, obstacle ∈ listed ↔
          obstacle ∈ verdict.obstacles ∨ obstacle ∈ verdict.overridden) →
        resolve listed [verdict.grant] = verdict := by
  intro evaluation
  refine ⟨?_, fun obstacles grants listed lists => resolve_resolve obstacles grants lists⟩
  intro listed lists verdict
  have same : verdict = ofDecision evaluation.decision := resolve_decision lists
  rw [same]
  exact ⟨rfl, rfl, rfl, rfl, record_ofDecision evaluation.decision evaluation.trigger candidate⟩

/-- A record whose own clock failed keeps its obstacles on the way to a verdict and back, and a
verdict that overrides two obstacles is found again from these two. -/
theorem resolve_round_trips_after_failure :
    let clock := Clock.ofReadings (.ok 5) [.error .stopped]
    let calls : List Call := [.permit .emergency, .block .simNotReady, .block .dataDisabled]
    let evaluation :=
      (Evaluation.afterCalls { trigger := .simLoaded, clock } clock calls).evaluation
    let world : World :=
      { loader := Dotenv.loader, environment := .ofList [], dotenv := "", level := .debug
        wall := .ofReadings (.ok 9) [] }
    let verdict := resolve [.dataDisabled, .simNotReady, .dataDisabled] [evaluation.decision.grant]
    let overriding := resolve [.dataDisabled, .roamingDisabled] [.normal, .unmetered]
    evaluation.evaluatedMs = 5 ∧ verdict.obstacles = evaluation.decision.obstacles ∧
      (∃ written, (verdict.record evaluation.trigger none world).result = .ok written ∧
        written.decision = evaluation.decision) ∧
      overriding.overridden.size = 2 ∧
      resolve [.roamingDisabled, .dataDisabled] [overriding.grant] = overriding := by
  intro clock calls evaluation world verdict overriding
  obtain ⟨record, facts⟩ := resolve_round_trips .simLoaded (some clock) clock calls none world
  have lists (obstacle : Obstacle) :
      obstacle ∈ [Obstacle.dataDisabled, .simNotReady, .dataDisabled] ↔
        obstacle ∈ evaluation.decision.obstacles := by
    cases obstacle <;> decide +kernel
  have listsBoth (obstacle : Obstacle) :
      obstacle ∈ [Obstacle.roamingDisabled, .dataDisabled] ↔
        obstacle ∈ overriding.obstacles ∨ obstacle ∈ overriding.overridden := by
    cases obstacle <;> decide +kernel
  have works : world.wall.Works verdict.stamps := by
    intro index _
    cases index <;> exact ⟨9, rfl⟩
  obtain ⟨_, upheld, _, _, written⟩ := record _ lists
  exact ⟨rfl, upheld, written works, by decide +kernel, facts _ _ _ listsBoth⟩

end Verdict

end DataGate
