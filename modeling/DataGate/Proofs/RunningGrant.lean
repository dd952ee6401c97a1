import DataGate.Proofs.LastWriter

namespace DataGate

namespace Evaluation

variable (evaluation : Evaluation) (wall : Clock)

/-- However the clocks do, a record that is told grants only holds the strongest of them and of the
one that it held before. -/
theorem grant_afterCalls_permits (grants : List Grant) :
    (evaluation.afterCalls wall (grants.map .permit)).evaluation.decision.grant =
      Grant.strongest (evaluation.decision.grant :: grants) := by
  rw [afterCalls_decision, Decision.foldl_permit_grant, Grant.foldl_join_eq_strongest]

end Evaluation

namespace Grant

/-- The strongest of some grants is their join: one of them, or the empty grant, exceeded by none of
them, and the least that is. It is found piece by piece and depends on the members of the list
only. Any record, whatever it holds, and also one with obstacles, comes to the same join when it is
told the grants in order, with any clocks. -/
theorem strongest_joins_stepwise (evaluation : Evaluation) (wall : Clock)
    (grants others : List Grant) :
    let joined := strongest grants
    (joined = none ∨ joined ∈ grants) ∧
      (∀ grant ∈ grants, grant.priority ≤ joined.priority) ∧
      (∀ bound : Grant, (∀ grant ∈ grants, grant.priority ≤ bound.priority) →
        joined.priority ≤ bound.priority) ∧
      strongest (grants ++ others) = strongest [joined, strongest others] ∧
      ((∀ grant, grant ∈ grants ↔ grant ∈ others) → joined = strongest others) ∧
      (evaluation.afterCalls wall (grants.map .permit)).evaluation.decision.grant =
        strongest ([evaluation.decision.grant] ++ grants) := by
  intro joined
  refine ⟨strongest_eq_none_or_mem grants, fun grant => priority_le_strongest, ?_,
    strongest_append grants others, strongest_congr, ?_⟩
  · intro bound bounds
    exact priority_strongest_le_iff.mpr bounds
  · exact evaluation.grant_afterCalls_permits wall grants

/-- A grant that an obstacle has removed takes no part in what the record is told later. -/
theorem strongest_joins_stepwise_blocked :
    let clock := Clock.ofReadings (.ok 5) [.error .stopped]
    let record := (Evaluation.afterCalls { trigger := .newRequest, clock } clock
      [.permit .emergency, .block .dataDisabled]).evaluation
    let grants : List Grant := [normal, restricted, normal]
    record.decision.isAllowed = false ∧ normal.priority ≤ (strongest grants).priority ∧
      (strongest grants).priority ≤ emergency.priority ∧
      strongest grants = strongest [restricted, normal] ∧
      (record.afterCalls clock (grants.map .permit)).evaluation.decision.grant =
        strongest ([record.decision.grant] ++ grants) ∧
      strongest ([record.decision.grant] ++ grants) = restricted := by
  intro clock record grants
  have same : ∀ grant, grant ∈ grants ↔ grant ∈ [restricted, normal] := by
    intro grant
    cases grant <;> decide
  obtain ⟨_, exceeds, least, _, members, told⟩ :=
    strongest_joins_stepwise record clock grants [restricted, normal]
  exact ⟨by decide, exceeds normal (by decide), least emergency (by decide), members same, told,
    by decide⟩

end Grant

end DataGate
