import DataGate.Change
import DataGate.Proofs.Since
import DataGate.Proofs.Strongest

/-!
What calls on a record decide. Clocks stamp a record and may fail, but the decision after a run of
calls is the run folded over `Decision.apply`, whatever the clocks do. Obstacles and grants undo
each other, so a decision is made of the calls that still stand: those that no later call of the
other kind follows.
-/

namespace DataGate

/-- What a call does to the decision of its record. -/
def Decision.apply (decision : Decision) : Call → Decision
  | .block obstacle => decision.block obstacle
  | .permit grant => decision.permit grant
  | .propose _ => decision

namespace Decision

variable {decision : Decision} {obstacles : List Obstacle} {grants : List Grant}

theorem mem_foldl_block {obstacle : Obstacle} :
    obstacle ∈ ((obstacles.map Call.block).foldl apply decision).obstacles ↔
      obstacle ∈ obstacles ∨ obstacle ∈ decision.obstacles := by
  induction obstacles generalizing decision with
  | nil => simp
  | cons first rest ih =>
      have step : obstacle ∈ (decision.block first).obstacles ↔
          obstacle = first ∨ obstacle ∈ decision.obstacles := ObstacleSet.mem_insert
      rw [List.map_cons, List.foldl_cons, ih, List.mem_cons, or_assoc]
      exact (or_congr_right step).trans or_left_comm

theorem foldl_block_grant (nonempty : obstacles ≠ []) :
    ((obstacles.map Call.block).foldl apply decision).grant = .none := by
  induction obstacles using List.reverseRecOn with
  | nil => exact absurd rfl nonempty
  | append_singleton before last =>
      rw [List.map_append, List.foldl_append]
      rfl

theorem foldl_permit_grant (decision : Decision) (grants : List Grant) :
    ((grants.map Call.permit).foldl apply decision).grant =
      grants.foldl Grant.join decision.grant := by
  induction grants generalizing decision with
  | nil => rfl
  | cons first rest ih =>
      rw [List.map_cons, List.foldl_cons, ih]
      rfl

theorem foldl_permit_obstacles (nonempty : grants ≠ []) :
    ((grants.map Call.permit).foldl apply decision).obstacles = ∅ := by
  induction grants using List.reverseRecOn with
  | nil => exact absurd rfl nonempty
  | append_singleton before last =>
      rw [List.map_append, List.foldl_append]
      rfl

end Decision

namespace Evaluation

variable (evaluation : Evaluation) (wall : Clock)

@[simp] theorem settle_decision (entry : Log.Entry) (reading : Except ClockFault Int) :
    (evaluation.settle wall entry reading).evaluation.decision = evaluation.decision := by
  cases reading <;> rfl

@[simp] theorem stamp_decision (entry : Log.Entry) :
    (evaluation.stamp wall entry).evaluation.decision = evaluation.decision := by
  unfold stamp
  split
  · rw [settle_decision]
  · rw [settle_decision]

/-- The clock is read after the decision is made, so it cannot undo it by failing. -/
theorem call_decision (call : Call) :
    (evaluation.call wall call).evaluation.decision = evaluation.decision.apply call := by
  cases call with
  | block obstacle => exact stamp_decision _ _ _
  | permit grant => exact stamp_decision _ _ _
  | propose candidate => rfl

theorem foldl_resume_decision (change : Change) (calls : List Call) :
    (calls.foldl Change.resume change).evaluation.decision =
      calls.foldl Decision.apply change.evaluation.decision := by
  induction calls generalizing change with
  | nil => rfl
  | cons call rest ih =>
      rw [List.foldl_cons, List.foldl_cons, ih]
      exact congrArg (rest.foldl Decision.apply) (call_decision _ _ _)

theorem afterCalls_decision (calls : List Call) :
    (evaluation.afterCalls wall calls).evaluation.decision =
      calls.foldl Decision.apply evaluation.decision :=
  foldl_resume_decision _ calls

end Evaluation

namespace Call

variable {calls : List Call} {call last : Call} {obstacle : Obstacle} {grant : Grant}

/-- An obstacle and a grant undo each other. -/
def Undoes : Call → Call → Prop
  | .permit _, .block _ => True
  | .block _, .permit _ => True
  | _, _ => False

/-- The call was made, and no later call has undone it. -/
def Stands (calls : List Call) (call : Call) : Prop :=
  Since (fun _ made => made = call) (fun later => ¬ later.Undoes call) calls

theorem stands_concat :
    Stands (calls ++ [last]) call ↔ last = call ∨ Stands calls call ∧ ¬ last.Undoes call :=
  since_concat

theorem Stands.mem (stands : Stands calls call) : call ∈ calls := by
  obtain ⟨before, made, after, rfl, rfl, _⟩ := stands
  simp

theorem not_stands_both (blocked : Stands calls (.block obstacle)) :
    ¬ Stands calls (.permit grant) := by
  intro permitted
  induction calls using List.reverseRecOn with
  | nil => exact not_since_nil blocked
  | append_singleton calls last ih =>
      rcases stands_concat.mp blocked with rfl | ⟨blocked, blockKept⟩
      · simp [stands_concat, Undoes] at permitted
      · rcases stands_concat.mp permitted with rfl | ⟨permitted, _⟩
        · exact blockKept trivial
        · exact ih blocked permitted

/-- The last grant of the run stands unless an obstacle came after it. -/
theorem exists_stands_permit (permitted : .permit grant ∈ calls)
    (clear : ∀ obstacle, ¬ Stands calls (.block obstacle)) :
    ∃ grant, Stands calls (.permit grant) := by
  induction calls using List.reverseRecOn with
  | nil => simp at permitted
  | append_singleton calls last ih =>
      cases last with
      | block obstacle => exact absurd (stands_concat.mpr (Or.inl rfl)) (clear obstacle)
      | permit grant => exact ⟨grant, stands_concat.mpr (Or.inl rfl)⟩
      | propose candidate =>
          have earlier : .permit grant ∈ calls := by simpa using permitted
          obtain ⟨grant, stands⟩ := ih earlier fun obstacle stands =>
            clear obstacle (stands_concat.mpr (Or.inr ⟨stands, id⟩))
          exact ⟨grant, stands_concat.mpr (Or.inr ⟨stands, id⟩)⟩

end Call

namespace Decision

variable {decision : Decision} {calls : List Call}

/-- The decision holds what still stands: every obstacle, and of the grants the strongest. -/
structure Reflects (decision : Decision) (calls : List Call) : Prop where
  mem_obstacles : ∀ obstacle, obstacle ∈ decision.obstacles ↔ Call.Stands calls (.block obstacle)
  grant_stands : decision.grant = .none ∨ Call.Stands calls (.permit decision.grant)
  priority_le : ∀ grant, Call.Stands calls (.permit grant) →
    grant.priority ≤ decision.grant.priority

theorem reflects_nil : Reflects undecided [] where
  mem_obstacles _ := iff_of_false ObstacleSet.not_mem_empty not_since_nil
  grant_stands := Or.inl rfl
  priority_le _ stands := absurd stands not_since_nil

theorem Reflects.block (reflects : decision.Reflects calls) (obstacle : Obstacle) :
    (decision.block obstacle).Reflects (calls ++ [.block obstacle]) where
  mem_obstacles other := by
    simp only [Decision.block, ObstacleSet.mem_insert, reflects.mem_obstacles, Call.stands_concat,
      Call.block.injEq, Call.Undoes, not_false_eq_true, and_true, eq_comm]
  grant_stands := Or.inl rfl
  priority_le grant stands := by simp [Call.stands_concat, Call.Undoes] at stands

theorem Reflects.permit (reflects : decision.Reflects calls) (grant : Grant) :
    (decision.permit grant).Reflects (calls ++ [.permit grant]) where
  mem_obstacles obstacle := by simp [Decision.permit, Call.stands_concat, Call.Undoes]
  grant_stands := by
    simp only [Decision.permit]
    rcases decision.grant.join_eq_or grant with kept | replaced
    · rw [kept]
      exact reflects.grant_stands.imp_right fun stands =>
        Call.stands_concat.mpr (Or.inr ⟨stands, id⟩)
    · rw [replaced]
      exact Or.inr (Call.stands_concat.mpr (Or.inl rfl))
  priority_le other stands := by
    simp only [Decision.permit, Grant.priority_join]
    rcases Call.stands_concat.mp stands with same | ⟨stands, _⟩
    · cases same
      exact Nat.le_max_right _ _
    · exact Nat.le_trans (reflects.priority_le other stands) (Nat.le_max_left _ _)

theorem Reflects.propose (reflects : decision.Reflects calls) (candidate : Option Candidate) :
    decision.Reflects (calls ++ [.propose candidate]) where
  mem_obstacles obstacle := by
    simp [reflects.mem_obstacles, Call.stands_concat, Call.Undoes]
  grant_stands := reflects.grant_stands.imp_right fun stands =>
    Call.stands_concat.mpr (Or.inr ⟨stands, id⟩)
  priority_le grant stands := by
    rcases Call.stands_concat.mp stands with same | ⟨stands, _⟩
    · cases same
    · exact reflects.priority_le grant stands

theorem Reflects.apply (reflects : decision.Reflects calls) (call : Call) :
    (decision.apply call).Reflects (calls ++ [call]) := by
  cases call with
  | block obstacle => exact reflects.block obstacle
  | permit grant => exact reflects.permit grant
  | propose candidate => exact reflects.propose candidate

theorem reflects_foldl_apply (calls : List Call) :
    (calls.foldl apply undecided).Reflects calls := by
  induction calls using List.reverseRecOn with
  | nil => exact reflects_nil
  | append_singleton calls last ih =>
      rw [List.foldl_append]
      exact ih.apply last

theorem Reflects.grant_eq_none (reflects : decision.Reflects calls)
    (absent : ∀ grant, ¬ Call.Stands calls (.permit grant)) : decision.grant = .none :=
  reflects.grant_stands.resolve_right (absent _)

/-- If any grant stands, then the one held does. A run of empty grants alone is the case where the
one held is the empty grant. -/
theorem Reflects.stands_grant (reflects : decision.Reflects calls) {grant : Grant}
    (stands : Call.Stands calls (.permit grant)) : Call.Stands calls (.permit decision.grant) := by
  rcases reflects.grant_stands with absent | held
  · have weak := reflects.priority_le grant stands
    rw [absent] at weak ⊢
    rwa [← Grant.eq_none_of_priority_le weak]
  · exact held

end Decision

/-- The decision of a new record after any calls, with any clocks, failing or not. The obstacles are
those named after the last grant. The grant is the strongest of those named after the last obstacle;
there is none if an obstacle came last or no grant came at all. -/
theorem decision_afterCalls_iff_stands (trigger : Trigger) (clock : Option Clock) (wall : Clock)
    (calls : List Call) :
    let decision := (Evaluation.afterCalls { trigger, clock } wall calls).evaluation.decision
    let obstacleLast := ∃ obstacle, Call.Stands calls (.block obstacle)
    let neverPermitted := ∀ grant, Call.permit grant ∉ calls
    (∀ obstacle, obstacle ∈ decision.obstacles ↔ Call.Stands calls (.block obstacle)) ∧
      (obstacleLast ∨ neverPermitted → decision.grant = .none) ∧
      (¬ (obstacleLast ∨ neverPermitted) →
        Call.Stands calls (.permit decision.grant) ∧
          ∀ grant, Call.Stands calls (.permit grant) →
            grant.priority ≤ decision.grant.priority) ∧
      ¬ (decision.obstacles ≠ ∅ ∧ decision.grant ≠ .none) := by
  intro decision obstacleLast neverPermitted
  have reflects : decision.Reflects calls := by
    simp only [decision, Evaluation.afterCalls_decision]
    exact Decision.reflects_foldl_apply calls
  have cleared : obstacleLast ∨ neverPermitted → decision.grant = .none := by
    intro settled
    rcases settled with ⟨obstacle, blocked⟩ | never
    · exact reflects.grant_eq_none fun grant => Call.not_stands_both blocked
    · exact reflects.grant_eq_none fun grant stands => never grant stands.mem
  refine ⟨reflects.mem_obstacles, cleared, ?_, ?_⟩
  · intro permittedLast
    simp only [obstacleLast, neverPermitted, not_or, not_exists, not_forall, not_not]
      at permittedLast
    obtain ⟨clear, grant, permitted⟩ := permittedLast
    obtain ⟨grant, stands⟩ := Call.exists_stands_permit permitted clear
    exact ⟨reflects.stands_grant stands, reflects.priority_le⟩
  · intro both
    obtain ⟨obstructed, granted⟩ := both
    refine obstructed (ObstacleSet.ext fun obstacle => iff_of_false ?_ ObstacleSet.not_mem_empty)
    intro member
    exact granted (cleared (Or.inl ⟨obstacle, (reflects.mem_obstacles obstacle).mp member⟩))

end DataGate
