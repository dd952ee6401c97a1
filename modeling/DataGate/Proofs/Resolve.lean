import DataGate.Proofs.Strongest
import DataGate.Resolution

/-!
The rule behind verdicts. `Permits` states the rule on the facts alone; `resolve_of_permits` and
`resolve_of_not_permits` give the whole verdict on either side of it, and no later proof opens
`resolve`.
-/

namespace DataGate

namespace ObstacleSet

variable {obstacles others : List Obstacle}

theorem ofList_congr (same : ∀ obstacle, obstacle ∈ obstacles ↔ obstacle ∈ others) :
    ofList obstacles = ofList others := by
  ext obstacle
  rw [mem_ofList, mem_ofList]
  exact same obstacle

theorem ofList_eq_empty_iff : ofList obstacles = ∅ ↔ obstacles = [] := by
  constructor
  · intro empty
    apply List.eq_nil_iff_forall_not_mem.mpr
    intro obstacle member
    rw [← mem_ofList, empty] at member
    exact not_mem_empty member
  · intro none
    subst none
    rfl

end ObstacleSet

namespace Verdict

variable {obstacles otherObstacles : List Obstacle} {grants otherGrants : List Grant}

/-- No obstacle is hard, and if there is any obstacle at all then some grant overrides it. -/
def Permits (obstacles : List Obstacle) (grants : List Grant) : Prop :=
  (∀ obstacle ∈ obstacles, obstacle.isHard = false) ∧
    (obstacles = [] ∨ ∃ grant ∈ grants, Grant.normal.priority < grant.priority)

theorem permits_nil (grants : List Grant) : Permits [] grants :=
  ⟨by simp, Or.inl rfl⟩

theorem ofList_ne_empty_of_not_permits (refused : ¬ Permits obstacles grants) :
    ObstacleSet.ofList obstacles ≠ ∅ := by
  intro empty
  rw [ObstacleSet.ofList_eq_empty_iff] at empty
  subst empty
  exact refused (permits_nil grants)

theorem hasHard_ofList_iff :
    (ObstacleSet.ofList obstacles).hasHard = true ↔
      ∃ obstacle ∈ obstacles, obstacle.isHard = true := by
  simp only [ObstacleSet.hasHard_iff, ObstacleSet.mem_ofList]

theorem resolve_of_permits (permits : Permits obstacles grants) :
    resolve obstacles grants =
      permitted (Grant.strongest grants) (ObstacleSet.ofList obstacles) := by
  obtain ⟨soft, overridden⟩ := permits
  have noHard : ¬ (ObstacleSet.ofList obstacles).hasHard = true := by
    rw [hasHard_ofList_iff]
    intro found
    obtain ⟨obstacle, member, hard⟩ := found
    rw [soft obstacle member] at hard
    cases hard
  have yields : ((ObstacleSet.ofList obstacles).isEmpty ||
      (Grant.strongest grants).overrides) = true := by
    rw [Bool.or_eq_true, ObstacleSet.isEmpty_iff, ObstacleSet.ofList_eq_empty_iff,
      Grant.overrides_strongest_iff]
    exact overridden
  simp only [resolve, if_neg noHard, if_pos yields]

theorem resolve_of_not_permits (refused : ¬ Permits obstacles grants) :
    resolve obstacles grants = blocked (ObstacleSet.ofList obstacles) := by
  by_cases hard : (ObstacleSet.ofList obstacles).hasHard = true
  · simp only [resolve, if_pos hard]
  · have soft : ∀ obstacle ∈ obstacles, obstacle.isHard = false := by
      intro obstacle member
      apply Bool.eq_false_iff.mpr
      intro isHard
      exact hard (hasHard_ofList_iff.mpr ⟨obstacle, member, isHard⟩)
    have stays : ¬ ((ObstacleSet.ofList obstacles).isEmpty ||
        (Grant.strongest grants).overrides) = true := by
      rw [Bool.or_eq_true, ObstacleSet.isEmpty_iff, ObstacleSet.ofList_eq_empty_iff,
        Grant.overrides_strongest_iff]
      exact fun overridden => refused ⟨soft, overridden⟩
    simp only [resolve, if_neg hard, if_neg stays]

theorem allowed_resolve_iff :
    (resolve obstacles grants).allowed = true ↔ Permits obstacles grants := by
  by_cases permits : Permits obstacles grants
  · rw [resolve_of_permits permits]
    exact iff_of_true rfl permits
  · rw [resolve_of_not_permits permits]
    exact iff_of_false Bool.false_ne_true permits

theorem mem_obstacles_resolve_iff {obstacle : Obstacle} :
    obstacle ∈ (resolve obstacles grants).obstacles ↔
      ¬ Permits obstacles grants ∧ obstacle ∈ obstacles := by
  by_cases permits : Permits obstacles grants
  · rw [resolve_of_permits permits]
    exact iff_of_false ObstacleSet.not_mem_empty fun both => both.1 permits
  · rw [resolve_of_not_permits permits]
    exact ObstacleSet.mem_ofList.trans (and_iff_right permits).symm

theorem mem_overridden_resolve_iff {obstacle : Obstacle} :
    obstacle ∈ (resolve obstacles grants).overridden ↔
      Permits obstacles grants ∧ obstacle ∈ obstacles := by
  by_cases permits : Permits obstacles grants
  · rw [resolve_of_permits permits]
    exact ObstacleSet.mem_ofList.trans (and_iff_right permits).symm
  · rw [resolve_of_not_permits permits]
    exact iff_of_false ObstacleSet.not_mem_empty fun both => permits both.1

theorem resolve_congr
    (sameObstacles : ∀ obstacle, obstacle ∈ obstacles ↔ obstacle ∈ otherObstacles)
    (sameGrants : ∀ grant, grant ∈ grants ↔ grant ∈ otherGrants) :
    resolve obstacles grants = resolve otherObstacles otherGrants := by
  unfold resolve
  rw [ObstacleSet.ofList_congr sameObstacles, Grant.strongest_congr sameGrants]

theorem reach_result (obstacles : List Obstacle) (grants : List Grant) (world : World) :
    (reach obstacles grants world).result = .ok (resolve obstacles grants) := rfl

/-- The verdict on any facts, in any world. Every obstacle found is either upheld or overridden and
never both, a hard obstacle is never overridden, and data may flow just when none is upheld. -/
theorem resolve_follows_rule (obstacles : List Obstacle) (grants : List Grant) (world : World) :
    let verdict := resolve obstacles grants
    (reach obstacles grants world).result = .ok verdict ∧
      (verdict.allowed = true ↔
        (∀ obstacle ∈ obstacles, obstacle.isHard = false) ∧
          (obstacles = [] ∨ ∃ grant ∈ grants, Grant.normal.priority < grant.priority)) ∧
      (verdict.allowed = false →
        verdict.obstacles = ObstacleSet.ofList obstacles ∧ verdict.grant = .none ∧
          verdict.overridden = ∅) ∧
      (verdict.allowed = true →
        verdict.obstacles = ∅ ∧ verdict.overridden = ObstacleSet.ofList obstacles ∧
          (grants = [] → verdict.grant = .none) ∧
          (grants ≠ [] → verdict.grant.IsStrongest grants)) ∧
      (∀ obstacle, obstacle ∈ obstacles ↔
        obstacle ∈ verdict.obstacles ∨ obstacle ∈ verdict.overridden) ∧
      (∀ obstacle, ¬ (obstacle ∈ verdict.obstacles ∧ obstacle ∈ verdict.overridden)) ∧
      (∀ obstacle ∈ verdict.overridden, obstacle.isHard = false) ∧
      (verdict.allowed = true ↔ verdict.obstacles = ∅) := by
  intro verdict
  refine ⟨reach_result obstacles grants world, ?_⟩
  by_cases permits : Permits obstacles grants
  · have same : verdict = permitted (Grant.strongest grants) (ObstacleSet.ofList obstacles) :=
      resolve_of_permits permits
    rw [same]
    refine ⟨iff_of_true rfl permits, fun refused => absurd refused.symm Bool.false_ne_true,
      fun _ => ⟨rfl, rfl, ?_, Grant.isStrongest_strongest⟩, by simp [permitted],
      by simp [permitted], ?_, iff_of_true rfl rfl⟩
    · intro ungranted
      subst ungranted
      rfl
    · intro obstacle member
      exact permits.1 obstacle (ObstacleSet.mem_ofList.mp member)
  · have same : verdict = blocked (ObstacleSet.ofList obstacles) := resolve_of_not_permits permits
    have nonempty := ofList_ne_empty_of_not_permits permits
    rw [same]
    exact ⟨iff_of_false Bool.false_ne_true permits, fun _ => ⟨rfl, rfl, rfl⟩,
      fun allowed => absurd allowed Bool.false_ne_true, by simp [blocked], by simp [blocked],
      by simp [blocked], iff_of_false Bool.false_ne_true nonempty⟩

end Verdict

end DataGate
