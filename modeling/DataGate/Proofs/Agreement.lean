import DataGate.Proofs.LastWriter
import DataGate.Proofs.Resolve

namespace DataGate

/-- The record and the verdict say the same. -/
def Decision.Matches (decision : Decision) (verdict : Verdict) : Prop :=
  decision.isAllowed = verdict.allowed ∧ decision.obstacles = verdict.obstacles ∧
    decision.grant = verdict.grant

namespace Verdict

variable {obstacles : List Obstacle} {grants : List Grant} {decision : Decision}

theorem permits_iff :
    Permits obstacles grants ↔
      obstacles = [] ∨ (¬ ∃ obstacle ∈ obstacles, obstacle.isHard = true) ∧
        ∃ grant ∈ grants, Grant.normal.priority < grant.priority := by
  have soft : (∀ obstacle ∈ obstacles, obstacle.isHard = false) ↔
      ¬ ∃ obstacle ∈ obstacles, obstacle.isHard = true := by simp
  constructor
  · intro permits
    obtain ⟨allSoft, none | strong⟩ := permits
    · exact Or.inl none
    · exact Or.inr ⟨soft.mp allSoft, strong⟩
  · intro fits
    rcases fits with none | ⟨noHard, strong⟩
    · subst none
      exact permits_nil grants
    · exact ⟨soft.mpr noHard, Or.inr strong⟩

theorem matches_permitted_iff {grant : Grant} {overridden : ObstacleSet} :
    decision.Matches (permitted grant overridden) ↔
      decision.obstacles = ∅ ∧ decision.grant = grant := by
  unfold Decision.Matches permitted
  constructor
  · intro agrees
    obtain ⟨_, clear, same⟩ := agrees
    exact ⟨clear, same⟩
  · intro fields
    obtain ⟨clear, same⟩ := fields
    exact ⟨ObstacleSet.isEmpty_iff.mpr clear, clear, same⟩

theorem matches_blocked_iff {found : ObstacleSet} (nonempty : found ≠ ∅) :
    decision.Matches (blocked found) ↔ decision.obstacles = found ∧ decision.grant = .none := by
  unfold Decision.Matches blocked
  constructor
  · intro agrees
    obtain ⟨_, same, absent⟩ := agrees
    exact ⟨same, absent⟩
  · intro fields
    obtain ⟨same, absent⟩ := fields
    refine ⟨?_, same, absent⟩
    apply Bool.eq_false_iff.mpr
    intro allowed
    exact nonempty (same.symm.trans (ObstacleSet.isEmpty_iff.mp allowed))

/-- Obstacles told last all stand. -/
theorem obstaclesLast_obstacles (grants : List Grant) (obstacles : List Obstacle) :
    ((grants.map Call.permit ++ obstacles.map Call.block).foldl Decision.apply
        .undecided).obstacles = ObstacleSet.ofList obstacles := by
  have cleared : ((grants.map Call.permit).foldl Decision.apply .undecided).obstacles = ∅ := by
    cases grants with
    | nil => rfl
    | cons first rest => exact Decision.foldl_permit_obstacles (List.cons_ne_nil first rest)
  ext obstacle
  rw [List.foldl_append, Decision.mem_foldl_block, cleared, ObstacleSet.mem_ofList]
  exact or_iff_left ObstacleSet.not_mem_empty

/-- Grants told last compete with nothing but each other. -/
theorem grantsLast_grant (obstacles : List Obstacle) (grants : List Grant) :
    ((obstacles.map Call.block ++ grants.map Call.permit).foldl Decision.apply .undecided).grant =
      Grant.strongest grants := by
  have absent : ((obstacles.map Call.block).foldl Decision.apply .undecided).grant = .none := by
    cases obstacles with
    | nil => rfl
    | cons first rest => exact Decision.foldl_block_grant (List.cons_ne_nil first rest)
  rw [List.foldl_append, Decision.foldl_permit_grant, absent, Grant.strongest]

/-- The record is the stricter one where the verdict lets a grant override obstacles. -/
theorem obstaclesLast_matches_iff :
    ((grants.map Call.permit ++ obstacles.map Call.block).foldl Decision.apply .undecided).Matches
        (resolve obstacles grants) ↔
      obstacles = [] ∨ ¬ Permits obstacles grants := by
  by_cases permits : Permits obstacles grants
  · rw [resolve_of_permits permits, matches_permitted_iff, obstaclesLast_obstacles,
      ObstacleSet.ofList_eq_empty_iff, or_iff_left (not_not_intro permits)]
    refine and_iff_left_of_imp ?_
    intro none
    subst none
    rw [List.map_nil, List.append_nil]
    exact Decision.foldl_permit_grant .undecided grants
  · rw [resolve_of_not_permits permits,
      matches_blocked_iff (ofList_ne_empty_of_not_permits permits)]
    refine iff_of_true ⟨obstaclesLast_obstacles grants obstacles, ?_⟩ (Or.inr permits)
    rw [List.foldl_append]
    apply Decision.foldl_block_grant
    intro none
    subst none
    exact permits (permits_nil grants)

/-- The record is the laxer one where the verdict upholds obstacles that grants came after. -/
theorem grantsLast_matches_iff :
    ((obstacles.map Call.block ++ grants.map Call.permit).foldl Decision.apply .undecided).Matches
        (resolve obstacles grants) ↔
      grants = [] ∨ Permits obstacles grants := by
  by_cases ungranted : grants = []
  · subst ungranted
    refine iff_of_true ?_ (Or.inl rfl)
    have untold : (List.map Call.block obstacles ++ List.map Call.permit []) =
        List.map Call.permit [] ++ List.map Call.block obstacles := by simp
    rw [untold, obstaclesLast_matches_iff]
    by_cases none : obstacles = []
    · exact Or.inl none
    · exact Or.inr fun permits => by simpa [none] using permits.2
  · have cleared :
        ((obstacles.map Call.block ++ grants.map Call.permit).foldl Decision.apply
          .undecided).obstacles = ∅ := by
      rw [List.foldl_append]
      exact Decision.foldl_permit_obstacles ungranted
    by_cases permits : Permits obstacles grants
    · rw [resolve_of_permits permits, matches_permitted_iff]
      exact iff_of_true ⟨cleared, grantsLast_grant obstacles grants⟩ (Or.inr permits)
    · have nonempty := ofList_ne_empty_of_not_permits permits
      rw [resolve_of_not_permits permits, matches_blocked_iff nonempty, cleared]
      refine iff_of_false (fun same => nonempty same.1.symm) ?_
      intro agrees
      rcases agrees with none | permitted
      · exact ungranted none
      · exact permits permitted

end Verdict

/-- On the same facts, a record told the grants first and a record told the obstacles first, each
kind in any order, agree with the verdict exactly under these conditions. -/
theorem afterCalls_matches_resolve_iff {obstacles toldObstacles : List Obstacle}
    {grants toldGrants : List Grant} (trigger : Trigger) (clock : Option Clock) (wall : Clock)
    (sameObstacles : toldObstacles.Perm obstacles) (sameGrants : toldGrants.Perm grants) :
    let blocks := toldObstacles.map Call.block
    let permits := toldGrants.map Call.permit
    let decide (calls : List Call) :=
      (Evaluation.afterCalls { trigger, clock } wall calls).evaluation.decision
    let hard := ∃ obstacle ∈ obstacles, obstacle.isHard = true
    let strong := ∃ grant ∈ grants, Grant.normal.priority < grant.priority
    ((decide (permits ++ blocks)).Matches (Verdict.resolve obstacles grants) ↔
        obstacles = [] ∨ hard ∨ ¬ strong) ∧
      ((decide (blocks ++ permits)).Matches (Verdict.resolve obstacles grants) ↔
        grants = [] ∨ obstacles = [] ∨ ¬ hard ∧ strong) := by
  intro blocks permits decide hard strong
  have sameVerdict : Verdict.resolve obstacles grants = Verdict.resolve toldObstacles toldGrants :=
    Verdict.resolve_congr (fun _ => sameObstacles.mem_iff.symm) fun _ => sameGrants.mem_iff.symm
  have sameEmpty : toldObstacles = [] ↔ obstacles = [] := by
    simpa only [List.perm_nil] using sameObstacles.congr_left []
  have sameNoGrant : toldGrants = [] ↔ grants = [] := by
    simpa only [List.perm_nil] using sameGrants.congr_left []
  have samePermits : Verdict.Permits toldObstacles toldGrants ↔
      obstacles = [] ∨ ¬ hard ∧ strong := by
    simp only [Verdict.permits_iff, sameEmpty, hard, strong, sameObstacles.mem_iff,
      sameGrants.mem_iff]
  simp only [decide, Evaluation.afterCalls_decision, sameVerdict]
  constructor
  · rw [Verdict.obstaclesLast_matches_iff, sameEmpty, samePermits]
    by_cases none : obstacles = []
    · exact iff_of_true (Or.inl none) (Or.inl none)
    · rw [or_iff_right none, or_iff_right none, or_iff_right none, Classical.not_and_iff_not_or_not,
        Classical.not_not]
  · rw [Verdict.grantsLast_matches_iff, sameNoGrant, samePermits]

/-- A grant that overrides two soft obstacles is lost when the obstacles are told last. When the
grants are told last, it wins, and the verdict agrees. -/
theorem afterCalls_matches_resolve_soft :
    let clock : Clock := .ofReadings (.ok 5) [.error .stopped]
    let decide (calls : List Call) :=
      (Evaluation.afterCalls { trigger := .newRequest } clock calls).evaluation.decision
    let verdict := Verdict.resolve [.dataDisabled, .roamingDisabled] [.normal, .emergency]
    ¬ (decide [.permit .emergency, .permit .normal, .block .roamingDisabled,
        .block .dataDisabled]).Matches verdict ∧
      (decide [.block .roamingDisabled, .block .dataDisabled, .permit .emergency,
        .permit .normal]).Matches verdict := by
  intro clock decide verdict
  have agreement := afterCalls_matches_resolve_iff .newRequest none clock
    (List.Perm.swap Obstacle.dataDisabled .roamingDisabled [])
    (List.Perm.swap Grant.normal .emergency [])
  exact ⟨mt agreement.1.mp (by decide), agreement.2.mpr (by decide)⟩

end DataGate
