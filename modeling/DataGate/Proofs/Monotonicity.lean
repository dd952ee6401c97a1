import DataGate.Proofs.Resolve

namespace DataGate.Verdict

variable {fewer more : List Obstacle} {weaker stronger : List Grant}

/-- The rule is antitone in the obstacles and monotone in the grants. -/
theorem Permits.mono (permits : Permits more weaker) (fewerObstacles : fewer ⊆ more)
    (moreGrants : weaker ⊆ stronger) : Permits fewer stronger := by
  obtain ⟨soft, unobstructed | strong⟩ := permits
  · subst unobstructed
    rw [List.eq_nil_of_subset_nil fewerObstacles]
    exact permits_nil stronger
  · obtain ⟨grant, member, overriding⟩ := strong
    exact ⟨fun obstacle found => soft obstacle (fewerObstacles found),
      Or.inr ⟨grant, moreGrants member, overriding⟩⟩

/-- A verdict that upholds obstacles has no grant at all, so only two verdicts that allow data have
grants to compare. -/
theorem priority_grant_resolve_mono (obstacles : List Obstacle) (moreGrants : weaker ⊆ stronger) :
    (resolve obstacles weaker).grant.priority ≤ (resolve obstacles stronger).grant.priority := by
  by_cases permits : Permits obstacles weaker
  · rw [resolve_of_permits permits,
      resolve_of_permits (permits.mono (List.Subset.refl obstacles) moreGrants)]
    exact Grant.priority_strongest_mono moreGrants
  · rw [resolve_of_not_permits permits]
    exact Nat.zero_le _

/-- With fewer obstacles a verdict stays allowed and upholds no others. With more grants it stays
allowed, upholds no others, overrides what it has overridden before and keeps as strong a grant. -/
theorem resolve_monotone (fewerObstacles : fewer ⊆ more) (moreGrants : weaker ⊆ stronger) :
    ((resolve more weaker).allowed = true → (resolve fewer weaker).allowed = true) ∧
      (∀ obstacle ∈ (resolve fewer weaker).obstacles,
        obstacle ∈ (resolve more weaker).obstacles) ∧
      ((resolve fewer weaker).allowed = true → (resolve fewer stronger).allowed = true) ∧
      (∀ obstacle ∈ (resolve fewer stronger).obstacles,
        obstacle ∈ (resolve fewer weaker).obstacles) ∧
      (∀ obstacle ∈ (resolve fewer weaker).overridden,
        obstacle ∈ (resolve fewer stronger).overridden) ∧
      (resolve fewer weaker).grant.priority ≤ (resolve fewer stronger).grant.priority := by
  have eased : Permits more weaker → Permits fewer weaker := fun permits =>
    permits.mono fewerObstacles (List.Subset.refl weaker)
  have favoured : Permits fewer weaker → Permits fewer stronger := fun permits =>
    permits.mono (List.Subset.refl fewer) moreGrants
  simp only [allowed_resolve_iff, mem_obstacles_resolve_iff, mem_overridden_resolve_iff]
  refine ⟨eased, ?_, favoured, ?_, ?_, priority_grant_resolve_mono fewer moreGrants⟩
  · intro obstacle upheld
    exact ⟨mt eased upheld.1, fewerObstacles upheld.2⟩
  · intro obstacle upheld
    exact ⟨mt favoured upheld.1, upheld.2⟩
  · intro obstacle overridden
    exact ⟨favoured overridden.1, overridden.2⟩

/-- A grant that overrides two obstacles overrides one of them, and goes on doing so beside a
stronger grant. An obstacle upheld alone is upheld beside a hard one. -/
theorem resolve_monotone_roaming :
    (resolve [.roamingDisabled] [.unmetered]).allowed = true ∧
      Obstacle.roamingDisabled ∈
        (resolve [.roamingDisabled] [.emergency, .unmetered]).overridden ∧
      (resolve [.roamingDisabled] [.unmetered]).grant.priority ≤
        (resolve [.roamingDisabled] [.emergency, .unmetered]).grant.priority ∧
      Obstacle.roamingDisabled ∈
        (resolve [.simNotReady, .roamingDisabled] [.normal]).obstacles := by
  have beside : [Obstacle.roamingDisabled] ⊆ [.dataDisabled, .roamingDisabled] := by decide
  have besideHard : [Obstacle.roamingDisabled] ⊆ [.simNotReady, .roamingDisabled] := by decide
  have favoured : [Grant.unmetered] ⊆ [.emergency, .unmetered] := by decide
  obtain ⟨allowed, _, _, _, overridden, priority⟩ := resolve_monotone beside favoured
  obtain ⟨_, upheld, _⟩ := resolve_monotone besideHard (List.Subset.refl [Grant.normal])
  exact ⟨allowed (by decide), overridden _ (by decide), priority, upheld _ (by decide)⟩

end DataGate.Verdict
