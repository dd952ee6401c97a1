import DataGate.Grant

namespace DataGate.Grant

variable {grant other held left right : Grant} {grants : List Grant} {bound : Nat}

/-- A member of the list that no member exceeds. -/
structure IsStrongest (grant : Grant) (grants : List Grant) : Prop where
  mem : grant ∈ grants
  priority_le : ∀ other ∈ grants, other.priority ≤ grant.priority

theorem eq_none_of_priority_le (weak : grant.priority ≤ none.priority) : grant = none :=
  priority_injective (Nat.le_antisymm weak (Nat.zero_le _))

/-- Priorities have no ties, so a grant is known by what bounds it. -/
theorem eq_of_priority_le_iff (same : ∀ bound, left.priority ≤ bound ↔ right.priority ≤ bound) :
    left = right := by
  apply priority_injective
  apply Nat.le_antisymm
  · exact (same right.priority).mpr (Nat.le_refl _)
  · exact (same left.priority).mp (Nat.le_refl _)

theorem none_join (grant : Grant) : none.join grant = grant := by
  cases grant <;> rfl

theorem join_eq_or (held asserted : Grant) :
    held.join asserted = held ∨ held.join asserted = asserted := by
  unfold join
  split
  · exact Or.inr rfl
  · exact Or.inl rfl

/-- The grant held at the start competes like one more member. -/
theorem priority_foldl_join_le_iff :
    (grants.foldl join held).priority ≤ bound ↔
      held.priority ≤ bound ∧ ∀ grant ∈ grants, grant.priority ≤ bound := by
  induction grants generalizing held with
  | nil => simp
  | cons first rest ih =>
      rw [List.foldl_cons, ih, priority_join, Nat.max_le, List.forall_mem_cons, and_assoc]

theorem foldl_join_mem (held : Grant) (grants : List Grant) :
    grants.foldl join held ∈ held :: grants := by
  induction grants generalizing held with
  | nil => exact List.mem_cons_self
  | cons first rest ih =>
      rw [List.foldl_cons]
      rcases join_eq_or held first with same | same
      · rw [same]
        rcases List.mem_cons.mp (ih held) with kept | later
        · rw [kept]
          exact List.mem_cons_self
        · exact List.mem_cons_of_mem _ (List.mem_cons_of_mem _ later)
      · rw [same]
        exact List.mem_cons_of_mem _ (ih first)

/-- The grant held at the start counts as the first of the list. -/
theorem foldl_join_eq_strongest (held : Grant) (grants : List Grant) :
    grants.foldl join held = strongest (held :: grants) := by
  rw [strongest, List.foldl_cons, none_join]

theorem strongest_eq_none_or_mem (grants : List Grant) :
    strongest grants = none ∨ strongest grants ∈ grants :=
  List.mem_cons.mp (foldl_join_mem none grants)

theorem priority_strongest_le_iff :
    (strongest grants).priority ≤ bound ↔ ∀ grant ∈ grants, grant.priority ≤ bound := by
  rw [strongest, priority_foldl_join_le_iff]
  exact and_iff_right (Nat.zero_le bound)

theorem priority_le_strongest (member : grant ∈ grants) :
    grant.priority ≤ (strongest grants).priority :=
  priority_strongest_le_iff.mp (Nat.le_refl _) grant member

theorem isStrongest_strongest (nonempty : grants ≠ []) : (strongest grants).IsStrongest grants := by
  refine ⟨?_, fun other member => priority_le_strongest member⟩
  rcases strongest_eq_none_or_mem grants with absent | member
  · -- Nothing beats the empty grant, so every member is the empty grant itself.
    obtain ⟨first, rest, rfl⟩ := List.exists_cons_of_ne_nil nonempty
    have weak : first.priority ≤ none.priority := by
      have bounded := priority_le_strongest (List.mem_cons_self (a := first) (l := rest))
      rwa [absent] at bounded
    rw [absent, eq_none_of_priority_le weak]
    exact List.mem_cons_self
  · exact member

@[simp] theorem strongest_singleton (grant : Grant) : strongest [grant] = grant := by
  cases grant <;> rfl

theorem strongest_congr {others : List Grant} (same : ∀ grant, grant ∈ grants ↔ grant ∈ others) :
    strongest grants = strongest others := by
  refine eq_of_priority_le_iff fun bound => ?_
  simp only [priority_strongest_le_iff, same]

/-- Two lists in a row have the strongest of their strongest. -/
theorem strongest_append (grants others : List Grant) :
    strongest (grants ++ others) = strongest [strongest grants, strongest others] := by
  refine eq_of_priority_le_iff fun bound => ?_
  rw [priority_strongest_le_iff, priority_strongest_le_iff, List.forall_mem_append,
    List.forall_mem_cons, List.forall_mem_singleton, priority_strongest_le_iff,
    priority_strongest_le_iff]

theorem priority_strongest_mono {others : List Grant} (subset : grants ⊆ others) :
    (strongest grants).priority ≤ (strongest others).priority :=
  priority_strongest_le_iff.mpr fun _ member => priority_le_strongest (subset member)

theorem overrides_iff : grant.overrides = true ↔ normal.priority < grant.priority :=
  decide_eq_true_iff

theorem overrides_strongest_iff :
    (strongest grants).overrides = true ↔ ∃ grant ∈ grants, normal.priority < grant.priority := by
  rw [overrides_iff, ← Nat.not_le, priority_strongest_le_iff]
  simp

end DataGate.Grant
