import Mathlib.Data.List.Sort
import DataGate.Decision

/-!
The order in which obstacles are declared. A set is listed in that order, and no other list in that
order has the same members. So the list stands for the set, and each question about the obstacles of
a decision is a question about one list.
-/

namespace DataGate

namespace Obstacle

def place (obstacle : Obstacle) : Nat :=
  all.idxOf obstacle

/-- Strictly increasing in the order of declaration. -/
def Ordered (listed : List Obstacle) : Prop :=
  listed.Pairwise fun earlier later => earlier.place < later.place

theorem ordered_all : Ordered all := by
  unfold Ordered
  decide

theorem Ordered.eq_of_mem_iff {left right : List Obstacle} (ordered : Ordered left)
    (otherOrdered : Ordered right) (same : ∀ obstacle, obstacle ∈ left ↔ obstacle ∈ right) :
    left = right :=
  haveI : Std.Asymm fun earlier later : Obstacle => earlier.place < later.place :=
    ⟨fun _ _ => Nat.lt_asymm⟩
  List.Pairwise.eq_of_mem_iff ordered otherOrdered same

end Obstacle

theorem ObstacleSet.ordered_toList (set : ObstacleSet) : Obstacle.Ordered set.toList :=
  Obstacle.ordered_all.sublist set.toList_sublist

namespace Decision

variable {decision : Decision} {obstacle : Obstacle} {grant : Grant}

theorem contains_iff : decision.contains obstacle = true ↔ obstacle ∈ decision.obstacles.toList :=
  ObstacleSet.mem_toList.symm

/-- The size of a set is the length of its list, which names nothing twice. -/
theorem containsOnly_iff :
    decision.containsOnly obstacle = true ↔ decision.obstacles.toList = [obstacle] := by
  have both : decision.containsOnly obstacle = true ↔
      decision.obstacles.toList.length = 1 ∧ obstacle ∈ decision.obstacles.toList := by
    rw [← contains_iff]
    simp [containsOnly, ObstacleSet.isOnly, ObstacleSet.size, contains]
  rw [both, List.length_eq_one_iff]
  constructor
  · intro found
    obtain ⟨⟨only, single⟩, member⟩ := found
    rw [single, List.mem_singleton] at member
    rw [single, member]
  · intro single
    exact ⟨⟨obstacle, single⟩, single ▸ List.mem_singleton_self obstacle⟩

theorem isAllowed_iff : decision.isAllowed = true ↔ decision.obstacles.toList = [] := by
  simp [isAllowed, ObstacleSet.isEmpty, ObstacleSet.size]

theorem hasHard_iff :
    decision.hasHard = true ↔ ∃ obstacle ∈ decision.obstacles.toList, obstacle.isHard = true :=
  List.any_eq_true

theorem retains_iff : decision.retains grant = true ↔ decision.grant = grant := by
  rw [retains, beq_iff_eq, eq_comm]

end Decision

end DataGate
