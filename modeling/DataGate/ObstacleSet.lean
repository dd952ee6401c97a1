import DataGate.Obstacle

/-!
Sets of obstacles. The family is closed, so a set is its membership test, and two sets with the same
members are equal. `toList` is the one displayed form: declaration order, each member once.
-/

namespace DataGate

structure ObstacleSet where
  has : Obstacle → Bool

namespace ObstacleSet

variable {set left right : ObstacleSet} {obstacle other : Obstacle}

instance : Membership Obstacle ObstacleSet where
  mem set obstacle := set.has obstacle = true

instance : Decidable (obstacle ∈ set) :=
  inferInstanceAs (Decidable (set.has obstacle = true))

@[ext] theorem ext (same : ∀ obstacle, obstacle ∈ left ↔ obstacle ∈ right) : left = right := by
  obtain ⟨hasLeft⟩ := left
  obtain ⟨hasRight⟩ := right
  congr
  funext obstacle
  exact Bool.eq_iff_iff.mpr (same obstacle)

def toList (set : ObstacleSet) : List Obstacle :=
  Obstacle.all.filter set.has

@[simp] theorem mem_toList : obstacle ∈ set.toList ↔ obstacle ∈ set := by
  simp only [toList, List.mem_filter, Obstacle.mem_all, true_and]
  rfl

theorem toList_sublist (set : ObstacleSet) : set.toList.Sublist Obstacle.all :=
  List.filter_sublist

theorem nodup_toList (set : ObstacleSet) : set.toList.Nodup :=
  set.toList_sublist.nodup Obstacle.nodup_all

theorem toList_inj : left.toList = right.toList ↔ left = right :=
  ⟨fun same => ext fun obstacle => by rw [← mem_toList, same, mem_toList], fun same => same ▸ rfl⟩

instance : DecidableEq ObstacleSet := fun _ _ =>
  decidable_of_iff _ toList_inj

def ofList (obstacles : List Obstacle) : ObstacleSet where
  has obstacle := obstacles.contains obstacle

@[simp] theorem mem_ofList {obstacles : List Obstacle} :
    obstacle ∈ ofList obstacles ↔ obstacle ∈ obstacles :=
  List.contains_iff_mem

@[simp] theorem ofList_toList (set : ObstacleSet) : ofList set.toList = set := by
  ext obstacle
  simp

instance : EmptyCollection ObstacleSet where
  emptyCollection := { has := fun _ => false }

@[simp] theorem not_mem_empty : obstacle ∉ (∅ : ObstacleSet) :=
  Bool.false_ne_true

def insert (obstacle : Obstacle) (set : ObstacleSet) : ObstacleSet where
  has other := other == obstacle || set.has other

@[simp] theorem mem_insert : other ∈ set.insert obstacle ↔ other = obstacle ∨ other ∈ set := by
  change (other == obstacle || set.has other) = true ↔ _
  simp only [Bool.or_eq_true, beq_iff_eq]
  rfl

def size (set : ObstacleSet) : Nat :=
  set.toList.length

def isEmpty (set : ObstacleSet) : Bool :=
  set.size == 0

@[simp] theorem isEmpty_iff : set.isEmpty = true ↔ set = ∅ := by
  rw [← toList_inj, isEmpty, beq_iff_eq]
  exact List.length_eq_zero_iff

def isOnly (obstacle : Obstacle) (set : ObstacleSet) : Bool :=
  set.size == 1 && set.has obstacle

def hasHard (set : ObstacleSet) : Bool :=
  set.toList.any Obstacle.isHard

@[simp] theorem hasHard_iff :
    set.hasHard = true ↔ ∃ obstacle, obstacle ∈ set ∧ obstacle.isHard = true := by
  simp [hasHard]

def names (set : ObstacleSet) : List String :=
  set.toList.map Obstacle.name

end DataGate.ObstacleSet
