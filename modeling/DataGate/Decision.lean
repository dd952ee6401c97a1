import DataGate.ObstacleSet
import DataGate.Grant

/-!
The state of one evaluation. Obstacles and a grant exclude each other: whichever kind of fact comes
last removes what the other kind has left behind.
-/

namespace DataGate

structure Decision where
  obstacles : ObstacleSet := ∅
  grant : Grant := .none
  exclusive : obstacles = ∅ ∨ grant = .none := by exact Or.inl rfl
  deriving DecidableEq

namespace Decision

/-- Neither an obstacle nor a grant. -/
def undecided : Decision where

variable {left right : Decision}

@[ext] theorem ext (obstacles : left.obstacles = right.obstacles)
    (grant : left.grant = right.grant) : left = right := by
  cases left
  cases right
  simp_all

def block (decision : Decision) (obstacle : Obstacle) : Decision where
  obstacles := decision.obstacles.insert obstacle
  grant := .none
  exclusive := Or.inr rfl

/-- Repeating a weaker grant does not displace a stronger one. -/
def permit (decision : Decision) (grant : Grant) : Decision where
  obstacles := ∅
  grant := decision.grant.join grant
  exclusive := Or.inl rfl

def isAllowed (decision : Decision) : Bool :=
  decision.obstacles.isEmpty

def contains (decision : Decision) (obstacle : Obstacle) : Bool :=
  decision.obstacles.has obstacle

def containsOnly (decision : Decision) (obstacle : Obstacle) : Bool :=
  decision.obstacles.isOnly obstacle

def retains (decision : Decision) (grant : Grant) : Bool :=
  grant == decision.grant

def hasHard (decision : Decision) : Bool :=
  decision.obstacles.hasHard

end DataGate.Decision
