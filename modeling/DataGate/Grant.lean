import DataGate.Vocabulary

namespace DataGate

/-- A fact that speaks for a data connection; `none` is the absence of one. -/
inductive Grant
  | none
  | normal
  | unmetered
  | restricted
  | emergency
  deriving DecidableEq, Repr

namespace Grant

def all : List Grant :=
  [none, normal, unmetered, restricted, emergency]

def name : Grant → String
  | none => "NONE"
  | normal => "NORMAL"
  | unmetered => "UNMETERED_USAGE"
  | restricted => "RESTRICTED_REQUEST"
  | emergency => "EMERGENCY_REQUEST"

def priority : Grant → Nat
  | none => 0
  | normal => 1
  | unmetered => 2
  | restricted => 3
  | emergency => 4

instance : Vocabulary Grant where
  title := "DataAllowedReason"
  all := all
  name := name
  mem_all word := by cases word <;> decide
  name_injective {left right} same := by
    revert same
    cases left <;> cases right <;> decide

theorem priority_injective {left right : Grant} (same : left.priority = right.priority) :
    left = right := by
  revert same
  cases left <;> cases right <;> decide

/-- The held grant gives way only to a strictly stronger one. -/
def join (held asserted : Grant) : Grant :=
  if held.priority < asserted.priority then asserted else held

theorem priority_join (held asserted : Grant) :
    (held.join asserted).priority = max held.priority asserted.priority := by
  unfold join
  split <;> omega

def strongest (grants : List Grant) : Grant :=
  grants.foldl join none

/-- Grants above this one override soft obstacles. -/
def overrideThreshold : Grant := normal

def overrides (grant : Grant) : Bool :=
  overrideThreshold.priority < grant.priority

end DataGate.Grant
