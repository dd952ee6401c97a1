import DataGate.Grant
import DataGate.ObstacleSet

/-!
The verdict on all facts of a cycle at once. Hard obstacles always win; soft ones yield to a grant
above the override threshold. The order in which the facts were found plays no part.
-/

namespace DataGate

/-- A verdict as it may be handed around: nothing here says that its fields agree. -/
structure Verdict where
  allowed : Bool
  obstacles : ObstacleSet
  grant : Grant
  overridden : ObstacleSet
  deriving DecidableEq

namespace Verdict

def hasHard (verdict : Verdict) : Bool :=
  verdict.obstacles.hasHard

def blocked (obstacles : ObstacleSet) : Verdict where
  allowed := false
  obstacles
  grant := .none
  overridden := ∅

def permitted (grant : Grant) (overridden : ObstacleSet) : Verdict where
  allowed := true
  obstacles := ∅
  grant
  overridden

def resolve (obstacles : List Obstacle) (grants : List Grant) : Verdict :=
  let found := ObstacleSet.ofList obstacles
  let strongest := Grant.strongest grants
  if found.hasHard then blocked found
  else if found.isEmpty || strongest.overrides then permitted strongest found
  else blocked found

/-- A verdict by names, in the displayed order. -/
structure Digest where
  allowed : Bool
  obstacles : List String
  grant : String
  overridden : List String
  deriving DecidableEq, Repr

def digest (verdict : Verdict) : Digest where
  allowed := verdict.allowed
  obstacles := verdict.obstacles.names
  grant := verdict.grant.name
  overridden := verdict.overridden.names

/-- Reads a verdict by names. The first name that is unknown is reported: among the obstacles, then
the grant, then the overridden obstacles. -/
def read (allowed : Bool) (obstacles : List Literal) (grant : Literal) (overridden : List Literal) :
    Except UnknownWord Verdict := do
  let obstacles ← Vocabulary.readAll obstacles
  let grant ← Vocabulary.read grant
  let overridden ← Vocabulary.readAll overridden
  return { allowed, obstacles := .ofList obstacles, grant, overridden := .ofList overridden }

def Digest.verdict (digest : Digest) : Except UnknownWord Verdict :=
  read digest.allowed (digest.obstacles.map .text) (.text digest.grant)
    (digest.overridden.map .text)

end DataGate.Verdict
