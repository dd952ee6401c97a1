namespace DataGate

/-- The answer of an evaluation: whether data may flow. -/
inductive Ruling
  | allowed
  | disallowed
  deriving DecidableEq, Repr

namespace Ruling

def name : Ruling → String
  | allowed => "ALLOWED"
  | disallowed => "DISALLOWED"

def ofBool (isAllowed : Bool) : Ruling :=
  if isAllowed then allowed else disallowed

end DataGate.Ruling
