import DataGate.Text.Literal

namespace DataGate

/-- A profile reference. Nothing interprets it; it is stored, compared and displayed. -/
structure ProfileRef where
  id : String
  displayName : Option String := none
  deriving DecidableEq, Repr

namespace ProfileRef

/-- An empty display name counts as none. -/
def shown (profile : ProfileRef) : String :=
  match profile.displayName with
  | none | some "" => "DataProfile[" ++ profile.id ++ "]"
  | some label => "DataProfile[" ++ profile.id ++ "/" ++ label ++ "]"

def detailed (profile : ProfileRef) : String :=
  let label := match profile.displayName with
    | none => "None"
    | some label => Text.quoted label
  "DataProfileRef(profile_id=" ++ Text.quoted profile.id ++ ", display_name=" ++ label ++ ")"

/-- The number of distinct profiles among two. -/
def distinct (left right : ProfileRef) : Nat :=
  [left, right].eraseDups.length

end ProfileRef

/-- The profile chosen for the connection: a reference, or a handle of the caller's own. Every value
of this type is a candidate, the empty text, zero and false among them. -/
inductive Candidate
  | text (value : String)
  | number (value : Numeral)
  | flag (value : Bool)
  | profile (value : ProfileRef)
  deriving DecidableEq, Repr

def Candidate.shown : Candidate → String
  | text value => value
  | number value => value.shown
  | flag value => Text.flag value
  | profile value => value.shown

end DataGate
