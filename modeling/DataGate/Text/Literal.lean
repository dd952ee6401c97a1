import DataGate.Text.Quoted

namespace DataGate

/-- An integer that can be written out. One of more than 4300 digits has no text. -/
structure Numeral where
  value : Int
  short : (Nat.toDigits 10 value.natAbs).length ≤ 4300
  deriving DecidableEq, Repr

def Numeral.shown (numeral : Numeral) : String :=
  toString numeral.value

/-- What a caller may hand in where a word of a closed vocabulary is wanted. Only a text can be
such a word; the other forms exist to be named in the refusal. -/
inductive Literal
  | none
  | flag (value : Bool)
  | number (value : Numeral)
  | text (value : String)
  | emptyList
  | emptyMap
  deriving DecidableEq, Repr

namespace Text

def flag (value : Bool) : String :=
  if value then "True" else "False"

end Text

def Literal.shown : Literal → String
  | .none => "None"
  | .flag value => Text.flag value
  | .number value => value.shown
  | .text value => Text.quoted value
  | .emptyList => "[]"
  | .emptyMap => "\x7b\x7d"

end DataGate
