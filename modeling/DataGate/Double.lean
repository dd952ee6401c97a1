namespace DataGate

/-- A binary64 value that stands for no number. -/
inductive NotFinite
  | infinite
  | notANumber
  deriving DecidableEq, Repr

def NotFinite.message : NotFinite → String
  | infinite => "cannot convert float infinity to integer"
  | notANumber => "cannot convert float NaN to integer"

namespace Double

/-- The sign, the significand and the power of two of a finite value. -/
structure Parts where
  negative : Bool
  significand : Nat
  exponent : Int
  deriving DecidableEq, Repr

/-- The leading bit of a significand, which a value in normal form does not store. -/
def leadingBit : Nat := 0x10000000000000

def parts (value : Float) : Except NotFinite Parts :=
  let bits := value.toBits.toNat
  let negative := bits >>> 63 == 1
  let biased : Nat := bits >>> 52 % 0x800
  let fraction := bits % leadingBit
  if biased = 2047 then
    .error (if fraction = 0 then .infinite else .notANumber)
  else if biased = 0 then
    .ok { negative, significand := fraction, exponent := -1074 }
  else
    .ok { negative, significand := leadingBit + fraction, exponent := biased - 1075 }

/-- The value without its fractional digits, so rounded toward zero. -/
def Parts.truncate (parts : Parts) : Int :=
  let magnitude : Nat :=
    if 0 ≤ parts.exponent then parts.significand <<< parts.exponent.toNat
    else parts.significand >>> (-parts.exponent).toNat
  if parts.negative then -magnitude else magnitude

def truncate (value : Float) : Except NotFinite Int :=
  (parts value).map Parts.truncate

end Double

end DataGate
