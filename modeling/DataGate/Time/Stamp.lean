import DataGate.Time.Calendar

/-!
The displayed form of an evaluation time, `MM-dd HH:mm:ss.SSS`. The year is not shown; together with
the year the text determines the instant.
-/

namespace DataGate

/-- Where a time is displayed. Local time is UTC here, but it is checked more narrowly. -/
inductive Zone
  | localTime
  | utc
  | fixed (offset : Int)
  deriving DecidableEq, Repr

/-- The seconds by which the zone's clock runs ahead of UTC. -/
def Zone.offset : Zone → Int
  | localTime | utc => 0
  | fixed offset => offset

structure Stamp where
  month : Nat
  day : Nat
  hour : Nat
  minute : Nat
  second : Nat
  milli : Nat
  deriving DecidableEq, Repr

namespace Stamp

def secondsPerDay : Int := 86400

/-- The year in force when the given number of seconds has passed since the epoch. -/
def yearOfSecond (seconds : Int) : Int :=
  Calendar.yearOfDay (seconds / secondsPerDay)

/-- The stamp of the instant `seconds` and `milli` after the epoch. -/
def ofSecond (seconds : Int) (milli : Nat) : Stamp :=
  let date := CivilDate.ofDay (seconds / secondsPerDay)
  let time := (seconds % secondsPerDay).toNat
  { month := date.month
    day := date.day
    hour := time / 3600
    minute := time / 60 % 60
    second := time % 60
    milli }

/-- The milliseconds since the epoch that the stamp stands for in `year`. -/
def toMillis (year : Int) (stamp : Stamp) : Int :=
  let day := CivilDate.toDay { year, month := stamp.month, day := stamp.day }
  let time : Nat := stamp.hour * 3600 + stamp.minute * 60 + stamp.second
  (day * secondsPerDay + time) * 1000 + stamp.milli

structure Valid (year : Int) (stamp : Stamp) : Prop where
  date : CivilDate.Valid { year, month := stamp.month, day := stamp.day }
  hour_lt : stamp.hour < 24
  minute_lt : stamp.minute < 60
  second_lt : stamp.second < 60
  milli_lt : stamp.milli < 1000

def digit (value : Nat) : Char :=
  Char.ofNat ('0'.toNat + value % 10)

def twoDigits (value : Nat) : List Char :=
  [digit (value / 10), digit value]

def threeDigits (value : Nat) : List Char :=
  [digit (value / 100), digit (value / 10), digit value]

def render (stamp : Stamp) : List Char :=
  twoDigits stamp.month ++ '-' :: twoDigits stamp.day ++ ' ' :: twoDigits stamp.hour ++
    ':' :: twoDigits stamp.minute ++ ':' :: twoDigits stamp.second ++
    '.' :: threeDigits stamp.milli

def digit? (c : Char) : Option Nat :=
  if '0' ≤ c ∧ c ≤ '9' then some (c.toNat - '0'.toNat) else none

def number? (digits : List Char) : Option Nat :=
  (digits.mapM digit?).map (·.foldl (fun value digit => value * 10 + digit) 0)

/-- Reads a displayed stamp; any other shape of text is refused. -/
def read? : List Char → Option Stamp
  | [m1, m2, '-', d1, d2, ' ', h1, h2, ':', n1, n2, ':', s1, s2, '.', f1, f2, f3] => do
      let month ← number? [m1, m2]
      let day ← number? [d1, d2]
      let hour ← number? [h1, h2]
      let minute ← number? [n1, n2]
      let second ← number? [s1, s2]
      let milli ← number? [f1, f2, f3]
      some { month, day, hour, minute, second, milli }
  | _ => none

end Stamp

/-- Why a time cannot be displayed. -/
inductive TimeError
  | instantOutOfRange
  | yearTooWide
  | yearOutOfRange (year : Int)
  | shiftOutOfRange
  deriving DecidableEq, Repr

/-- A year is told as a signed word of 32 bits holds it. -/
def TimeError.message : TimeError → String
  | instantOutOfRange => "timestamp out of range for platform time_t"
  | yearTooWide => "[Errno 75] Value too large for defined data type"
  | yearOutOfRange year => "year " ++ toString (year.bmod 0x100000000) ++ " is out of range"
  | shiftOutOfRange => "date value out of range"

namespace EvaluationTime

open Stamp

/-- The years that a date can show. -/
def yearInRange (year : Int) : Prop :=
  1 ≤ year ∧ year ≤ 9999

instance (year : Int) : Decidable (yearInRange year) :=
  inferInstanceAs (Decidable (_ ∧ _))

/-- The zone's own demand on an instant whose UTC year can be shown. Local time also needs the day
before to have a year, because the search for a repeated hour looks one day back. -/
def checkZone (seconds : Int) : Zone → Except TimeError Unit
  | .utc => .ok ()
  | .localTime =>
      let dayBefore := yearOfSecond (seconds - secondsPerDay)
      if dayBefore < 1 then .error (.yearOutOfRange dayBefore) else .ok ()
  | .fixed offset =>
      if yearInRange (yearOfSecond (seconds + offset)) then .ok () else .error .shiftOutOfRange

/-- Instants are counted in a signed word of 64 bits, and years since 1900 in one of 32. -/
def check (seconds : Int) (zone : Zone) : Except TimeError Unit :=
  let year := yearOfSecond seconds
  if seconds < -0x8000000000000000 ∨ 0x8000000000000000 ≤ seconds then .error .instantOutOfRange
  else if year - 1900 < -0x80000000 ∨ 0x80000000 ≤ year - 1900 then .error .yearTooWide
  else if ¬ yearInRange year then .error (.yearOutOfRange year)
  else checkZone seconds zone

/-- The stamp of a time in milliseconds since the epoch, whether or not it can be displayed. -/
def stamp (millis : Int) (zone : Zone) : Stamp :=
  Stamp.ofSecond (millis / 1000 + zone.offset) (millis % 1000).toNat

def render (millis : Int) (zone : Zone) : Except TimeError String := do
  check (millis / 1000) zone
  return String.ofList (stamp millis zone).render

theorem render_eq_ok_iff {millis : Int} {zone : Zone} {text : String} :
    render millis zone = .ok text ↔
      check (millis / 1000) zone = .ok () ∧ text = String.ofList (stamp millis zone).render := by
  cases checked : check (millis / 1000) zone <;>
    simp [render, checked, bind, Except.bind, pure, Except.pure, eq_comm]

theorem render_eq_error_iff {millis : Int} {zone : Zone} {error : TimeError} :
    render millis zone = .error error ↔ check (millis / 1000) zone = .error error := by
  cases checked : check (millis / 1000) zone <;>
    simp [render, checked, bind, Except.bind, pure, Except.pure]

end EvaluationTime

end DataGate
