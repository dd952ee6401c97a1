/-!
The proleptic Gregorian calendar over all integers: there is a year 0, and leap years repeat every
400 years in both directions. Days are counted from 1970-01-01.
-/

namespace DataGate

structure CivilDate where
  year : Int
  month : Nat
  day : Nat
  deriving DecidableEq, Repr

namespace Calendar

def isLeap (year : Int) : Bool :=
  year % 4 == 0 && (year % 100 != 0 || year % 400 == 0)

def yearLength (year : Int) : Int :=
  if isLeap year then 366 else 365

/-- The days from the start of year 1 to the start of `year`. -/
def daysBeforeYear (year : Int) : Int :=
  365 * (year - 1) + (year - 1) / 4 - (year - 1) / 100 + (year - 1) / 400

/-- The days from the start of year 1 to 1970-01-01. -/
def epochDay : Int := 719162

theorem daysBeforeYear_succ (year : Int) :
    daysBeforeYear (year + 1) = daysBeforeYear year + yearLength year := by
  simp only [daysBeforeYear, yearLength, isLeap, Bool.and_eq_true, Bool.or_eq_true, beq_iff_eq,
    bne_iff_ne]
  split <;> omega

/-- The mean Gregorian year is 146097/400 days long, so an estimate from the mean length is at most
one year off. -/
def yearOfDay (day : Int) : Int :=
  let count := day + epochDay
  let estimate := count * 400 / 146097 + 1
  if count < daysBeforeYear estimate then estimate - 1
  else if daysBeforeYear (estimate + 1) ≤ count then estimate + 1
  else estimate

theorem daysBeforeYear_estimate_le (count : Int) :
    daysBeforeYear (count * 400 / 146097) ≤ count := by
  simp only [daysBeforeYear]
  omega

theorem lt_daysBeforeYear_estimate (count : Int) :
    count < daysBeforeYear (count * 400 / 146097 + 1 + 1 + 1) := by
  simp only [daysBeforeYear]
  omega

theorem daysBeforeYear_yearOfDay_le (day : Int) :
    daysBeforeYear (yearOfDay day) ≤ day + epochDay := by
  have below := daysBeforeYear_estimate_le (day + epochDay)
  simp only [yearOfDay]
  split
  · rwa [Int.add_sub_cancel]
  · split
    · assumption
    · exact Int.not_lt.mp ‹_›

theorem lt_daysBeforeYear_yearOfDay_succ (day : Int) :
    day + epochDay < daysBeforeYear (yearOfDay day + 1) := by
  have above := lt_daysBeforeYear_estimate (day + epochDay)
  simp only [yearOfDay]
  split
  · rwa [Int.sub_add_cancel]
  · split
    · exact above
    · exact Int.not_le.mp ‹_›

def monthLengths (year : Int) : List Nat :=
  [31, if isLeap year then 29 else 28, 31, 30, 31, 30, 31, 31, 30, 31, 30, 31]

/-- The days in consecutive months of these lengths. -/
def totalDays : List Nat → Nat
  | [] => 0
  | length :: rest => length + totalDays rest

/-- The number of whole months before the day at this offset, and its offset in its own month. -/
def locateMonth : List Nat → Nat → Nat × Nat
  | [], offset => (0, offset)
  | length :: rest, offset =>
      if offset < length then (0, offset)
      else
        let (months, left) := locateMonth rest (offset - length)
        (months + 1, left)

theorem locateMonth_offset (lengths : List Nat) (offset : Nat) :
    totalDays (lengths.take (locateMonth lengths offset).1) + (locateMonth lengths offset).2 =
      offset := by
  induction lengths generalizing offset with
  | nil => simp [locateMonth, totalDays]
  | cons length rest ih =>
      simp only [locateMonth]
      split
      · simp [totalDays]
      · simp only [List.take_succ_cons, totalDays]
        have := ih (offset - length)
        omega

theorem locateMonth_within {lengths : List Nat} {offset : Nat}
    (within : offset < totalDays lengths) :
    (locateMonth lengths offset).1 < lengths.length ∧
      (locateMonth lengths offset).2 < lengths.getD (locateMonth lengths offset).1 0 := by
  induction lengths generalizing offset with
  | nil => exact absurd within (Nat.not_lt_zero offset)
  | cons length rest ih =>
      simp only [locateMonth]
      split
      · simpa
      · have left : offset - length < totalDays rest := by
          simp only [totalDays] at within
          omega
        simpa using ih left

theorem totalDays_monthLengths (year : Int) :
    (totalDays (monthLengths year) : Int) = yearLength year := by
  simp only [monthLengths, yearLength]
  split <;> rfl

def monthLength (year : Int) (month : Nat) : Nat :=
  (monthLengths year).getD (month - 1) 0

end Calendar

namespace CivilDate

open Calendar

def ofDay (day : Int) : CivilDate :=
  let year := yearOfDay day
  let (months, left) := locateMonth (monthLengths year) (day + epochDay - daysBeforeYear year).toNat
  { year, month := months + 1, day := left + 1 }

def toDay (date : CivilDate) : Int :=
  daysBeforeYear date.year + totalDays ((monthLengths date.year).take (date.month - 1)) + date.day
    - 1 - epochDay

theorem offset_within (day : Int) :
    (day + epochDay - daysBeforeYear (yearOfDay day)).toNat <
      totalDays (monthLengths (yearOfDay day)) := by
  have lower := daysBeforeYear_yearOfDay_le day
  have upper := lt_daysBeforeYear_yearOfDay_succ day
  rw [daysBeforeYear_succ, ← totalDays_monthLengths] at upper
  omega

theorem toDay_ofDay (day : Int) : (ofDay day).toDay = day := by
  have lower := daysBeforeYear_yearOfDay_le day
  have offset := locateMonth_offset (monthLengths (yearOfDay day))
    (day + epochDay - daysBeforeYear (yearOfDay day)).toNat
  simp only [toDay, ofDay, Nat.add_sub_cancel]
  omega

structure Valid (date : CivilDate) : Prop where
  month_pos : 1 ≤ date.month
  month_le : date.month ≤ 12
  day_pos : 1 ≤ date.day
  day_le : date.day ≤ monthLength date.year date.month

theorem valid_ofDay (day : Int) : (ofDay day).Valid := by
  have ⟨months, days⟩ := locateMonth_within (offset_within day)
  have twelve : (monthLengths (yearOfDay day)).length = 12 := rfl
  refine ⟨?_, ?_, ?_, ?_⟩
  · simp [ofDay]
  · simp only [ofDay]
    omega
  · simp [ofDay]
  · simp only [ofDay, monthLength, Nat.add_sub_cancel]
    omega

end CivilDate

end DataGate
