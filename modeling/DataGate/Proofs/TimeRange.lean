import DataGate.Proofs.Timestamp

/-!
Which times can be displayed. The checks of a time ask for years; here they are told in seconds
since the epoch. Years begin at ever later seconds, so the seconds of a range of years are an
interval, and every zone displays just the times of one interval.
-/

namespace DataGate

namespace Calendar

theorem daysBeforeYear_mono {earlier later : Int} (ordered : earlier ≤ later) :
    daysBeforeYear earlier ≤ daysBeforeYear later := by
  simp only [daysBeforeYear]
  omega

theorem le_yearOfDay_iff (year day : Int) :
    year ≤ yearOfDay day ↔ daysBeforeYear year ≤ day + epochDay := by
  have start := daysBeforeYear_yearOfDay_le day
  have finish := lt_daysBeforeYear_yearOfDay_succ day
  constructor
  · intro reached
    exact Int.le_trans (daysBeforeYear_mono reached) start
  · intro begun
    by_contra later
    have next := daysBeforeYear_mono (Int.add_one_le_of_lt (Int.not_le.mp later))
    omega

end Calendar

namespace Stamp

theorem le_yearOfSecond_iff (year seconds : Int) :
    year ≤ yearOfSecond seconds ↔
      (Calendar.daysBeforeYear year - Calendar.epochDay) * 86400 ≤ seconds := by
  rw [yearOfSecond, Calendar.le_yearOfDay_iff, secondsPerDay]
  omega

end Stamp

namespace EvaluationTime

open Stamp

variable {seconds year told : Int} {zone : Zone} {result : Except TimeError Unit}

/-- The instants that a signed word of 64 bits does not hold. -/
def BeyondWord (seconds : Int) : Prop :=
  seconds < -0x8000000000000000 ∨ 0x8000000000000000 ≤ seconds

/-- The years that do not fit into a signed word of 32 bits, counted from 1900. -/
def YearBeyondWord (year : Int) : Prop :=
  year - 1900 < -0x80000000 ∨ 0x80000000 ≤ year - 1900

/-- From the first second of year 1 to the last one of year 9999. -/
def Datable (seconds : Int) : Prop :=
  -62135596800 ≤ seconds ∧ seconds ≤ 253402300799

/-- Seconds too early for local time, which is not displayed on the first day of year 1. -/
def TooEarly (seconds : Int) : Prop :=
  seconds < -62135510400

instance : Decidable (BeyondWord seconds) := inferInstanceAs (Decidable (_ ∨ _))

instance : Decidable (YearBeyondWord year) := inferInstanceAs (Decidable (_ ∨ _))

instance : Decidable (Datable seconds) := inferInstanceAs (Decidable (_ ∧ _))

instance : Decidable (TooEarly seconds) := inferInstanceAs (Decidable (_ < _))

def Displayable (seconds : Int) : Zone → Prop
  | .utc => Datable seconds
  | .localTime => Datable seconds ∧ ¬ TooEarly seconds
  | .fixed offset => Datable seconds ∧ Datable (seconds + offset)

/-- The first second that the zone displays. -/
def firstSecond : Zone → Int
  | .utc => -62135596800
  | .localTime => -62135510400
  | .fixed offset => max (-62135596800) (-62135596800 - offset)

/-- The last second that the zone displays. -/
def lastSecond : Zone → Int
  | .utc | .localTime => 253402300799
  | .fixed offset => min 253402300799 (253402300799 - offset)

theorem displayable_iff_between :
    Displayable seconds zone ↔ firstSecond zone ≤ seconds ∧ seconds ≤ lastSecond zone := by
  cases zone <;> simp only [Displayable, Datable, TooEarly, firstSecond, lastSecond] <;> omega

theorem datable_of_displayable (displayable : Displayable seconds zone) : Datable seconds := by
  cases zone with
  | utc => exact displayable
  | localTime => exact displayable.1
  | fixed offset => exact displayable.1

theorem yearInRange_iff : yearInRange (yearOfSecond seconds) ↔ Datable seconds := by
  have first := le_yearOfSecond_iff 1 seconds
  have beyond := le_yearOfSecond_iff 10000 seconds
  have firstDay : Calendar.daysBeforeYear 1 = 0 := by decide
  have beyondDay : Calendar.daysBeforeYear 10000 = 3652059 := by decide
  simp only [firstDay, beyondDay, Calendar.epochDay] at first beyond
  simp only [yearInRange, Datable]
  omega

theorem not_beyondWord_of_datable (datable : Datable seconds) : ¬ BeyondWord seconds := by
  simp only [Datable, BeyondWord] at *
  omega

theorem not_yearBeyondWord_of_datable (datable : Datable seconds) :
    ¬ YearBeyondWord (yearOfSecond seconds) := by
  have inRange := yearInRange_iff.mpr datable
  simp only [yearInRange, YearBeyondWord] at *
  omega

theorem dayBefore_lt_one_iff :
    yearOfSecond (seconds - secondsPerDay) < 1 ↔ TooEarly seconds := by
  have first := le_yearOfSecond_iff 1 (seconds - secondsPerDay)
  have firstDay : Calendar.daysBeforeYear 1 = 0 := by decide
  simp only [firstDay, Calendar.epochDay, secondsPerDay, TooEarly] at *
  omega

/-- The day before the first day of year 1 belongs to year 0. -/
theorem yearOfSecond_dayBefore (datable : Datable seconds) (early : TooEarly seconds) :
    yearOfSecond (seconds - secondsPerDay) = 0 := by
  have zeroth := le_yearOfSecond_iff 0 (seconds - secondsPerDay)
  have before := dayBefore_lt_one_iff.mpr early
  have zerothDay : Calendar.daysBeforeYear 0 = -366 := by decide
  simp only [zerothDay, Calendar.epochDay, secondsPerDay, Datable] at *
  omega

/-- What the check of a time can come to. Each failure stands for those that are looked for before
it not to have been found. -/
inductive ChecksTo (seconds : Int) : Zone → Except TimeError Unit → Prop
  | instant {zone : Zone} (beyond : BeyondWord seconds) :
      ChecksTo seconds zone (.error .instantOutOfRange)
  | wide {zone : Zone} (within : ¬ BeyondWord seconds)
      (wide : YearBeyondWord (yearOfSecond seconds)) :
      ChecksTo seconds zone (.error .yearTooWide)
  | year {zone : Zone} (within : ¬ BeyondWord seconds)
      (narrow : ¬ YearBeyondWord (yearOfSecond seconds)) (undatable : ¬ Datable seconds) :
      ChecksTo seconds zone (.error (.yearOutOfRange (yearOfSecond seconds)))
  | dayBefore (datable : Datable seconds) (early : TooEarly seconds) :
      ChecksTo seconds .localTime (.error (.yearOutOfRange 0))
  | shift {offset : Int} (datable : Datable seconds) (undatable : ¬ Datable (seconds + offset)) :
      ChecksTo seconds (.fixed offset) (.error .shiftOutOfRange)
  | displayable {zone : Zone} (displayable : Displayable seconds zone) :
      ChecksTo seconds zone (.ok ())

theorem check_of_datable (datable : Datable seconds) :
    check seconds zone = checkZone seconds zone := by
  have within := not_beyondWord_of_datable datable
  have narrow := not_yearBeyondWord_of_datable datable
  have inRange := yearInRange_iff.mpr datable
  exact (if_neg within).trans ((if_neg narrow).trans (if_neg (not_not_intro inRange)))

theorem checksTo_checkZone (datable : Datable seconds) :
    ChecksTo seconds zone (checkZone seconds zone) := by
  cases zone with
  | utc => exact .displayable datable
  | localTime =>
      simp only [checkZone]
      split
      · next before =>
          have early := dayBefore_lt_one_iff.mp before
          rw [yearOfSecond_dayBefore datable early]
          exact .dayBefore datable early
      · next reached => exact .displayable ⟨datable, mt dayBefore_lt_one_iff.mpr reached⟩
  | fixed offset =>
      simp only [checkZone]
      split
      · next inRange => exact .displayable ⟨datable, yearInRange_iff.mp inRange⟩
      · next outside => exact .shift datable (mt yearInRange_iff.mpr outside)

theorem checksTo_check (seconds : Int) (zone : Zone) :
    ChecksTo seconds zone (check seconds zone) := by
  by_cases datable : Datable seconds
  · rw [check_of_datable datable]
    exact checksTo_checkZone datable
  · have outside := mt yearInRange_iff.mp datable
    simp only [check]
    split
    · next beyond => exact .instant beyond
    · next within =>
        split
        · next wide => exact .wide within wide
        · next narrow => exact .year within narrow datable

/-- The cases exclude each other. -/
theorem ChecksTo.unique {other : Except TimeError Unit} (checks : ChecksTo seconds zone result)
    (checksOther : ChecksTo seconds zone other) : result = other := by
  have within := @not_beyondWord_of_datable
  have narrow := @not_yearBeyondWord_of_datable
  have datable := @datable_of_displayable
  cases checks <;> cases checksOther <;> grind [Displayable]

theorem checksTo_iff : ChecksTo seconds zone result ↔ check seconds zone = result := by
  constructor
  · exact fun checks => (checksTo_check seconds zone).unique checks
  · rintro rfl
    exact checksTo_check seconds zone

theorem check_eq_ok_iff : check seconds zone = .ok () ↔ Displayable seconds zone := by
  rw [← checksTo_iff]
  constructor
  · intro checks
    cases checks with
    | displayable displayable => exact displayable
  · exact .displayable

theorem check_eq_instant_iff :
    check seconds zone = .error .instantOutOfRange ↔ BeyondWord seconds := by
  rw [← checksTo_iff]
  constructor
  · intro checks
    cases checks with
    | instant beyond => exact beyond
  · exact .instant

theorem check_eq_wide_iff :
    check seconds zone = .error .yearTooWide ↔
      ¬ BeyondWord seconds ∧ YearBeyondWord (yearOfSecond seconds) := by
  rw [← checksTo_iff]
  constructor
  · intro checks
    cases checks with
    | wide within wide => exact ⟨within, wide⟩
  · intro found
    exact .wide found.1 found.2

/-- The year that is told is the one out of range, which is year 0 if only the day before is. -/
theorem check_eq_year_iff :
    check seconds zone = .error (.yearOutOfRange told) ↔
      ¬ BeyondWord seconds ∧ ¬ YearBeyondWord (yearOfSecond seconds) ∧
        (¬ yearInRange (yearOfSecond seconds) ∧ told = yearOfSecond seconds ∨
          yearInRange (yearOfSecond seconds) ∧ zone = .localTime ∧ TooEarly seconds ∧
            told = 0) := by
  simp only [← checksTo_iff, yearInRange_iff]
  constructor
  · intro checks
    cases checks with
    | year within narrow undatable => exact ⟨within, narrow, .inl ⟨undatable, rfl⟩⟩
    | dayBefore datable early =>
        exact ⟨not_beyondWord_of_datable datable, not_yearBeyondWord_of_datable datable,
          .inr ⟨datable, rfl, early, rfl⟩⟩
  · intro found
    obtain ⟨within, narrow, ⟨undatable, rfl⟩ | ⟨datable, rfl, early, rfl⟩⟩ := found
    · exact .year within narrow undatable
    · exact .dayBefore datable early

theorem check_eq_shift_iff :
    check seconds zone = .error .shiftOutOfRange ↔
      ∃ offset, zone = .fixed offset ∧ Datable seconds ∧ ¬ Datable (seconds + offset) := by
  rw [← checksTo_iff]
  constructor
  · intro checks
    cases checks with
    | shift datable undatable => exact ⟨_, rfl, datable, undatable⟩
  · intro found
    obtain ⟨offset, rfl, datable, undatable⟩ := found
    exact .shift datable undatable

theorem exists_check_eq_year_iff :
    (∃ told, check seconds zone = .error (.yearOutOfRange told)) ↔
      ¬ BeyondWord seconds ∧ ¬ YearBeyondWord (yearOfSecond seconds) ∧
        (¬ yearInRange (yearOfSecond seconds) ∨ zone = .localTime ∧ TooEarly seconds) := by
  simp only [check_eq_year_iff]
  constructor
  · intro found
    obtain ⟨told, within, narrow, ⟨outside, _⟩ | ⟨_, localTime, early, _⟩⟩ := found
    · exact ⟨within, narrow, .inl outside⟩
    · exact ⟨within, narrow, .inr ⟨localTime, early⟩⟩
  · intro found
    obtain ⟨within, narrow, cause⟩ := found
    by_cases inRange : yearInRange (yearOfSecond seconds)
    · obtain ⟨localTime, early⟩ := cause.resolve_left (not_not_intro inRange)
      exact ⟨0, within, narrow, .inr ⟨inRange, localTime, early, rfl⟩⟩
    · exact ⟨_, within, narrow, .inl ⟨inRange, rfl⟩⟩

/-- A time that can be dated is displayed unless local time or the offset stands in the way. -/
theorem exists_fixed_of_not_displayable (datable : Datable seconds)
    (hidden : ¬ Displayable seconds zone) (late : ¬ (zone = .localTime ∧ TooEarly seconds)) :
    ∃ offset, zone = .fixed offset ∧ Datable seconds ∧ ¬ Datable (seconds + offset) := by
  cases zone with
  | utc => exact absurd datable hidden
  | localTime => exact absurd ⟨datable, fun early => late ⟨rfl, early⟩⟩ hidden
  | fixed offset => exact ⟨offset, rfl, datable, fun shifted => hidden ⟨datable, shifted⟩⟩

/-- The shift is to blame when nothing else is. -/
theorem check_eq_shift_iff_not_displayable :
    check seconds zone = .error .shiftOutOfRange ↔
      ¬ Displayable seconds zone ∧ ¬ BeyondWord seconds ∧
        ¬ YearBeyondWord (yearOfSecond seconds) ∧
        ¬ (¬ yearInRange (yearOfSecond seconds) ∨ zone = .localTime ∧ TooEarly seconds) := by
  constructor
  · intro shifted
    obtain ⟨offset, rfl, datable, undatable⟩ := check_eq_shift_iff.mp shifted
    refine ⟨fun displayable => undatable displayable.2, not_beyondWord_of_datable datable,
      not_yearBeyondWord_of_datable datable, ?_⟩
    simp [yearInRange_iff.mpr datable]
  · intro found
    obtain ⟨hidden, _, _, shown⟩ := found
    obtain ⟨inRange, late⟩ := not_or.mp shown
    have datable := yearInRange_iff.mp (not_not.mp inRange)
    exact check_eq_shift_iff.mpr (exists_fixed_of_not_displayable datable hidden late)

theorem exists_render_eq_ok_iff {millis : Int} :
    (∃ text, render millis zone = .ok text) ↔ Displayable (millis / 1000) zone := by
  simp only [render_eq_ok_iff, check_eq_ok_iff, exists_and_left, exists_eq, and_true]

/-- A time is displayed just if its second is displayable in the zone, and the seconds that are form
an interval. For any other time there is one error: the first that applies of an instant that no
word holds, a year that no word holds, a year that no date can show and, under a fixed offset only,
a shift that leaves the dates. -/
theorem render_classified (millis : Int) (zone : Zone) :
    let seconds := millis / 1000
    let year := yearOfSecond seconds
    let unshownYear := ¬ yearInRange year ∨ zone = .localTime ∧ TooEarly seconds
    ((∃ text, render millis zone = .ok text) ↔ Displayable seconds zone) ∧
      (render millis zone = .error .instantOutOfRange ↔ BeyondWord seconds) ∧
      (render millis zone = .error .yearTooWide ↔ ¬ BeyondWord seconds ∧ YearBeyondWord year) ∧
      ((∃ told, render millis zone = .error (.yearOutOfRange told)) ↔
        ¬ BeyondWord seconds ∧ ¬ YearBeyondWord year ∧ unshownYear) ∧
      (render millis zone = .error .shiftOutOfRange ↔
        ¬ Displayable seconds zone ∧ ¬ BeyondWord seconds ∧ ¬ YearBeyondWord year ∧
          ¬ unshownYear) ∧
      (render millis zone = .error .shiftOutOfRange → ∃ offset, zone = .fixed offset) ∧
      TimeError.message .shiftOutOfRange = "date value out of range" ∧
      ∀ other, Displayable other zone ↔ firstSecond zone ≤ other ∧ other ≤ lastSecond zone := by
  intro seconds year unshownYear
  simp only [exists_render_eq_ok_iff, render_eq_error_iff]
  refine ⟨Iff.rfl, check_eq_instant_iff, check_eq_wide_iff, exists_check_eq_year_iff,
    check_eq_shift_iff_not_displayable, ?_, rfl, fun other => displayable_iff_between⟩
  intro shifted
  obtain ⟨offset, fixed, _⟩ := check_eq_shift_iff.mp shifted
  exact ⟨offset, fixed⟩

/-- In local time the first day of year 1 fails by the year of the day before. -/
example : render (-62135510400001) .localTime = .error (.yearOutOfRange 0) ∧
    render (-62135510400001) .utc = .ok "01-01 23:59:59.999" := by decide +kernel

end EvaluationTime

end DataGate
