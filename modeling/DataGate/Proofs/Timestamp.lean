import Mathlib.Data.Char
import Mathlib.Data.List.Forall2
import Mathlib.Data.List.Lex
import DataGate.Time.Stamp

/-!
A displayed time can be read back: with the year it determines the instant, and within one year
texts are ordered as the instants are. Stamps are compared field by field, from the month to the
millisecond, both as texts and as instants.
-/

namespace DataGate

namespace Calendar

theorem totalDays_take_succ (lengths : List Nat) (months : Nat) :
    totalDays (lengths.take (months + 1)) =
      totalDays (lengths.take months) + lengths.getD months 0 := by
  induction lengths generalizing months with
  | nil => simp [totalDays]
  | cons length rest ih =>
      cases months with
      | zero => simp [totalDays]
      | succ months =>
          simp only [List.take_succ_cons, totalDays, List.getD_cons_succ]
          rw [ih months, Nat.add_assoc]

theorem totalDays_take_mono (lengths : List Nat) {earlier later : Nat} (ordered : earlier ≤ later) :
    totalDays (lengths.take earlier) ≤ totalDays (lengths.take later) := by
  induction ordered with
  | refl => exact Nat.le_refl _
  | step _ ih =>
      rw [totalDays_take_succ]
      exact Nat.le_add_right_of_le ih

theorem monthLength_le (year : Int) (month : Nat) : monthLength year month ≤ 31 := by
  have each : ∀ length ∈ monthLengths year, length ≤ 31 := by
    unfold monthLengths
    split <;> decide
  rw [monthLength, List.getD_eq_getElem?_getD]
  cases found : (monthLengths year)[month - 1]? with
  | none => exact Nat.zero_le 31
  | some length => exact each length (List.mem_of_getElem? found)

end Calendar

namespace CivilDate

open Calendar

variable {left right : CivilDate}

theorem Valid.toDay_lt (valid : left.Valid) (validRight : right.Valid)
    (sameYear : left.year = right.year) (before : left.month < right.month) :
    left.toDay < right.toDay := by
  have within := totalDays_take_succ (monthLengths left.year) (left.month - 1)
  have months : left.month - 1 + 1 ≤ right.month - 1 := by
    have positive := valid.month_pos
    omega
  have total := totalDays_take_mono (monthLengths left.year) months
  have day := valid.day_le
  have positive := validRight.day_pos
  simp only [toDay, ← sameYear]
  unfold monthLength at day
  omega

end CivilDate

namespace Stamp

variable {year seconds : Int} {milli value other : Nat} {stamp left right : Stamp}
variable {rest restOther : List Char}

def date (year : Int) (stamp : Stamp) : CivilDate where
  year
  month := stamp.month
  day := stamp.day

def secondOfDay (stamp : Stamp) : Nat :=
  stamp.hour * 3600 + stamp.minute * 60 + stamp.second

theorem toDay_date :
    (stamp.date year).toDay =
      Calendar.daysBeforeYear year +
        Calendar.totalDays ((Calendar.monthLengths year).take (stamp.month - 1)) + stamp.day - 1 -
        Calendar.epochDay :=
  rfl

theorem toMillis_eq :
    stamp.toMillis year =
      ((stamp.date year).toDay * 86400 + stamp.secondOfDay) * 1000 + stamp.milli :=
  rfl

/-- The fields, from the one that weighs most. -/
def fields (stamp : Stamp) : List Nat :=
  [stamp.month, stamp.day, stamp.hour, stamp.minute, stamp.second, stamp.milli]

theorem fields_injective (same : left.fields = right.fields) : left = right := by
  obtain ⟨_, _, _, _, _, _⟩ := left
  obtain ⟨_, _, _, _, _, _⟩ := right
  simpa [fields] using same

theorem fields_lt_iff :
    left.fields < right.fields ↔
      left.month < right.month ∨ left.month = right.month ∧
      (left.day < right.day ∨ left.day = right.day ∧
      (left.hour < right.hour ∨ left.hour = right.hour ∧
      (left.minute < right.minute ∨ left.minute = right.minute ∧
      (left.second < right.second ∨ left.second = right.second ∧ left.milli < right.milli)))) := by
  simp only [fields, List.cons_lt_cons_iff, List.lt_irrefl, and_false, or_false]

theorem digit_mod (value : Nat) : digit (value % 10) = digit value := by
  simp only [digit, Nat.mod_mod]

theorem digit?_digit (value : Nat) : digit? (digit value) = some (value % 10) := by
  have each : ∀ units < 10, digit? (digit units) = some units := by decide
  rw [← digit_mod]
  exact each (value % 10) (Nat.mod_lt value (by decide))

theorem isDigit_digit (value : Nat) : (digit value).isDigit = true := by
  have each : ∀ units < 10, (digit units).isDigit = true := by decide
  rw [← digit_mod]
  exact each (value % 10) (Nat.mod_lt value (by decide))

theorem digit_lt (before : value % 10 < other % 10) : digit value < digit other := by
  have each : ∀ large < 10, ∀ small < large, digit small < digit large := by decide
  rw [← digit_mod value, ← digit_mod other]
  exact each (other % 10) (Nat.mod_lt other (by decide)) (value % 10) before

theorem digit_eq (same : value % 10 = other % 10) : digit value = digit other := by
  rw [← digit_mod value, ← digit_mod other, same]

theorem twoDigits_lt (before : value % 100 < other % 100) :
    twoDigits value ++ rest < twoDigits other ++ restOther := by
  simp only [twoDigits, List.cons_append, List.nil_append, List.cons_lt_cons_iff]
  by_cases tens : value / 10 % 10 = other / 10 % 10
  · exact .inr ⟨digit_eq tens, .inl (digit_lt (by omega))⟩
  · exact .inl (digit_lt (by omega))

theorem threeDigits_lt (small : other < 1000) (before : value < other) :
    threeDigits value < threeDigits other := by
  by_cases hundreds : value / 100 % 10 = other / 100 % 10
  · have tail : twoDigits value ++ [] < twoDigits other ++ [] := twoDigits_lt (by omega)
    exact List.cons_lt_cons_iff.mpr (.inr ⟨digit_eq hundreds, tail⟩)
  · exact List.cons_lt_cons_iff.mpr (.inl (digit_lt (by omega)))

/-- Texts that begin with a field of two digits and the same mark are ordered by the field and then
by what follows. -/
theorem twoDigits_lt_or (mark : Char) (small : value < 100) (smallOther : other < 100)
    (before : value < other ∨ value = other ∧ rest < restOther) :
    twoDigits value ++ mark :: rest < twoDigits other ++ mark :: restOther := by
  rcases before with smaller | ⟨rfl, later⟩
  · apply twoDigits_lt
    rwa [Nat.mod_eq_of_lt small, Nat.mod_eq_of_lt smallOther]
  · exact List.append_left_lt (List.cons_lt_cons_self.mpr later)

theorem number?_twoDigits (small : value < 100) : number? (twoDigits value) = some value := by
  simp only [number?, twoDigits, List.mapM_cons, List.mapM_nil, digit?_digit]
  simp
  omega

theorem number?_threeDigits (small : value < 1000) : number? (threeDigits value) = some value := by
  simp only [number?, threeDigits, List.mapM_cons, List.mapM_nil, digit?_digit]
  simp
  omega

theorem Valid.month_lt (valid : stamp.Valid year) : stamp.month < 100 :=
  Nat.lt_of_le_of_lt valid.date.month_le (by decide)

theorem Valid.day_lt (valid : stamp.Valid year) : stamp.day < 100 :=
  calc stamp.day ≤ Calendar.monthLength year stamp.month := valid.date.day_le
    _ ≤ 31 := Calendar.monthLength_le year stamp.month
    _ < 100 := by decide

theorem Valid.secondOfDay_lt (valid : stamp.Valid year) : stamp.secondOfDay < 86400 := by
  have hour := valid.hour_lt
  have minute := valid.minute_lt
  have second := valid.second_lt
  unfold secondOfDay
  omega

theorem Valid.read?_render (valid : stamp.Valid year) : read? stamp.render = some stamp := by
  have hour : stamp.hour < 100 := valid.hour_lt.trans (by decide)
  have minute : stamp.minute < 100 := valid.minute_lt.trans (by decide)
  have second : stamp.second < 100 := valid.second_lt.trans (by decide)
  change (do
    let month ← number? (twoDigits stamp.month)
    let day ← number? (twoDigits stamp.day)
    let hour ← number? (twoDigits stamp.hour)
    let minute ← number? (twoDigits stamp.minute)
    let second ← number? (twoDigits stamp.second)
    let milli ← number? (threeDigits stamp.milli)
    some { month, day, hour, minute, second, milli }) = some stamp
  rw [number?_twoDigits valid.month_lt, number?_twoDigits valid.day_lt, number?_twoDigits hour,
    number?_twoDigits minute, number?_twoDigits second, number?_threeDigits valid.milli_lt]
  rfl

theorem Valid.render_lt (valid : left.Valid year) (validRight : right.Valid year)
    (before : left.fields < right.fields) : left.render < right.render := by
  have wide {field : Nat} (narrow : field < 60) : field < 100 := narrow.trans (by decide)
  have hour {stamp : Stamp} (valid : stamp.Valid year) : stamp.hour < 100 :=
    valid.hour_lt.trans (by decide)
  refine twoDigits_lt_or '-' valid.month_lt validRight.month_lt
    ((fields_lt_iff.mp before).imp_right (And.imp_right fun before => ?_))
  refine twoDigits_lt_or ' ' valid.day_lt validRight.day_lt
    (before.imp_right (And.imp_right fun before => ?_))
  refine twoDigits_lt_or ':' (hour valid) (hour validRight)
    (before.imp_right (And.imp_right fun before => ?_))
  refine twoDigits_lt_or ':' (wide valid.minute_lt) (wide validRight.minute_lt)
    (before.imp_right (And.imp_right fun before => ?_))
  exact twoDigits_lt_or '.' (wide valid.second_lt) (wide validRight.second_lt)
    (before.imp_right (And.imp_right (threeDigits_lt validRight.milli_lt)))

theorem Valid.toDay_lt (valid : left.Valid year) (validRight : right.Valid year)
    (before : left.month < right.month ∨ left.month = right.month ∧ left.day < right.day) :
    (left.date year).toDay < (right.date year).toDay := by
  rcases before with month | ⟨month, day⟩
  · exact CivilDate.Valid.toDay_lt valid.date validRight.date rfl month
  · rw [toDay_date, toDay_date, month]
    omega

theorem toDay_congr (month : left.month = right.month) (day : left.day = right.day) :
    (left.date year).toDay = (right.date year).toDay := by
  rw [toDay_date, toDay_date, month, day]

theorem Valid.toMillis_lt (valid : left.Valid year) (validRight : right.Valid year)
    (before : left.fields < right.fields) : left.toMillis year < right.toMillis year := by
  have second := valid.secondOfDay_lt
  have milli := valid.milli_lt
  have minuteLt := valid.minute_lt
  have secondLt := valid.second_lt
  rw [toMillis_eq, toMillis_eq]
  rcases fields_lt_iff.mp before with month | ⟨month, day | ⟨day, within⟩⟩
  · have later := valid.toDay_lt validRight (.inl month)
    omega
  · have later := valid.toDay_lt validRight (.inr ⟨month, day⟩)
    omega
  · rw [toDay_congr month day]
    unfold secondOfDay
    omega

/-- Stamps of one year are ordered as texts as they are ordered in time. -/
theorem Valid.render_lt_iff (valid : left.Valid year) (validRight : right.Valid year) :
    left.render < right.render ↔ left.toMillis year < right.toMillis year := by
  rcases lt_trichotomy left.fields right.fields with before | same | after
  · exact iff_of_true (valid.render_lt validRight before) (valid.toMillis_lt validRight before)
  · cases fields_injective same
    exact iff_of_false (lt_irrefl _) (Int.lt_irrefl _)
  · exact iff_of_false (validRight.render_lt valid after).asymm
      (Int.lt_asymm (validRight.toMillis_lt valid after))

theorem valid_ofSecond (seconds : Int) (small : milli < 1000) :
    (ofSecond seconds milli).Valid (yearOfSecond seconds) := by
  have time : (seconds % secondsPerDay).toNat < 86400 := by
    unfold secondsPerDay
    omega
  constructor
  · exact CivilDate.valid_ofDay (seconds / secondsPerDay)
  · exact Nat.div_lt_of_lt_mul time
  · exact Nat.mod_lt _ (by decide)
  · exact Nat.mod_lt _ (by decide)
  · exact small

theorem toMillis_ofSecond (seconds : Int) (milli : Nat) :
    (ofSecond seconds milli).toMillis (yearOfSecond seconds) = seconds * 1000 + milli := by
  have day : ((ofSecond seconds milli).date (yearOfSecond seconds)).toDay = seconds / 86400 :=
    CivilDate.toDay_ofDay (seconds / secondsPerDay)
  have time : (ofSecond seconds milli).secondOfDay = (seconds % 86400).toNat := by
    simp only [secondOfDay, ofSecond, secondsPerDay]
    omega
  rw [toMillis_eq, day, time]
  change _ * 1000 + (milli : Int) = _
  omega

/-- The shape of a displayed stamp: every `d` stands for a digit. -/
def shape : List Char := "dd-dd dd:dd:dd.ddd".toList

def Fits (pattern character : Char) : Prop :=
  if pattern = 'd' then character.isDigit = true else character = pattern

theorem fits_mark (mark : Char) (other : mark ≠ 'd') {pattern : List Char}
    (fits : List.Forall₂ Fits pattern rest) :
    List.Forall₂ Fits (mark :: pattern) (mark :: rest) :=
  .cons ((if_neg other).mpr rfl) fits

theorem fits_digit (value : Nat) {pattern : List Char} (fits : List.Forall₂ Fits pattern rest) :
    List.Forall₂ Fits ('d' :: pattern) (digit value :: rest) :=
  .cons (isDigit_digit value) fits

theorem fits_twoDigits (value : Nat) {pattern : List Char}
    (fits : List.Forall₂ Fits pattern rest) :
    List.Forall₂ Fits ('d' :: 'd' :: pattern) (twoDigits value ++ rest) :=
  fits_digit (value / 10) (fits_digit value fits)

theorem render_fits (stamp : Stamp) : List.Forall₂ Fits shape stamp.render := by
  have spelled : shape = ['d', 'd', '-', 'd', 'd', ' ', 'd', 'd', ':', 'd', 'd', ':', 'd', 'd', '.',
      'd', 'd', 'd'] := rfl
  rw [spelled]
  refine fits_twoDigits stamp.month (fits_mark '-' (by decide) ?_)
  refine fits_twoDigits stamp.day (fits_mark ' ' (by decide) ?_)
  refine fits_twoDigits stamp.hour (fits_mark ':' (by decide) ?_)
  refine fits_twoDigits stamp.minute (fits_mark ':' (by decide) ?_)
  refine fits_twoDigits stamp.second (fits_mark '.' (by decide) ?_)
  exact fits_digit (stamp.milli / 100) (fits_twoDigits stamp.milli .nil)

/-- The first instant of a year. -/
def startOfYear (year : Int) : Int :=
  toMillis year { month := 1, day := 1, hour := 0, minute := 0, second := 0, milli := 0 }

theorem startOfYear_eq (year : Int) :
    startOfYear year = (Calendar.daysBeforeYear year - Calendar.epochDay) * 86400 * 1000 := by
  rw [startOfYear, toMillis_eq, toDay_date]
  simp only [secondOfDay, Nat.sub_self, List.take_zero, Calendar.totalDays]
  omega

theorem startOfYear_le (seconds : Int) (milli : Nat) :
    startOfYear (yearOfSecond seconds) ≤ seconds * 1000 + milli := by
  have start := Calendar.daysBeforeYear_yearOfDay_le (seconds / secondsPerDay)
  rw [startOfYear_eq, yearOfSecond]
  unfold secondsPerDay at *
  omega

theorem lt_startOfYear_succ (seconds : Int) (small : milli < 1000) :
    seconds * 1000 + milli < startOfYear (yearOfSecond seconds + 1) := by
  have finish := Calendar.lt_daysBeforeYear_yearOfDay_succ (seconds / secondsPerDay)
  rw [startOfYear_eq, yearOfSecond]
  unfold secondsPerDay at *
  omega

end Stamp

namespace EvaluationTime

open Stamp

variable {millis other : Int} {zone : Zone} {text otherText : String}

/-- The year in force in the zone. -/
def yearOf (millis : Int) (zone : Zone) : Int :=
  yearOfSecond (millis / 1000 + zone.offset)

theorem milli_lt (millis : Int) : (millis % 1000).toNat < 1000 := by
  omega

theorem shifted_eq (millis : Int) (zone : Zone) :
    (millis / 1000 + zone.offset) * 1000 + (millis % 1000).toNat =
      millis + 1000 * zone.offset := by
  omega

theorem valid_stamp (millis : Int) (zone : Zone) :
    (stamp millis zone).Valid (yearOf millis zone) :=
  valid_ofSecond (millis / 1000 + zone.offset) (milli_lt millis)

theorem toMillis_stamp (millis : Int) (zone : Zone) :
    (stamp millis zone).toMillis (yearOf millis zone) = millis + 1000 * zone.offset :=
  (toMillis_ofSecond (millis / 1000 + zone.offset) (millis % 1000).toNat).trans
    (shifted_eq millis zone)

theorem within_year (millis : Int) (zone : Zone) :
    startOfYear (yearOf millis zone) ≤ millis + 1000 * zone.offset ∧
      millis + 1000 * zone.offset < startOfYear (yearOf millis zone + 1) := by
  rw [← shifted_eq]
  exact ⟨startOfYear_le (millis / 1000 + zone.offset) (millis % 1000).toNat,
    lt_startOfYear_succ (millis / 1000 + zone.offset) (milli_lt millis)⟩

theorem toList_of_render (rendered : render millis zone = .ok text) :
    text.toList = (stamp millis zone).render := by
  rw [(render_eq_ok_iff.mp rendered).2, String.toList_ofList]

theorem lt_iff_of_render (rendered : render millis zone = .ok text)
    (renderedOther : render other zone = .ok otherText)
    (sameYear : yearOf other zone = yearOf millis zone) :
    text < otherText ↔ millis < other := by
  have validOther := valid_stamp other zone
  have otherMillis := toMillis_stamp other zone
  rw [sameYear] at validOther otherMillis
  change text.toList < otherText.toList ↔ _
  rw [toList_of_render rendered, toList_of_render renderedOther,
    (valid_stamp millis zone).render_lt_iff validOther, toMillis_stamp, otherMillis]
  omega

theorem eq_of_render_eq (rendered : render millis zone = .ok text)
    (renderedOther : render other zone = .ok text)
    (sameYear : yearOf other zone = yearOf millis zone) : millis = other := by
  have equal := String.lt_irrefl text
  have below := (lt_iff_of_render rendered renderedOther sameYear).not.mp equal
  have above := (lt_iff_of_render renderedOther rendered sameYear.symm).not.mp equal
  omega

/-- A displayed time has one shape and, with its year, stands for the instant that it displays. Two
times of one year in one zone have the same text only if they are equal, and the order of their
texts is their own. -/
theorem render_invertible (rendered : render millis zone = .ok text) :
    let year := yearOf millis zone
    let shifted := millis + 1000 * zone.offset
    (startOfYear year ≤ shifted ∧ shifted < startOfYear (year + 1)) ∧
      text.length = 18 ∧ List.Forall₂ Fits shape text.toList ∧
      (∃ stamp, read? text.toList = some stamp ∧ stamp.Valid year ∧
        stamp.toMillis year = shifted) ∧
      ∀ other otherText, render other zone = .ok otherText → yearOf other zone = year →
        (text = otherText → millis = other) ∧ (text < otherText ↔ millis < other) := by
  intro year shifted
  have spelled := toList_of_render rendered
  have fits : List.Forall₂ Fits shape text.toList := by
    rw [spelled]
    exact render_fits (stamp millis zone)
  refine ⟨within_year millis zone, fits.length_eq.symm, fits, ⟨stamp millis zone, ?_⟩, ?_⟩
  · rw [spelled]
    exact ⟨(valid_stamp millis zone).read?_render, valid_stamp millis zone,
      toMillis_stamp millis zone⟩
  · intro other otherText renderedOther sameYear
    refine ⟨fun same => ?_, lt_iff_of_render rendered renderedOther sameYear⟩
    rw [← same] at renderedOther
    exact eq_of_render_eq rendered renderedOther sameYear

/-- The end of a leap day an hour ahead of UTC, and the millisecond before it. -/
theorem render_invertible_leapDay :
    let zone := Zone.fixed 3600
    render 951865199999 zone = .ok "02-29 23:59:59.999" ∧
      render 951865199998 zone = .ok "02-29 23:59:59.998" ∧ yearOf 951865199999 zone = 2000 ∧
      (∃ stamp, read? "02-29 23:59:59.999".toList = some stamp ∧ stamp.Valid 2000 ∧
        stamp.toMillis 2000 = 951868799999) ∧
      ("02-29 23:59:59.999" < "02-29 23:59:59.998" ↔ (951865199999 : Int) < 951865199998) := by
  intro zone
  have rendered : render 951865199999 zone = .ok "02-29 23:59:59.999" := by decide +kernel
  have renderedOther : render 951865199998 zone = .ok "02-29 23:59:59.998" := by decide +kernel
  have year : yearOf 951865199999 zone = 2000 := by decide +kernel
  have yearOther : yearOf 951865199998 zone = 2000 := by decide +kernel
  obtain ⟨_, _, _, readBack, compared⟩ := render_invertible rendered
  rw [year] at readBack
  exact ⟨rendered, renderedOther, year, readBack,
    (compared _ _ renderedOther (yearOther.trans year.symm)).2⟩

end EvaluationTime

end DataGate
