/-
Module: DirectoryQuery.Proofs.Calendar.GeneralizedTime
Purpose: The moments of filters.  With four digits for the year they read as the second that the
  moment lies in, and come in the order of time; years of less than four digits are written short.
Main exports:
  Moment.ofGeneralizedTime?, Moment.wholeSeconds, withFullYear, Moment.IsStamp,
  Moment.stamps_in_order
-/
import DirectoryQuery.Proofs.Calendar.Instant
import DirectoryQuery.Proofs.Calendar.Padded
import DirectoryQuery.Proofs.Filter.Assertion

namespace DirectoryQuery.Calendar

open Text

/-- A time with as many zeros in front as its year is short of four digits. -/
def withFullYear (text : List Char) : List Char :=
  List.replicate ("YYYYmmddHHMMSSZ".length - text.length) '0' ++ text

namespace Moment

/-- Reads a moment of universal time: four digits for the year, two for each of month, day, hour,
minute and second, and the mark of universal time. -/
def ofGeneralizedTime? (text : List Char) : Option Moment := do
  let (year, text) ← readDigits? 4 text
  let (month, text) ← readDigits? 2 text
  let (day, text) ← readDigits? 2 text
  let (hour, text) ← readDigits? 2 text
  let (minute, text) ← readDigits? 2 text
  let (second, text) ← readDigits? 2 text
  if text = ['Z'] then
    let date ← Date.ofParts? year month day
    ofParts? date hour minute second 0 (some 0)
  else
    none

/-- The whole seconds from the beginning of the calendar to a moment. -/
def wholeSeconds (moment : Moment) : Int := moment.instant / microsecondsPerSecond

variable {moment one other : Moment}

/-! ### Order of moments of universal time -/

theorem secondOfDay_lt (moment : Moment) : moment.secondOfDay < secondsPerDay := by
  have := moment.hour_lt
  have := moment.minute_lt
  have := moment.second_lt
  simp only [secondOfDay, secondsPerDay]
  omega

theorem wholeSeconds_eq (universal : moment.offset.getD 0 = 0) :
    moment.wholeSeconds = (moment.date.dayNumber * secondsPerDay + moment.secondOfDay : Nat) := by
  have := moment.microsecond_lt
  simp only [wholeSeconds, instant, universal, microsecondOfDay, microsecondsPerDay, secondsPerDay,
    microsecondsPerSecond]
  omega

theorem secondOfDay_lt_iff :
    one.secondOfDay < other.secondOfDay ↔
      one.hour < other.hour ∨ one.hour = other.hour ∧
        (one.minute < other.minute ∨ one.minute = other.minute ∧ one.second < other.second) := by
  have := one.minute_lt
  have := one.second_lt
  have := other.minute_lt
  have := other.second_lt
  simp only [secondOfDay]
  omega

/-- Moments of universal time are in the order of their days, and on one day in the order of what
the clock shows. -/
theorem wholeSeconds_lt_iff (universal : one.offset.getD 0 = 0)
    (universal' : other.offset.getD 0 = 0) :
    one.wholeSeconds < other.wholeSeconds ↔
      one.date.dayNumber < other.date.dayNumber ∨
        one.date.dayNumber = other.date.dayNumber ∧ one.secondOfDay < other.secondOfDay := by
  have mono : Monotone fun days => days * secondsPerDay := by
    intro days later ordered
    exact Nat.mul_le_mul_right _ ordered
  have within : ∀ moment : Moment, moment.date.dayNumber * secondsPerDay + moment.secondOfDay <
      (moment.date.dayNumber + 1) * secondsPerDay := by
    intro moment
    have := moment.secondOfDay_lt
    rw [Nat.add_mul, Nat.one_mul]
    omega
  rw [wholeSeconds_eq universal, wholeSeconds_eq universal', Int.ofNat_lt]
  exact start_add_lt_iff mono (within one) (within other)

/-! ### Texts -/

/-- What stands behind the year of a moment: month, day, hour, minute and second with two digits
each, and the mark of universal time. -/
def afterYear (moment : Moment) : List Char :=
  padded 2 moment.date.month ++ (padded 2 moment.date.day ++ (padded 2 moment.hour ++
    (padded 2 moment.minute ++ (padded 2 moment.second ++ ['Z']))))

theorem generalizedTime_eq (moment : Moment) :
    moment.generalizedTime = Numeric.digitsOf moment.date.year ++ moment.afterYear := by
  simp only [generalizedTime, afterYear, List.append_assoc]

/-- The parts of a moment fit in the digits that they are given. -/
theorem parts_lt (moment : Moment) :
    moment.date.year < 10 ^ 4 ∧ moment.date.month < 10 ^ 2 ∧ moment.date.day < 10 ^ 2 ∧
      moment.hour < 10 ^ 2 ∧ moment.minute < 10 ^ 2 ∧ moment.second < 10 ^ 2 := by
  have := moment.date.year_le
  have := moment.date.month_le
  have := moment.date.day_le
  have := daysInMonth_le moment.date.year moment.date.month
  have := moment.hour_lt
  have := moment.minute_lt
  have := moment.second_lt
  simp only [lastYear] at *
  omega

theorem length_afterYear (moment : Moment) : moment.afterYear.length = 11 := by
  obtain ⟨-, month, day, hour, minute, second⟩ := moment.parts_lt
  simp only [afterYear, List.length_append, length_padded month, length_padded day,
    length_padded hour, length_padded minute, length_padded second, List.length_singleton]

theorem withFullYear_generalizedTime (moment : Moment) :
    withFullYear moment.generalizedTime = padded 4 moment.date.year ++ moment.afterYear := by
  have missing (digits : Nat) : "YYYYmmddHHMMSSZ".length - (digits + 11) = 4 - digits := by
    rw [show "YYYYmmddHHMMSSZ".length = 4 + 11 from rfl, Nat.add_sub_add_right]
  rw [generalizedTime_eq, withFullYear, List.length_append, length_afterYear, missing, padded,
    List.append_assoc]

/-- Nothing is missing from the first year of four digits on. -/
theorem withFullYear_eq_self_iff :
    withFullYear moment.generalizedTime = moment.generalizedTime ↔ 1000 ≤ moment.date.year := by
  have digits : (Numeric.digitsOf moment.date.year).length ≤ 3 ↔ moment.date.year < 10 ^ 3 :=
    Nat.length_toDigits_le_iff (by decide) (by decide)
  rw [withFullYear_generalizedTime, generalizedTime_eq, List.append_left_inj, padded,
    List.append_left_eq_self, List.replicate_eq_nil_iff]
  omega

/-- A time with a full year reads as the beginning of the second that the clock shows. -/
theorem exists_ofGeneralizedTime? (universal : moment.offset.getD 0 = 0) :
    ∃ stamp, ofGeneralizedTime? (withFullYear moment.generalizedTime) = some stamp ∧
      stamp.instant = moment.wholeSeconds * microsecondsPerSecond := by
  obtain ⟨year, month, day, hour, minute, second⟩ := moment.parts_lt
  have date : Date.ofParts? moment.date.year moment.date.month moment.date.day =
      some moment.date := Date.ofParts?_eq_some_iff.2 ⟨rfl, rfl, rfl⟩
  have noShift : ∀ ahead : Int, some 0 = some ahead → ahead.natAbs < microsecondsPerDay := by
    rintro ahead ⟨⟩
    decide
  rw [withFullYear_generalizedTime, ofGeneralizedTime?, afterYear]
  simp only [readDigits?_padded _ year, readDigits?_padded _ month, readDigits?_padded _ day,
    readDigits?_padded _ hour, readDigits?_padded _ minute, readDigits?_padded _ second,
    Option.bind_eq_bind, Option.bind_some, if_true, date]
  rw [ofParts?, dif_pos ⟨moment.hour_lt, moment.minute_lt, moment.second_lt, by decide⟩,
    dif_pos noShift]
  refine ⟨_, rfl, ?_⟩
  rw [wholeSeconds_eq universal]
  simp only [instant, microsecondOfDay, secondOfDay, Option.getD_some, microsecondsPerDay,
    secondsPerDay, microsecondsPerSecond]
  omega

/-- Times with full years are in the order of what they stand for. -/
theorem earlier_withFullYear_iff :
    Earlier (withFullYear one.generalizedTime) (withFullYear other.generalizedTime) ↔
      one.date.dayNumber < other.date.dayNumber ∨
        one.date.dayNumber = other.date.dayNumber ∧ one.secondOfDay < other.secondOfDay := by
  obtain ⟨year, month, day, hour, minute, second⟩ := one.parts_lt
  obtain ⟨year', month', day', hour', minute', second'⟩ := other.parts_lt
  have marks : ¬Earlier ['Z'] ['Z'] := by decide
  rw [withFullYear_generalizedTime, withFullYear_generalizedTime, afterYear, afterYear,
    earlier_padded_append_iff year year', earlier_padded_append_iff month month',
    earlier_padded_append_iff day day', earlier_padded_append_iff hour hour',
    earlier_padded_append_iff minute minute', earlier_padded_append_iff second second',
    secondOfDay_lt_iff, Date.dayNumber_lt_iff, Date.dayNumber_eq_iff]
  simp only [marks, and_false, or_false, and_or_left, and_assoc, or_assoc]

/-! ### Moments in filters -/

theorem escaped_generalizedTime (moment : Moment) :
    escaped moment.generalizedTime = moment.generalizedTime := by
  apply escaped_eq_self
  intro c listed
  simp only [generalizedTime_eq, afterYear, List.mem_append, List.mem_singleton] at listed
  rcases listed with year | month | day | hour | minute | second | rfl
  · exact isFilterSpecial_of_isDigit (Nat.isDigit_of_mem_toDigits (by decide) (by decide) year)
  · exact isFilterSpecial_of_isDigit (isDigit_of_mem_padded month)
  · exact isFilterSpecial_of_isDigit (isDigit_of_mem_padded day)
  · exact isFilterSpecial_of_isDigit (isDigit_of_mem_padded hour)
  · exact isFilterSpecial_of_isDigit (isDigit_of_mem_padded minute)
  · exact isFilterSpecial_of_isDigit (isDigit_of_mem_padded second)
  · rfl

/-- A text is what stands in filters for a moment: it names the second of universal time that the
moment lies in, in full if that is in a year of four digits. -/
structure IsStamp (moment : Moment) (text : List Char) : Prop where
  written : (Value.moment moment).assertion.map Assertion.written = .ok text
  reads : ∃ stamp, ofGeneralizedTime? (withFullYear text) = some stamp ∧
    stamp.instant = moment.wholeSeconds * microsecondsPerSecond
  full_iff : withFullYear text = text ↔ beginningOfYear 1000 ≤ moment.instant

theorem isStamp_of_utc? {universal : Moment} (found : moment.utc? = some universal) :
    moment.IsStamp universal.generalizedTime := by
  obtain ⟨same, noShift⟩ := instant_of_utc? found
  constructor
  case written =>
    rw [Value.assertion, found]
    exact congrArg Except.ok (escaped_generalizedTime universal)
  case reads =>
    rw [wholeSeconds, ← same]
    exact exists_ofGeneralizedTime? noShift
  case full_iff =>
    rw [withFullYear_eq_self_iff, ← same, beginningOfYear_le_instant_iff noShift]

/-- Every moment without an offset, and every other whose instant is in the calendar, can stand in a
filter.  With full years, the texts of two of them are in the order of the seconds that they lie in.
-/
theorem stamps_in_order (reached : one.offset = none ∨ one.IsInCalendar)
    (reached' : other.offset = none ∨ other.IsInCalendar) :
    ∃ text text', one.IsStamp text ∧ other.IsStamp text' ∧
      (Earlier (withFullYear text) (withFullYear text') ↔
        one.wholeSeconds < other.wholeSeconds) := by
  have inside {moment : Moment} (reached : moment.offset = none ∨ moment.IsInCalendar) :
      moment.IsInCalendar := by
    rcases reached with none | inside
    · exact isInCalendar_of_offset (by rw [none, Option.getD_none])
    · exact inside
  obtain ⟨universal, found⟩ := exists_utc?_iff.2 (inside reached)
  obtain ⟨universal', found'⟩ := exists_utc?_iff.2 (inside reached')
  obtain ⟨same, noShift⟩ := instant_of_utc? found
  obtain ⟨same', noShift'⟩ := instant_of_utc? found'
  refine ⟨_, _, isStamp_of_utc? found, isStamp_of_utc? found', ?_⟩
  calc Earlier (withFullYear universal.generalizedTime) (withFullYear universal'.generalizedTime)
    _ ↔ _ := earlier_withFullYear_iff
    _ ↔ universal.wholeSeconds < universal'.wholeSeconds :=
      (wholeSeconds_lt_iff noShift noShift').symm
    _ ↔ one.wholeSeconds < other.wholeSeconds := by
      rw [wholeSeconds, wholeSeconds, same, same', wholeSeconds, wholeSeconds]

/-- Half an hour before midnight at the end of a leap year, where clocks are an hour behind. -/
def newYearsEve : Moment :=
  ((Date.ofParts? 2000 12 31).bind fun date =>
    ofParts? date 23 30 0 999999 (some (-3600000000))).get (by decide)

/-- A quarter of an hour later, where clocks show universal time. -/
def newYearsDay : Moment :=
  ((Date.ofParts? 2001 1 1).bind fun date => ofParts? date 0 45 0 0 none).get (by decide)

/-- The clocks show two years, and the moments are in one. -/
theorem stamps_in_order_newYear :
    newYearsEve.IsInCalendar ∧ newYearsDay.offset = none ∧
      ∃ text text', newYearsEve.IsStamp text ∧ newYearsDay.IsStamp text' ∧
        (Earlier (withFullYear text) (withFullYear text') ↔
          newYearsEve.wholeSeconds < newYearsDay.wholeSeconds) := by
  have inside : newYearsEve.IsInCalendar :=
    exists_utc?_iff.1 (Option.isSome_iff_exists.1 (by decide +kernel))
  exact ⟨inside, rfl, stamps_in_order (.inr inside) (.inl rfl)⟩

/-- The last second of a year of three digits. -/
def lastSecond : Moment :=
  ((Date.ofParts? 999 12 31).bind fun date => ofParts? date 23 59 59 0 none).get (by decide)

/-- The second that follows it. -/
def nextSecond : Moment :=
  ((Date.ofParts? 1000 1 1).bind fun date => ofParts? date 0 0 0 0 none).get (by decide)

/-- The year 999 is written with three digits.  The text is no time in the promised form, and it
comes behind that of the next second. -/
theorem stamps_out_of_order :
    lastSecond.IsStamp "9991231235959Z".toList ∧ nextSecond.IsStamp "10000101000000Z".toList ∧
      ofGeneralizedTime? "9991231235959Z".toList = none ∧
      lastSecond.wholeSeconds < nextSecond.wholeSeconds ∧
      Earlier "10000101000000Z".toList "9991231235959Z".toList := by
  have last : lastSecond.utc? = some lastSecond := rfl
  have next : nextSecond.utc? = some nextSecond := rfl
  have earlierDay : lastSecond.date.dayNumber < nextSecond.date.dayNumber :=
    Date.dayNumber_lt_iff.2 (.inl (by decide))
  exact ⟨isStamp_of_utc? last, isStamp_of_utc? next, by decide,
    (wholeSeconds_lt_iff rfl rfl).2 (.inl earlierDay), by decide⟩

end Moment

end DirectoryQuery.Calendar
