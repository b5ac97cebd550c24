/-
Module: DirectoryQuery.Proofs.Calendar.Instant
Purpose: Points in time on one line.  A moment and its form in universal time are the same instant,
  and a moment has such a form if its instant is within the calendar.
Main exports:
  Moment.instant, beginningOfYear, Moment.IsInCalendar, Moment.exists_utc?_iff,
  Moment.instant_of_utc?
-/
import DirectoryQuery.Calendar.Moment
import DirectoryQuery.Proofs.Calendar.DayNumber

namespace DirectoryQuery.Calendar

/-- The instant at which a year begins in universal time, in microseconds from the beginning of the
calendar. -/
def beginningOfYear (year : Nat) : Int := daysBeforeYear year * microsecondsPerDay

namespace Moment

variable {moment universal : Moment}

/-- The microseconds from the beginning of the calendar to a moment.  A moment without an offset is
taken to be in universal time. -/
def instant (moment : Moment) : Int :=
  moment.date.dayNumber * microsecondsPerDay + moment.microsecondOfDay - moment.offset.getD 0

/-- The instant of a moment is in a year of the calendar. -/
def IsInCalendar (moment : Moment) : Prop :=
  0 ≤ moment.instant ∧ moment.instant < beginningOfYear (lastYear + 1)

theorem microsecondOfDay_lt (moment : Moment) : moment.microsecondOfDay < microsecondsPerDay := by
  have := moment.hour_lt
  have := moment.minute_lt
  have := moment.second_lt
  have := moment.microsecond_lt
  simp only [microsecondOfDay, secondOfDay, microsecondsPerDay, secondsPerDay,
    microsecondsPerSecond]
  omega

theorem microsecondOfDay_atMicrosecond {date : Date} {passed : Nat}
    {bound : passed < microsecondsPerDay} :
    (atMicrosecond date passed bound).microsecondOfDay = passed := by
  simp only [microsecondOfDay, secondOfDay, atMicrosecond, microsecondsPerSecond]
  omega

theorem instant_atMicrosecond {date : Date} {passed : Nat} {bound : passed < microsecondsPerDay} :
    (atMicrosecond date passed bound).instant = date.dayNumber * microsecondsPerDay + passed := by
  rw [instant, microsecondOfDay_atMicrosecond]
  exact sub_zero _

/-- A moment whose clock shows universal time is in the calendar. -/
theorem isInCalendar_of_offset (universal : moment.offset.getD 0 = 0) : moment.IsInCalendar := by
  have inDay := moment.microsecondOfDay_lt
  have inCalendar := moment.date.dayNumber_lt_end
  simp only [IsInCalendar, instant, beginningOfYear, universal, microsecondsPerDay, secondsPerDay,
    microsecondsPerSecond] at *
  omega

/-- The way to universal time goes over midnight at most once, in one direction or the other. -/
theorem utc?_cases (moment : Moment) :
    (∃ universal, moment.utc? = some universal ∧ universal.offset.getD 0 = 0 ∧
        universal.instant = moment.instant) ∨
      moment.utc? = none ∧ ¬moment.IsInCalendar := by
  cases shown : moment.offset with
  | none =>
      left
      refine ⟨moment, ?_, ?_, rfl⟩
      · rw [utc?, shown]
      · rw [shown, Option.getD_none]
  | some ahead =>
      have inDay := moment.microsecondOfDay_lt
      have lessThanDay := moment.offset_lt ahead shown
      have moved : moment.instant =
          moment.date.dayNumber * microsecondsPerDay + (moment.microsecondOfDay - ahead) := by
        rw [instant, shown, Option.getD_some, add_sub_assoc]
      simp only [utc?, shown, IsInCalendar, moved, beginningOfYear]
      split
      · next before =>
          rcases moment.date.previous?_cases with ⟨previous, found, number⟩ | ⟨missing, first⟩
          · left
            refine ⟨_, by rw [found, Option.map_some], rfl, ?_⟩
            rw [instant_atMicrosecond, ← number]
            simp only [microsecondsPerDay, secondsPerDay, microsecondsPerSecond] at *
            omega
          · right
            refine ⟨by rw [missing, Option.map_none], ?_⟩
            rw [first]
            omega
      · split
        · next behind =>
            rcases moment.date.next?_cases with ⟨next, found, number⟩ | ⟨missing, last⟩
            · left
              refine ⟨_, by rw [found, Option.map_some], rfl, ?_⟩
              rw [instant_atMicrosecond, number]
              simp only [microsecondsPerDay, secondsPerDay, microsecondsPerSecond] at *
              omega
            · right
              refine ⟨by rw [missing, Option.map_none], ?_⟩
              rw [← last]
              simp only [microsecondsPerDay, secondsPerDay, microsecondsPerSecond] at *
              omega
        · next notBefore notBehind =>
            left
            refine ⟨_, Option.map_some _ _, rfl, ?_⟩
            rw [instant_atMicrosecond]
            simp only [microsecondsPerDay, secondsPerDay, microsecondsPerSecond] at *
            omega

/-- A moment has a form in universal time just if it is in the calendar. -/
theorem exists_utc?_iff : (∃ universal, moment.utc? = some universal) ↔ moment.IsInCalendar := by
  rcases moment.utc?_cases with ⟨universal, found, noShift, same⟩ | ⟨missing, outside⟩
  · apply iff_of_true ⟨universal, found⟩
    have inside : universal.IsInCalendar := isInCalendar_of_offset noShift
    rwa [IsInCalendar, same] at inside
  · apply iff_of_false _ outside
    rintro ⟨universal, found⟩
    rw [missing] at found
    cases found

/-- The form in universal time is the same instant, on a clock that is not ahead of it. -/
theorem instant_of_utc? (found : moment.utc? = some universal) :
    universal.instant = moment.instant ∧ universal.offset.getD 0 = 0 := by
  rcases moment.utc?_cases with ⟨other, found', noShift, same⟩ | ⟨missing, outside⟩
  · rw [found] at found'
    cases found'
    exact ⟨same, noShift⟩
  · rw [missing] at found
    cases found

/-- A moment whose clock shows universal time is behind the beginnings of its year and of the years
before. -/
theorem beginningOfYear_le_instant_iff {year : Nat} (universal : moment.offset.getD 0 = 0) :
    beginningOfYear year ≤ moment.instant ↔ year ≤ moment.date.year := by
  have inDay := moment.microsecondOfDay_lt
  rw [← Date.daysBeforeYear_le_dayNumber_iff]
  simp only [beginningOfYear, instant, universal, microsecondsPerDay, secondsPerDay,
    microsecondsPerSecond] at *
  omega

end Moment

end DirectoryQuery.Calendar
