/-
Module: DirectoryQuery.Proofs.Calendar.DayNumber
Purpose: The days of the calendar in a row.  Days have numbers, which are in the order of year, month
  and day of the month, and the neighbour of a day has the neighbouring number.
Main exports:
  daysBeforeMonth, daysBeforeYear, Date.dayNumber, Date.dayNumber_lt_iff, Date.next?_cases,
  Date.previous?_cases
-/
import Mathlib.Algebra.BigOperators.Intervals
import Mathlib.Algebra.Order.BigOperators.Group.Finset
import DirectoryQuery.Calendar.Date

namespace DirectoryQuery.Calendar

/-! ### Blocks in a row -/

section Blocks

variable {start : Nat → Nat} {block other place otherPlace : Nat}

/-- Where blocks follow one another, a place is within or behind a block just if its own block is
that block or a later one. -/
theorem start_le_iff (mono : Monotone start) (within : start block + place < start (block + 1)) :
    start other ≤ start block + place ↔ other ≤ block := by
  constructor
  · intro reached
    by_contra later
    have behind : start (block + 1) ≤ start other := mono (by omega)
    omega
  · intro earlier
    have := mono earlier
    omega

/-- Places in blocks that follow one another are in the order of their blocks, and within a block in
the order of their distances from its start. -/
theorem start_add_lt_iff (mono : Monotone start) (within : start block + place < start (block + 1))
    (otherWithin : start other + otherPlace < start (other + 1)) :
    start block + place < start other + otherPlace ↔
      block < other ∨ block = other ∧ place < otherPlace := by
  have notBehind : start other ≤ start block + place ↔ other ≤ block := start_le_iff mono within
  have notBefore : start block ≤ start other + otherPlace ↔ block ≤ other :=
    start_le_iff mono otherWithin
  rcases Nat.lt_trichotomy block other with earlier | rfl | later
  · omega
  · omega
  · omega

end Blocks

/-! ### Numbers of days -/

theorem daysInMonth_le (year month : Nat) : daysInMonth year month ≤ 31 := by
  unfold daysInMonth
  split
  · split <;> decide
  all_goals decide

/-- The number of days that a year has before one of its months.  The month after the last one
stands for the end of the year. -/
def daysBeforeMonth (year month : Nat) : Nat :=
  ∑ earlier ∈ Finset.Ico 1 month, daysInMonth year earlier

/-- The number of days that the calendar has before a year. -/
def daysBeforeYear (year : Nat) : Nat :=
  ∑ earlier ∈ Finset.Ico 1 year, daysBeforeMonth earlier 13

theorem daysBeforeMonth_succ {month : Nat} (year : Nat) (pos : 1 ≤ month) :
    daysBeforeMonth year (month + 1) = daysBeforeMonth year month + daysInMonth year month :=
  Finset.sum_Ico_succ_top pos _

theorem daysBeforeYear_succ {year : Nat} (pos : 1 ≤ year) :
    daysBeforeYear (year + 1) = daysBeforeYear year + daysBeforeMonth year 13 :=
  Finset.sum_Ico_succ_top pos _

theorem daysBeforeMonth_mono (year : Nat) : Monotone (daysBeforeMonth year) := by
  intro month other ordered
  exact Finset.sum_le_sum_of_subset (Finset.Ico_subset_Ico_right ordered)

theorem daysBeforeYear_mono : Monotone daysBeforeYear := by
  intro year other ordered
  exact Finset.sum_le_sum_of_subset (Finset.Ico_subset_Ico_right ordered)

@[simp]
theorem daysBeforeMonth_one (year : Nat) : daysBeforeMonth year 1 = 0 := rfl

@[simp]
theorem daysBeforeYear_one : daysBeforeYear 1 = 0 := rfl

namespace Date

variable {date other : Date} {year month day : Nat}

/-- The number of days of the year before a day. -/
def dayOfYear (date : Date) : Nat := daysBeforeMonth date.year date.month + (date.day - 1)

/-- The number of days of the calendar before a day. -/
def dayNumber (date : Date) : Nat := daysBeforeYear date.year + date.dayOfYear

theorem dayOfYear_lt_nextMonth :
    date.dayOfYear < daysBeforeMonth date.year (date.month + 1) := by
  have := date.day_pos
  have := date.day_le
  rw [dayOfYear, daysBeforeMonth_succ _ date.month_pos]
  omega

theorem dayNumber_lt_nextYear : date.dayNumber < daysBeforeYear (date.year + 1) := by
  have inMonth := date.dayOfYear_lt_nextMonth
  have inYear : daysBeforeMonth date.year (date.month + 1) ≤ daysBeforeMonth date.year 13 :=
    daysBeforeMonth_mono _ (Nat.succ_le_succ date.month_le)
  rw [dayNumber, daysBeforeYear_succ date.year_pos]
  omega

theorem dayNumber_lt_end (date : Date) : date.dayNumber < daysBeforeYear (lastYear + 1) :=
  Nat.lt_of_lt_of_le dayNumber_lt_nextYear
    (daysBeforeYear_mono (Nat.succ_le_succ date.year_le))

theorem daysBeforeYear_le_dayNumber_iff : daysBeforeYear year ≤ date.dayNumber ↔ year ≤ date.year :=
  start_le_iff daysBeforeYear_mono dayNumber_lt_nextYear

/-- Days are in the order of their years, then of their months and then of their days of the month.
-/
theorem dayNumber_lt_iff :
    date.dayNumber < other.dayNumber ↔
      date.year < other.year ∨ date.year = other.year ∧
        (date.month < other.month ∨ date.month = other.month ∧ date.day < other.day) := by
  have days : date.day - 1 < other.day - 1 ↔ date.day < other.day := by
    have := date.day_pos
    have := other.day_pos
    omega
  rw [dayNumber, dayNumber,
    start_add_lt_iff daysBeforeYear_mono dayNumber_lt_nextYear dayNumber_lt_nextYear, ← days]
  apply or_congr_right
  apply and_congr_right
  intro sameYear
  have inMonth := other.dayOfYear_lt_nextMonth
  simp only [dayOfYear, ← sameYear] at inMonth ⊢
  exact start_add_lt_iff (daysBeforeMonth_mono _) dayOfYear_lt_nextMonth inMonth

theorem dayNumber_eq_iff :
    date.dayNumber = other.dayNumber ↔
      date.year = other.year ∧ date.month = other.month ∧ date.day = other.day := by
  have before : date.dayNumber < other.dayNumber ↔ _ := dayNumber_lt_iff
  have behind : other.dayNumber < date.dayNumber ↔ _ := dayNumber_lt_iff
  omega

/-! ### Neighbours -/

theorem ofParts?_eq_some_iff :
    ofParts? year month day = some date ↔
      date.year = year ∧ date.month = month ∧ date.day = day := by
  unfold ofParts?
  split
  · rw [Option.some.injEq]
    constructor
    · rintro rfl
      exact ⟨rfl, rfl, rfl⟩
    · rintro ⟨rfl, rfl, rfl⟩
      rfl
  · next outside =>
      constructor
      · intro none
        cases none
      · rintro ⟨rfl, rfl, rfl⟩
        exact absurd ⟨date.year_pos, date.year_le, date.month_pos, date.month_le, date.day_pos,
          date.day_le⟩ outside

theorem ofParts?_eq_none_iff :
    ofParts? year month day = none ↔
      ¬(1 ≤ year ∧ year ≤ lastYear ∧ 1 ≤ month ∧ month ≤ 12 ∧ 1 ≤ day ∧
        day ≤ daysInMonth year month) := by
  unfold ofParts?
  split
  · next inside => exact iff_of_false (Option.some_ne_none _) (not_not_intro inside)
  · next outside => exact iff_of_true rfl outside

theorem daysBeforeMonth_end (year : Nat) :
    daysBeforeMonth year 13 = daysBeforeMonth year 12 + 31 :=
  daysBeforeMonth_succ year (by decide)

/-- After the last day of a year comes the first of the next. -/
theorem dayNumber_succ_of_yearEnd (lastMonth : date.month = 12)
    (lastDay : date.day = daysInMonth date.year date.month) :
    date.dayNumber + 1 = daysBeforeYear (date.year + 1) := by
  have monthLength : daysInMonth date.year 12 = 31 := rfl
  rw [lastMonth, monthLength] at lastDay
  rw [daysBeforeYear_succ date.year_pos, daysBeforeMonth_end, dayNumber, dayOfYear, lastMonth,
    lastDay]
  omega

/-- The day after has the next number.  Only the last day of the calendar has none after it. -/
theorem next?_cases (date : Date) :
    (∃ next, date.next? = some next ∧ next.dayNumber = date.dayNumber + 1) ∨
      date.next? = none ∧ date.dayNumber + 1 = daysBeforeYear (lastYear + 1) := by
  have dayBounds : 1 ≤ date.day ∧ date.day ≤ daysInMonth date.year date.month :=
    ⟨date.day_pos, date.day_le⟩
  have monthBounds : 1 ≤ date.month ∧ date.month ≤ 12 := ⟨date.month_pos, date.month_le⟩
  have yearBounds : 1 ≤ date.year ∧ date.year ≤ lastYear := ⟨date.year_pos, date.year_le⟩
  have monthEnd := daysBeforeMonth_succ date.year date.month_pos
  have nextMonthPos := daysInMonth_pos date.year (date.month + 1)
  cases followed : date.next? with
  | some next =>
      left
      refine ⟨next, rfl, ?_⟩
      rw [next?, Option.or_eq_some_iff, Option.or_eq_some_iff] at followed
      simp only [ofParts?_eq_some_iff, ofParts?_eq_none_iff] at followed
      rcases followed with sameMonth | ⟨last, nextMonth | ⟨lastMonth, nextYear⟩⟩
      · obtain ⟨year, month, day⟩ := sameMonth
        simp only [dayNumber, dayOfYear, year, month, day]
        omega
      · obtain ⟨year, month, day⟩ := nextMonth
        simp only [dayNumber, dayOfYear, year, month, day]
        omega
      · obtain ⟨year, month, day⟩ := nextYear
        rw [dayNumber_succ_of_yearEnd (by omega) (by omega)]
        simp only [dayNumber, dayOfYear, year, month, day, daysBeforeMonth_one]
        omega
  | none =>
      right
      refine ⟨rfl, ?_⟩
      rw [next?, Option.or_eq_none_iff, Option.or_eq_none_iff] at followed
      simp only [ofParts?_eq_none_iff] at followed
      have firstDay := daysInMonth_pos (date.year + 1) 1
      have last : date.year = lastYear := by omega
      rw [dayNumber_succ_of_yearEnd (by omega) (by omega), last]

/-- The day before has the number before.  Only the first day of the calendar has none before it. -/
theorem previous?_cases (date : Date) :
    (∃ previous, date.previous? = some previous ∧ previous.dayNumber + 1 = date.dayNumber) ∨
      date.previous? = none ∧ date.dayNumber = 0 := by
  have dayBounds : 1 ≤ date.day ∧ date.day ≤ daysInMonth date.year date.month :=
    ⟨date.day_pos, date.day_le⟩
  have monthBounds : 1 ≤ date.month ∧ date.month ≤ 12 := ⟨date.month_pos, date.month_le⟩
  have yearBounds : 1 ≤ date.year ∧ date.year ≤ lastYear := ⟨date.year_pos, date.year_le⟩
  have earlierMonthPos := daysInMonth_pos date.year (date.month - 1)
  have lastMonthEnd := daysBeforeMonth_end (date.year - 1)
  cases preceded : date.previous? with
  | some previous =>
      left
      refine ⟨previous, rfl, ?_⟩
      rw [previous?, Option.or_eq_some_iff, Option.or_eq_some_iff] at preceded
      simp only [ofParts?_eq_some_iff, ofParts?_eq_none_iff] at preceded
      have valid := previous.day_pos
      rcases preceded with sameMonth | ⟨first, earlierMonth | ⟨firstMonth, earlierYear⟩⟩
      · obtain ⟨year, month, day⟩ := sameMonth
        simp only [dayNumber, dayOfYear, year, month, day]
        omega
      · obtain ⟨year, month, day⟩ := earlierMonth
        have validMonth := previous.month_pos
        have monthEnd := daysBeforeMonth_succ date.year (month ▸ validMonth)
        rw [Nat.sub_add_cancel monthBounds.1] at monthEnd
        simp only [dayNumber, dayOfYear, year, month, day]
        omega
      · obtain ⟨year, month, day⟩ := earlierYear
        have validYear := previous.year_pos
        have yearEnd := daysBeforeYear_succ (year ▸ validYear)
        have january : date.month = 1 := by omega
        rw [Nat.sub_add_cancel yearBounds.1] at yearEnd
        simp only [dayNumber, dayOfYear, year, month, day, january, daysBeforeMonth_one]
        omega
  | none =>
      right
      refine ⟨rfl, ?_⟩
      rw [previous?, Option.or_eq_none_iff, Option.or_eq_none_iff] at preceded
      simp only [ofParts?_eq_none_iff] at preceded
      have lastDay : daysInMonth (date.year - 1) 12 = 31 := rfl
      have january : date.month = 1 := by omega
      have first : date.year = 1 := by omega
      simp only [dayNumber, dayOfYear, january, first, daysBeforeMonth_one, daysBeforeYear_one]
      omega

end Date

end DirectoryQuery.Calendar
