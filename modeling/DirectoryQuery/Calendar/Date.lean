/-
Module: DirectoryQuery.Calendar.Date
Purpose: Days of the calendar in the years 1 to 9999, and their neighbours.
Main exports:
  isLeapYear, daysInMonth, Date, Date.ofParts?, Date.next?, Date.previous?, padded
-/
import DirectoryQuery.Numeric.Numeral

namespace DirectoryQuery.Calendar

/-- Every fourth year is a leap year, except the full centuries that four hundred does not divide.
-/
def isLeapYear (year : Nat) : Bool := year % 4 == 0 && (year % 100 != 0 || year % 400 == 0)

/-- The number of days of a month. -/
def daysInMonth (year month : Nat) : Nat :=
  match month with
  | 2 => if isLeapYear year then 29 else 28
  | 4 | 6 | 9 | 11 => 30
  | _ => 31

theorem daysInMonth_pos (year month : Nat) : 1 ≤ daysInMonth year month := by
  unfold daysInMonth
  split
  · split <;> decide
  all_goals decide

/-- The last year of the calendar. -/
def lastYear : Nat := 9999

/-- A day of the calendar. -/
structure Date where
  year : Nat
  month : Nat
  day : Nat
  year_pos : 1 ≤ year
  year_le : year ≤ lastYear
  month_pos : 1 ≤ month
  month_le : month ≤ 12
  day_pos : 1 ≤ day
  day_le : day ≤ daysInMonth year month
deriving Repr, DecidableEq

namespace Date

/-- The day with the given year, month and day of the month, if there is one. -/
def ofParts? (year month day : Nat) : Option Date :=
  if valid : 1 ≤ year ∧ year ≤ lastYear ∧ 1 ≤ month ∧ month ≤ 12 ∧ 1 ≤ day ∧
      day ≤ daysInMonth year month then
    some ⟨year, month, day, valid.1, valid.2.1, valid.2.2.1, valid.2.2.2.1, valid.2.2.2.2.1,
      valid.2.2.2.2.2⟩
  else
    none

/-- The day after, if the calendar has one. -/
def next? (date : Date) : Option Date :=
  (ofParts? date.year date.month (date.day + 1)).or <|
    (ofParts? date.year (date.month + 1) 1).or <|
      ofParts? (date.year + 1) 1 1

/-- The day before, if the calendar has one. -/
def previous? (date : Date) : Option Date :=
  (ofParts? date.year date.month (date.day - 1)).or <|
    (ofParts? date.year (date.month - 1) (daysInMonth date.year (date.month - 1))).or <|
      ofParts? (date.year - 1) 12 31

end Date

/-- A natural number with at least `width` decimal digits. -/
def padded (width n : Nat) : List Char :=
  let digits := Numeric.digitsOf n
  List.replicate (width - digits.length) '0' ++ digits

/-- A day as year, month and day of the month, with hyphens between them. -/
def Date.text (date : Date) : String :=
  String.ofList (padded 4 date.year ++ '-' :: padded 2 date.month ++ '-' :: padded 2 date.day)

end DirectoryQuery.Calendar
