/-
Module: DirectoryQuery.Calendar.Moment
Purpose: Points in time, with or without an offset from universal time.
Main exports:
  Moment, Moment.ofParts?, Moment.utc?, Moment.generalizedTime, Moment.text
-/
import DirectoryQuery.Calendar.Date

namespace DirectoryQuery.Calendar

/-- The number of seconds of a day. -/
def secondsPerDay : Nat := 86400

/-- The number of microseconds of a second. -/
def microsecondsPerSecond : Nat := 1000000

/-- The number of microseconds of a day. -/
def microsecondsPerDay : Nat := secondsPerDay * microsecondsPerSecond

/-- A day and a time of day, and how many microseconds its clock is ahead of universal time, if that
is known. -/
structure Moment where
  date : Date
  hour : Nat
  minute : Nat
  second : Nat
  microsecond : Nat
  offset : Option Int
  hour_lt : hour < 24
  minute_lt : minute < 60
  second_lt : second < 60
  microsecond_lt : microsecond < 1000000
  offset_lt : ∀ ahead, offset = some ahead → ahead.natAbs < microsecondsPerDay
deriving Repr, DecidableEq

namespace Moment

/-- The moment with the given parts, if they are in range. -/
def ofParts? (date : Date) (hour minute second microsecond : Nat) (offset : Option Int) :
    Option Moment :=
  if time : hour < 24 ∧ minute < 60 ∧ second < 60 ∧ microsecond < 1000000 then
    if ahead : ∀ shift, offset = some shift → shift.natAbs < microsecondsPerDay then
      some ⟨date, hour, minute, second, microsecond, offset, time.1, time.2.1, time.2.2.1,
        time.2.2.2, ahead⟩
    else
      none
  else
    none

/-- The number of seconds since midnight. -/
def secondOfDay (moment : Moment) : Nat :=
  (moment.hour * 60 + moment.minute) * 60 + moment.second

/-- The number of microseconds since midnight. -/
def microsecondOfDay (moment : Moment) : Nat :=
  moment.secondOfDay * microsecondsPerSecond + moment.microsecond

/-- The moment of universal time at a number of microseconds after midnight. -/
def atMicrosecond (date : Date) (passed : Nat) (bound : passed < microsecondsPerDay) : Moment where
  date := date
  hour := passed / microsecondsPerSecond / 3600
  minute := passed / microsecondsPerSecond / 60 % 60
  second := passed / microsecondsPerSecond % 60
  microsecond := passed % microsecondsPerSecond
  offset := some 0
  hour_lt := by
    simp only [microsecondsPerDay, secondsPerDay, microsecondsPerSecond] at *
    omega
  minute_lt := by omega
  second_lt := by omega
  microsecond_lt := Nat.mod_lt _ (by decide)
  offset_lt := by intro ahead known; cases known; decide

/-- The same point in time in universal time, if the calendar reaches that far.  A moment without
an offset is taken to be in universal time. -/
def utc? (moment : Moment) : Option Moment :=
  match moment.offset with
  | none => some moment
  | some ahead =>
    let passed : Int := moment.microsecondOfDay - ahead
    let date? :=
      if passed < 0 then moment.date.previous?
      else if (microsecondsPerDay : Int) ≤ passed then moment.date.next?
      else some moment.date
    let shifted := (passed % microsecondsPerDay).toNat
    date?.map fun date =>
      atMicrosecond date shifted
        (by simp only [shifted, microsecondsPerDay, secondsPerDay, microsecondsPerSecond]; omega)

/-- Year, month, day, hour, minute and second without separators, marked as universal time.  The
year has as many digits as it needs, the other parts have two. -/
def generalizedTime (moment : Moment) : List Char :=
  Numeric.digitsOf moment.date.year ++ padded 2 moment.date.month ++ padded 2 moment.date.day ++
    padded 2 moment.hour ++ padded 2 moment.minute ++ padded 2 moment.second ++ ['Z']

/-- An offset as sign, hours and minutes, with the seconds and their fraction if there are any. -/
def offsetText (ahead : Int) : List Char :=
  let seconds := ahead.natAbs / microsecondsPerSecond
  let fraction := ahead.natAbs % microsecondsPerSecond
  (if ahead < 0 then '-' else '+') :: padded 2 (seconds / 3600) ++
    ':' :: padded 2 (seconds / 60 % 60) ++
    (if seconds % 60 = 0 ∧ fraction = 0 then [] else ':' :: padded 2 (seconds % 60)) ++
    (if fraction = 0 then [] else '.' :: padded 6 fraction)

/-- Day and time of day, with the fraction of the second and the offset where there are any. -/
def text (moment : Moment) : String :=
  moment.date.text ++ String.ofList
    (' ' :: padded 2 moment.hour ++ ':' :: padded 2 moment.minute ++
      ':' :: padded 2 moment.second ++
      (if moment.microsecond = 0 then [] else '.' :: padded 6 moment.microsecond) ++
      (moment.offset.map offsetText).getD [])

end Moment

end DirectoryQuery.Calendar
