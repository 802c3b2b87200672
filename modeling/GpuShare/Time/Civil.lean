/-!
Days of the civil calendar. A day is its number counted from 1970-01-01; a date is its year, month and
day of the month in the proleptic Gregorian calendar. Counting is done in years that start in March,
so that the leap day is the last of its year.
-/

set_option autoImplicit false

namespace GpuShare.Time

structure Date where
  year : Int
  month : Nat
  day : Nat
  deriving Repr, DecidableEq

def isLeap (year : Int) : Bool := year % 4 == 0 && (year % 100 != 0 || year % 400 == 0)

def monthLength (year : Int) (month : Nat) : Nat :=
  if month = 2 then (if isLeap year then 29 else 28)
  else if month = 4 ∨ month = 6 ∨ month = 9 ∨ month = 11 then 30
  else 31

def Date.isValid (date : Date) : Bool :=
  1 ≤ date.month && date.month ≤ 12 && 1 ≤ date.day &&
    decide (date.day ≤ monthLength date.year date.month)

def Date.toDays (date : Date) : Int :=
  let year := if date.month ≤ 2 then date.year - 1 else date.year
  let era := year.fdiv 400
  let yearOfEra := year - era * 400
  let monthFromMarch : Int := (date.month + 9) % 12
  let dayOfYear := (153 * monthFromMarch + 2).fdiv 5 + date.day - 1
  let dayOfEra := yearOfEra * 365 + yearOfEra.fdiv 4 - yearOfEra.fdiv 100 + dayOfYear
  era * 146097 + dayOfEra - 719468

def Date.ofDays (days : Int) : Date :=
  let shifted := days + 719468
  let era := shifted.fdiv 146097
  let dayOfEra := shifted - era * 146097
  let yearOfEra :=
    (dayOfEra - dayOfEra.fdiv 1460 + dayOfEra.fdiv 36524 - dayOfEra.fdiv 146096).fdiv 365
  let dayOfYear := dayOfEra - (365 * yearOfEra + yearOfEra.fdiv 4 - yearOfEra.fdiv 100)
  let monthFromMarch := (5 * dayOfYear + 2).fdiv 153
  let day := dayOfYear - (153 * monthFromMarch + 2).fdiv 5 + 1
  let month := if monthFromMarch < 10 then monthFromMarch + 3 else monthFromMarch - 9
  let year := yearOfEra + era * 400
  ⟨if month ≤ 2 then year + 1 else year, month.toNat, day.toNat⟩

end GpuShare.Time
