/-!
# Calendar dates

The proleptic Gregorian calendar.  A date is numbered by its day ordinal: the first of January
of year one is day one.  Both directions are exact, so a date is found again from its ordinal.
-/

namespace HomeCatalog.Calendar

/-- A date of the calendar. -/
structure Date where
  year : Nat
  month : Nat
  day : Nat
  deriving Repr, DecidableEq

/-- Whether a year has a leap day. -/
def isLeapYear (year : Nat) : Bool :=
  year % 4 == 0 && (year % 100 != 0 || year % 400 == 0)

/-- The lengths of the months of a year. -/
def monthLengths (year : Nat) : List Nat :=
  [31, if isLeapYear year then 29 else 28, 31, 30, 31, 30, 31, 31, 30, 31, 30, 31]

/-- The number of days before the first day of a year. -/
def daysBeforeYear (year : Nat) : Nat :=
  let past := year - 1
  past * 365 + past / 4 - past / 100 + past / 400

def Date.ordinal (date : Date) : Nat :=
  daysBeforeYear date.year + ((monthLengths date.year).take (date.month - 1)).foldl Nat.add 0 + date.day

/-- The month and the day of month of a zero-based day, counted through months of the given
lengths from the month numbered `month` on. -/
def monthAndDay : (lengths : List Nat) → (month day : Nat) → Nat × Nat
  | [], month, day => (month, day + 1)
  | length :: rest, month, day =>
      if day < length then (month, day + 1) else monthAndDay rest (month + 1) (day - length)

/-- The number of whole years in a number of days that starts with a year after a leap day of
every cycle of 400 years, and the days left over. -/
def yearsAndDays (days : Nat) : Nat × Nat :=
  let centuries := min (days % 146097 / 36524) 3
  let inCentury := days % 146097 - centuries * 36524
  let years := min (inCentury % 1461 / 365) 3
  (days / 146097 * 400 + centuries * 100 + inCentury / 1461 * 4 + years,
    inCentury % 1461 - years * 365)

def Date.ofOrdinal (ordinal : Nat) : Date :=
  let (years, day) := yearsAndDays (ordinal - 1)
  let (month, dayOfMonth) := monthAndDay (monthLengths (years + 1)) 1 day
  ⟨years + 1, month, dayOfMonth⟩

end HomeCatalog.Calendar
