import HomeCatalog.Calendar.Date

/-!
# Moments and their stamps

A moment is a civil date and time, with or without an offset from universal time.  Its stamp is
written in universal time to the second.  A moment without an offset is written as it stands.
Years before the first and after the ninety-nine hundred and ninety-ninth have no stamp.
-/

namespace HomeCatalog.Calendar

/-- A civil date and time. -/
structure Civil where
  date : Date
  hour : Nat
  minute : Nat
  second : Nat
  deriving Repr, DecidableEq

/-- A civil date and time, with the seconds that local time is ahead of universal time. -/
structure Moment where
  civil : Civil
  microsecond : Nat
  offset : Option Int
  deriving Repr, DecidableEq

/-- The seconds from the start of the day with ordinal zero. -/
def Civil.seconds (civil : Civil) : Nat :=
  civil.date.ordinal * 86400 + civil.hour * 3600 + civil.minute * 60 + civil.second

/-- The civil date and time a number of seconds after the start of the day with ordinal zero. -/
def Civil.ofSeconds (seconds : Nat) : Civil :=
  let inDay := seconds % 86400
  ⟨Date.ofOrdinal (seconds / 86400), inDay / 3600, inDay % 3600 / 60, inDay % 60⟩

/-- The number of days up to the end of the year 9999. -/
def lastOrdinal : Nat := 3652059

/-- The microseconds from the start of day zero in universal time to a local time, which has some
microseconds to its seconds and is a number of microseconds ahead. -/
def Civil.instant (civil : Civil) (microsecond : Nat) (offset : Int) : Int :=
  (civil.seconds : Int) * 1000000 + microsecond - offset

/-- The civil time in universal time at an instant, if it lies in the years 1 to 9999. -/
def universalAt? (instant : Int) : Option Civil :=
  let seconds := instant / 1000000
  if 86400 ≤ seconds && seconds < (lastOrdinal + 1) * 86400 then
    some (Civil.ofSeconds seconds.toNat)
  else none

/-- The instant of a moment that states its offset. -/
def Moment.instant? (moment : Moment) : Option Int :=
  moment.offset.map fun offset => moment.civil.instant moment.microsecond (offset * 1000000)

/-- The civil time of a moment in universal time, if it lies in the years 1 to 9999. -/
def Moment.universal? (moment : Moment) : Option Civil :=
  match moment.instant? with
  | none => some moment.civil
  | some instant => universalAt? instant

/-- The moment a number of seconds after the start of the year 1970 in universal time. -/
def Moment.ofUnixSeconds (seconds : Int) : Moment :=
  ⟨Civil.ofSeconds ((⟨1970, 1, 1⟩ : Date).ordinal * 86400 + seconds).toNat, 0, some 0⟩

/-- Whether the date is in the calendar, in the years 1 to 9999, and the time on the clock. -/
def Civil.isValid (civil : Civil) : Bool :=
  1 ≤ civil.date.year && civil.date.year ≤ 9999 && 1 ≤ civil.date.month && 1 ≤ civil.date.day &&
    civil.date.day ≤ (monthLengths civil.date.year).getD (civil.date.month - 1) 0 &&
    civil.hour < 24 && civil.minute < 60 && civil.second < 60

/-- The digits of a number, with zeros in front up to a width. -/
def padded (width number : Nat) : String :=
  let digits := (toString number).toList
  String.ofList (List.replicate (width - digits.length) '0' ++ digits)

/-- A date in its standard form: `2024-05-01`. -/
def Date.written (date : Date) : String :=
  padded 4 date.year ++ "-" ++ padded 2 date.month ++ "-" ++ padded 2 date.day

/-- An offset from universal time in its standard form: `+01:00`. -/
def offsetWritten (offset : Int) : String :=
  let size := offset.natAbs
  (if offset < 0 then "-" else "+") ++ padded 2 (size / 3600) ++ ":" ++
    padded 2 (size % 3600 / 60) ++ (if size % 60 = 0 then "" else ":" ++ padded 2 (size % 60))

/-- A moment in its standard form: `2024-05-01 12:00:00`, with microseconds and offset if there
are any. -/
def Moment.written (moment : Moment) : String :=
  moment.civil.date.written ++ " " ++ padded 2 moment.civil.hour ++ ":" ++
    padded 2 moment.civil.minute ++ ":" ++ padded 2 moment.civil.second ++
    (if moment.microsecond = 0 then "" else "." ++ padded 6 moment.microsecond) ++
    (moment.offset.map offsetWritten).getD ""

/-- The stamp of a civil time: `2024-05-01T12:00:00Z`. -/
def Civil.stamp (civil : Civil) : String :=
  toString civil.date.year ++ "-" ++ padded 2 civil.date.month ++ "-" ++
    padded 2 civil.date.day ++ "T" ++ padded 2 civil.hour ++ ":" ++ padded 2 civil.minute ++
    ":" ++ padded 2 civil.second ++ "Z"

/-- The stamp of an instant, unless its year is out of range. -/
def stampAt? (instant : Int) : Option String :=
  (universalAt? instant).map Civil.stamp

/-- The stamp of a moment, unless its year is out of range. -/
def Moment.stamp? (moment : Moment) : Option String :=
  moment.universal?.map Civil.stamp

end HomeCatalog.Calendar
