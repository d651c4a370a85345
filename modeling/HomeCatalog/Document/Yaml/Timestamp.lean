import HomeCatalog.Calendar.Moment
import HomeCatalog.Document.Value
import HomeCatalog.Text.Scan

/-!
# Timestamps of a YAML text

A timestamp is a date, or a date and a time with an optional fraction of a second and an optional
offset from universal time.  With a time, month and day may have one digit.
-/

namespace HomeCatalog.Document.Yaml

/-- A timestamp in writing. -/
structure Timestamp where
  date : Calendar.Date
  /-- Whether month and day have two digits each. -/
  isFullDate : Bool
  /-- The time with its fraction and offset, if there is one. -/
  time : Option Calendar.Moment
  deriving Repr, DecidableEq

/-- A number of `least` to `most` digits, the count of them, and what follows. -/
def digits? (least most : Nat) (cs : List Char) : Option (Nat × Nat × List Char) := do
  let digits := (cs.take most).takeWhile Char.isDigit
  if digits.length < least then none
  else some (← Text.plainNumber? digits, digits.length, cs.drop digits.length)

/-- The microseconds in a fraction of a second: the first six digits. -/
def fractionOf (digits : List Char) : Nat :=
  (Text.plainNumber? ((digits ++ List.replicate 6 '0').take 6)).getD 0

/-- A fraction in front of a text, if there is one, and what follows. -/
def fraction (cs : List Char) : Nat × List Char :=
  match cs with
  | '.' :: rest => (fractionOf (rest.takeWhile Char.isDigit), rest.dropWhile Char.isDigit)
  | _ => (0, cs)

/-- The offset that a text states, and nothing else. -/
def offset? (cs : List Char) : Option (Option Int) :=
  match cs.dropWhile fun c => c == ' ' || c == '\t' with
  | [] => if cs.isEmpty then some none else none
  | ['Z'] => some (some 0)
  | sign :: rest => do
      if sign != '+' && sign != '-' then none
      let (hours, _, afterHours) ← digits? 1 2 rest
      let minutes ← match afterHours with
        | [] => some 0
        | ':' :: afterColon => do
            let (minutes, _, ending) ← digits? 2 2 afterColon
            if ending.isEmpty then some minutes else none
        | _ => none
      let seconds : Int := (hours * 60 + minutes) * 60
      some (some (if sign = '-' then -seconds else seconds))

/-- The text of a time behind a date, if there is a proper separation. -/
def timeText? (cs : List Char) : Option (List Char) :=
  match cs with
  | 'T' :: rest | 't' :: rest => some rest
  | _ =>
      let rest := cs.dropWhile fun c => c == ' ' || c == '\t'
      if rest.length < cs.length then some rest else none

def Timestamp.ofText? (cs : List Char) : Option Timestamp := do
  let (year, _, afterYear) ← digits? 4 4 cs
  let (month, monthDigits, afterMonth) ← digits? 1 2 (← List.isPrefixOf? ['-'] afterYear)
  let (day, dayDigits, afterDay) ← digits? 1 2 (← List.isPrefixOf? ['-'] afterMonth)
  let date : Calendar.Date := ⟨year, month, day⟩
  let isFullDate := monthDigits = 2 && dayDigits = 2
  if afterDay.isEmpty then some ⟨date, isFullDate, none⟩
  else
    let (hour, _, afterHour) ← digits? 1 2 (← timeText? afterDay)
    let (minute, _, afterMinute) ← digits? 2 2 (← List.isPrefixOf? [':'] afterHour)
    let (second, _, afterSecond) ← digits? 2 2 (← List.isPrefixOf? [':'] afterMinute)
    let (microsecond, rest) := fraction afterSecond
    let offset ← offset? rest
    some ⟨date, isFullDate, some ⟨⟨date, hour, minute, second⟩, microsecond, offset⟩⟩

/-- Whether a plain scalar looks like a timestamp. -/
def looksTimestamp (cs : List Char) : Bool :=
  match Timestamp.ofText? cs with
  | some timestamp => timestamp.isFullDate || timestamp.time.isSome
  | none => false

/-- The date or moment that a timestamp stands for, if the calendar has it.  An offset is less
than a day. -/
def Timestamp.scalar? (timestamp : Timestamp) : Option Scalar :=
  match timestamp.time with
  | none =>
      if Calendar.Civil.isValid ⟨timestamp.date, 0, 0, 0⟩ then
        some (.moment timestamp.date.written none)
      else none
  | some moment =>
      if moment.civil.isValid && (moment.offset.getD 0).natAbs < 86400 then
        some (.ofMoment moment)
      else none

end HomeCatalog.Document.Yaml
