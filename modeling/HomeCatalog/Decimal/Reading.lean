import HomeCatalog.Text.Basic

/-!
# Reading numbers

Numbers in writing: real numbers have a sign, digits with an optional point, and an optional
exponent; integers have a sign, perhaps a mark of their base, and digits.  A single underscore may
stand between two digits.  The digits of every script are read by their values.
-/

namespace HomeCatalog.Decimal

/-- The code points of the zeros of all decimal digit sets, in ascending order. -/
def zeroPoints : List Nat :=
  [ 0x30, 0x660, 0x6F0, 0x7C0, 0x966, 0x9E6, 0xA66, 0xAE6, 0xB66, 0xBE6, 0xC66, 0xCE6, 0xD66,
    0xDE6, 0xE50, 0xED0, 0xF20, 0x1040, 0x1090, 0x17E0, 0x1810, 0x1946, 0x19D0, 0x1A80, 0x1A90,
    0x1B50, 0x1BB0, 0x1C40, 0x1C50, 0xA620, 0xA8D0, 0xA900, 0xA9D0, 0xA9F0, 0xAA50, 0xABF0,
    0xFF10, 0x104A0, 0x10D30, 0x11066, 0x110F0, 0x11136, 0x111D0, 0x112F0, 0x11450, 0x114D0,
    0x11650, 0x116C0, 0x11730, 0x118E0, 0x11950, 0x11C50, 0x11D50, 0x11DA0, 0x16A60, 0x16AC0,
    0x16B50, 0x1D7CE, 0x1D7D8, 0x1D7E2, 0x1D7EC, 0x1D7F6, 0x1E140, 0x1E2F0, 0x1E950, 0x1FBF0 ]

/-- The value of a decimal digit of any script. -/
def digitValue? (c : Char) : Option Nat :=
  (zeroPoints.find? fun start => start ≤ c.toNat && c.toNat ≤ start + 9).map fun start =>
    c.toNat - start

/-- The value of a hexadecimal digit.  Its decimal half may be of any script. -/
def hexDigitValue? (c : Char) : Option Nat :=
  if 'a' ≤ c && c ≤ 'f' then some (c.toNat - 'a'.toNat + 10)
  else if 'A' ≤ c && c ≤ 'F' then some (c.toNat - 'A'.toNat + 10)
  else digitValue? c

/-- The values of a run of digits with single underscores between them. -/
def runOf? (valueOf? : Char → Option Nat) : List Char → Option (List Nat)
  | [] => none
  | [c] => (valueOf? c).map fun value => [value]
  | c :: '_' :: rest => do
      let value ← valueOf? c
      let values ← runOf? valueOf? rest
      some (value :: values)
  | c :: rest => do
      let value ← valueOf? c
      let values ← runOf? valueOf? rest
      some (value :: values)

/-- The values of a run of decimal digits. -/
def digitRun? : List Char → Option (List Nat) :=
  runOf? digitValue?

/-- The number with the given digits in a base. -/
def ofBase (base : Nat) (digits : List Nat) : Nat :=
  digits.foldl (fun number digit => number * base + digit) 0

/-- The number with the given decimal digits. -/
def ofDigits (digits : List Nat) : Nat :=
  ofBase 10 digits

/-- Whether a character may stand around a number: white space without the four separators among
the control characters. -/
def isMargin (c : Char) : Bool :=
  Text.isBlank c && !('\x1c' ≤ c && c ≤ '\x1f')

/-- A text without the white space around it. -/
def withoutMargins (cs : List Char) : List Char :=
  Text.trim isMargin cs

/-- Split off a sign.  The result says whether it was a minus. -/
def splitSign : List Char → Bool × List Char
  | '-' :: rest => (true, rest)
  | '+' :: rest => (false, rest)
  | cs => (false, cs)

/-- The real number `digits · 10 ^ power`, correctly rounded. -/
def scientific (digits : Nat) (power : Int) : Float :=
  let size := (Nat.toDigits 10 digits).length
  if digits = 0 || power + size < -400 then 0.0
  else if 400 < power + size then Float.ofScientific 1 false 400
  else Float.ofScientific digits (decide (power < 0)) power.natAbs

/-- Read digits around an optional point, at least one in all: the digits together, and how
many stand after the point. -/
def pointed? (cs : List Char) : Option (List Nat × Nat) :=
  match Text.cut '.' cs with
  | (whole, none) => (digitRun? whole).map fun digits => (digits, 0)
  | ([], some fraction) => (digitRun? fraction).map fun digits => (digits, digits.length)
  | (whole, some []) => (digitRun? whole).map fun digits => (digits, 0)
  | (whole, some fraction) => do
      let before ← digitRun? whole
      let after ← digitRun? fraction
      some (before ++ after, after.length)

/-- Read an exponent, with an optional sign. -/
def exponent? (cs : List Char) : Option Int := do
  let (negative, digits) := splitSign cs
  let size := ofDigits (← digitRun? digits)
  some (if negative then -(size : Int) else size)

/-- Read a real number without a sign. -/
def unsignedReal? (cs : List Char) : Option Float := do
  let (significand, exponent) := match Text.cut 'e' cs with
    | (before, some after) => (before, some after)
    | (before, none) => (before, none)
  let (digits, places) ← pointed? significand
  let power ← match exponent with
    | some written => exponent? written
    | none => some 0
  some (scientific (ofDigits digits) (power - places))

/-- The words for numbers that have no digits. -/
def namedReals : List (String × Float) :=
  [("inf", 1.0 / 0.0), ("infinity", 1.0 / 0.0), ("nan", 0.0 / 0.0)]

/-- Read a real number: in any letter case, with white space around it. -/
def real? (written : List Char) : Option Float := do
  let (negative, cs) := splitSign (Text.lower (withoutMargins written))
  let size ← (namedReals.lookup (String.ofList cs)).or (unsignedReal? cs)
  some (if negative then -size else size)

/-- The most digits that an integer in decimal notation may have. -/
def longestInteger : Nat := 4300

/-- The letters that mark a base behind a zero. -/
def baseLetters : List (Nat × List Char) :=
  [(2, ['b', 'B']), (8, ['o', 'O']), (16, ['x', 'X'])]

/-- The text behind the mark of a base, if it starts with one.  An underscore may follow the
mark. -/
def withoutBaseMark (base : Nat) (cs : List Char) : List Char :=
  match cs with
  | zero :: letter :: rest =>
      if digitValue? zero = some 0 && ((baseLetters.lookup base).getD []).contains letter then
        if rest.head? = some '_' then rest.drop 1 else rest
      else cs
  | _ => cs

/-- The value of a digit in a base of at most 16. -/
def digitIn? (base : Nat) (c : Char) : Option Nat :=
  (hexDigitValue? c).filter (· < base)

/-- Read an integer in a base of at most 16, with white space around it. -/
def integerIn? (base : Nat) (written : List Char) : Option Int := do
  let (negative, cs) := splitSign (withoutMargins written)
  let digits ← runOf? (digitIn? base) (withoutBaseMark base cs)
  if base = 10 && longestInteger < digits.length then none
  let size := ofBase base digits
  some (if negative then -(size : Int) else size)

/-- Read an integer in decimal notation. -/
def integer? (written : List Char) : Option Int :=
  integerIn? 10 written

end HomeCatalog.Decimal
