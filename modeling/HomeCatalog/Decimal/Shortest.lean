/-!
# The shortest decimal of a binary number

A finite binary number of 64 bits is `mantissa · 2 ^ exponent`.  All reals closer to it than to
its neighbours read back as that number; the two ends of this interval count when the mantissa
is even.  The shortest decimal is the one with the fewest significant digits in the interval,
and among those the nearest.  Everything is exact arithmetic on natural numbers.
-/

namespace HomeCatalog.Decimal

/-- The magnitude of a finite binary number, with whether the gap below it is half the gap
above. -/
structure Magnitude where
  mantissa : Nat
  exponent : Int
  narrowBelow : Bool
  deriving Repr, DecidableEq

/-- What the bits of a binary number stand for. -/
inductive Reading where
  | notANumber
  | infinite (negative : Bool)
  | finite (negative : Bool) (magnitude : Magnitude)
  deriving Repr, DecidableEq

/-- Decode 64 bits: a sign, eleven bits of exponent and fifty-two of fraction. -/
def decode (bits : Nat) : Reading :=
  let negative := bits / Nat.pow 2 63 == 1
  let exponent : Nat := bits / Nat.pow 2 52 % Nat.pow 2 11
  let fraction : Nat := bits % Nat.pow 2 52
  if exponent = 2047 then
    if fraction = 0 then .infinite negative else .notANumber
  else if exponent = 0 then .finite negative ⟨fraction, -1074, false⟩
  else
    .finite negative
      ⟨fraction + Nat.pow 2 52, (exponent : Int) - 1075, fraction = 0 && exponent != 1⟩

/-- The number `digits · 10 ^ exponent`. -/
structure Digits where
  digits : Nat
  exponent : Int
  deriving Repr, DecidableEq

/-- The number of decimal digits of a positive number. -/
def digitCount (number : Nat) : Nat :=
  (Nat.toDigits 10 number).length

/-- The power of ten of the leading digit of a positive magnitude. -/
def leadingPower (magnitude : Magnitude) : Int :=
  if 0 ≤ magnitude.exponent then
    digitCount (magnitude.mantissa * Nat.pow 2 magnitude.exponent.toNat) - 1
  else
    digitCount (magnitude.mantissa * Nat.pow 10 400 / Nat.pow 2 magnitude.exponent.natAbs) - 401

/-- Factors that bring `digits · 10 ^ power` and quarters of the magnitude's unit to a common
integer scale. -/
def scales (magnitude : Magnitude) (power : Int) : Nat × Nat :=
  (Nat.pow 10 power.toNat * Nat.pow 2 (2 - magnitude.exponent).toNat,
    Nat.pow 2 (magnitude.exponent - 2).toNat * Nat.pow 10 (-power).toNat)

/-- Whether `digits · 10 ^ power` reads back as the magnitude. -/
def readsBack (magnitude : Magnitude) (power : Int) (digits : Nat) : Bool :=
  let (decimal, binary) := scales magnitude power
  let low := (4 * magnitude.mantissa - if magnitude.narrowBelow then 1 else 2) * binary
  let high := (4 * magnitude.mantissa + 2) * binary
  let value := digits * decimal
  if magnitude.mantissa % 2 = 0 then low ≤ value && value ≤ high else low < value && value < high

/-- The nearest multiple of `10 ^ power` that reads back, an even one if two are as near. -/
def nearest? (magnitude : Magnitude) (power : Int) : Option Nat :=
  let (decimal, binary) := scales magnitude power
  let value := 4 * magnitude.mantissa * binary
  let below := value / decimal
  let rest := value % decimal
  let preferred :=
    if 2 * rest < decimal || (2 * rest == decimal && below % 2 == 0) then below else below + 1
  let other := if preferred = below then below + 1 else below
  if readsBack magnitude power preferred then some preferred
  else if readsBack magnitude power other then some other
  else none

/-- Move trailing zeros into the exponent. -/
def Digits.normalize (number : Digits) : Digits :=
  go (digitCount number.digits) number
where
  go : Nat → Digits → Digits
    | 0, number => number
    | bound + 1, number =>
        if number.digits % 10 = 0 then go bound ⟨number.digits / 10, number.exponent + 1⟩
        else number

/-- The shortest decimal of a positive magnitude, tried with ever more digits.  Seventeen are
always enough. -/
def shortest (magnitude : Magnitude) : Digits :=
  let power := leadingPower magnitude
  let candidates := (List.range 17).filterMap fun (extra : Nat) =>
    (nearest? magnitude (power - extra)).map fun digits => (⟨digits, power - extra⟩ : Digits)
  match candidates with
  | number :: _ => number.normalize
  | [] => ⟨magnitude.mantissa, 0⟩

/-- How a number is written: positional notation from `leastPower` to below `powerBound` of the
leading digit, and scientific notation outside. -/
structure Layout where
  leastPower : Int
  powerBound : Int

def zeros (count : Nat) : String :=
  String.ofList (List.replicate count '0')

/-- Write a positive decimal number.  Positional notation has at least one digit on either side
of the point; an exponent has a sign and at least two digits. -/
def Layout.write (layout : Layout) (number : Digits) : String :=
  let digits := Nat.toDigits 10 number.digits
  let point : Int := digits.length + number.exponent
  let power := point - 1
  if layout.leastPower ≤ power && power < layout.powerBound then
    if point ≤ 0 then
      "0." ++ zeros point.natAbs ++ String.ofList digits
    else if 0 ≤ number.exponent then
      String.ofList digits ++ zeros number.exponent.toNat ++ ".0"
    else
      String.ofList (digits.take point.toNat) ++ "." ++ String.ofList (digits.drop point.toNat)
  else
    let fraction := digits.drop 1
    let exponent := Nat.toDigits 10 power.natAbs
    String.ofList (digits.take 1) ++
      (if fraction.isEmpty then "" else "." ++ String.ofList fraction) ++
      (if power < 0 then "e-" else "e+") ++
      (if exponent.length < 2 then "0" else "") ++ String.ofList exponent

end HomeCatalog.Decimal
