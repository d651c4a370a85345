import HomeCatalog.Decimal.Reading
import HomeCatalog.Document.Flaw
import HomeCatalog.Document.Value
import HomeCatalog.Text.Scan

/-!
# Numbers of a YAML text

Integers are written in base 2, 8, 10 or 16, or in base 60 with colons between the digits.  Real
numbers need a point.  Underscores may stand anywhere behind the first digit.  Whether a scalar
looks like a number is one question, and which number a text with a number's tag stands for is
another; for texts that look like numbers the second always has an answer, unless they have a mark
of a base and no digits, or a line break behind a word.
-/

namespace HomeCatalog.Document.Yaml

/-- A text without a sign. -/
def unsigned (cs : List Char) : List Char :=
  (Decimal.splitSign cs).2

/-- Whether all characters are digits from a set or underscores, and there is one. -/
def areDigits (digits : String) (cs : List Char) : Bool :=
  !cs.isEmpty && cs.all fun c => c == '_' || digits.toList.contains c

/-- Whether a text is a place of a number in base 60: one digit, or two below sixty. -/
def isSixtieth : List Char → Bool
  | [c] => c.isDigit
  | [tens, c] => '0' ≤ tens && tens ≤ '5' && c.isDigit
  | _ => false

/-- Whether a text starts with a digit, and goes on in digits and underscores. -/
def isDigitRun : List Char → Bool
  | [] => false
  | c :: rest => c.isDigit && rest.all fun c => c.isDigit || c == '_'

/-- Whether a plain scalar looks like an integer. -/
def looksInteger (cs : List Char) : Bool :=
  match unsigned cs with
  | '0' :: 'b' :: digits => areDigits "01" digits
  | '0' :: 'x' :: digits => areDigits "0123456789abcdefABCDEF" digits
  | '0' :: digits => digits.isEmpty || areDigits "01234567" digits
  | body =>
      match Text.splitOn ':' body with
      | [] => false
      | first :: places => isDigitRun first && places.all isSixtieth

/-- Whether a text is empty or an exponent.  The sign of an exponent must be written. -/
def isExponent : List Char → Bool
  | [] => true
  | e :: sign :: digits =>
      (e == 'e' || e == 'E') && (sign == '+' || sign == '-') && !digits.isEmpty &&
        digits.all Char.isDigit
  | _ => false

/-- Whether a text is digits and underscores, perhaps with an exponent behind them. -/
def isFraction (cs : List Char) : Bool :=
  isExponent (cs.dropWhile fun c => c.isDigit || c == '_')

/-- Whether a plain scalar looks like a real number. -/
def looksReal (cs : List Char) : Bool :=
  if [".nan", ".NaN", ".NAN"].contains (String.ofList cs) then true
  else if [".inf", ".Inf", ".INF"].contains (String.ofList (unsigned cs)) then true
  else
    match Text.cut '.' cs with
    | (_, none) => false
    | ([], some fraction) => (fraction.headD ' ').isDigit && isFraction fraction
    | (whole, some fraction) =>
        match Text.splitOn ':' (unsigned whole) with
        | [] => false
        | [first] => isDigitRun first && isFraction fraction
        | first :: places =>
            isDigitRun first && places.all isSixtieth &&
              fraction.all fun c => c.isDigit || c == '_'

/-- A text without underscores. -/
def withoutUnderscores (cs : List Char) : List Char :=
  cs.filter (· != '_')

/-- The number with the given places in base 60. -/
def sixtiethsOf (places : List Int) : Int :=
  places.foldl (fun number place => number * 60 + place) 0

/-- The integer that a text without a sign stands for.  A zero in front marks the base. -/
def unsignedInteger (cs : List Char) : Except Flaw Int :=
  match cs with
  | [] => breakDown .emptyNumber
  | '0' :: 'b' :: digits => orMalformed (Decimal.integerIn? 2 digits)
  | '0' :: 'x' :: digits => orMalformed (Decimal.integerIn? 16 digits)
  | '0' :: _ => orMalformed (Decimal.integerIn? 8 cs)
  | _ =>
      if cs.contains ':' then
        orMalformed (((Text.splitOn ':' cs).mapM Decimal.integer?).map sixtiethsOf)
      else orMalformed (Decimal.integer? cs)

/-- The integer that a text stands for. -/
def integerOf (cs : List Char) : Except Flaw Int := do
  let (negative, body) := Decimal.splitSign (withoutUnderscores cs)
  let number ← unsignedInteger body
  return if negative then -number else number

/-- What the place with a given index from the end is worth in base 60. -/
def placeWorth (index : Nat) : Except Flaw Float :=
  let worth := Float.ofNat (Nat.pow 60 index)
  if worth.isInf then breakDown .placeTooLarge else .ok worth

/-- The real number with the given places in base 60, summed from the last one. -/
def realSixtiethsOf (places : List Float) : Except Flaw Float :=
  places.reverse.zipIdx.foldlM (fun sum (place, index) => do
    return sum + place * (← placeWorth index)) 0.0

/-- The real number that a text without a sign stands for, given the number of its node. -/
def unsignedReal (node : Nat) (negative : Bool) (cs : List Char) : Except Flaw Scalar :=
  let signed := fun (number : Float) => Scalar.ofReal node (if negative then -number else number)
  if cs = ".inf".toList then .ok (signed (1.0 / 0.0))
  else if cs = ".nan".toList then .ok (.notANumber none)
  else if cs.contains ':' then do
    let places ← orMalformed ((Text.splitOn ':' cs).mapM Decimal.real?)
    return signed (← realSixtiethsOf places)
  else (orMalformed (Decimal.real? cs)).map signed

/-- The real number that a text stands for, in any letter case, given the number of its node. -/
def realOf (node : Nat) (cs : List Char) : Except Flaw Scalar :=
  let written := Text.lower (withoutUnderscores cs)
  if written.isEmpty then breakDown .emptyNumber
  else
    let (negative, body) := Decimal.splitSign written
    unsignedReal node negative body

end HomeCatalog.Document.Yaml
