import HomeCatalog.Calendar.Moment
import HomeCatalog.Decimal.Reading
import HomeCatalog.Decimal.Shortest
import HomeCatalog.Text.Wide

/-!
# Values of a structured document

Property lists and YAML documents are read into one type of values.  Keys of a mapping are
scalars.  Two keys are the same when they are equal as numbers or as values of one kind, so
`1`, `1.0` and `true` are one key.
-/

namespace HomeCatalog.Document

/-- A value without parts. -/
inductive Scalar where
  | null
  | boolean (value : Bool)
  | integer (value : Int)
  | real (value : Float)
  /-- The result of a computation that has none.  Such results differ from each other, so each
  bears the number of the place that it comes from; the one that is written as such has none. -/
  | notANumber (origin : Option Nat)
  | text (value : Text.Wide)
  | bytes (value : List UInt8)
  /-- A date or a time in its standard form, and its instant if it states its offset. -/
  | moment (written : String) (instant : Option Int)
  /-- A numbered reference of an archive. -/
  | reference (index : Nat)
  deriving Inhabited

/-- A value of a document. -/
inductive Value where
  | scalar (value : Scalar)
  | list (items : List Value)
  /-- Values without order. -/
  | set (items : List Value)
  | mapping (entries : List (Scalar × Value))
  deriving Inhabited

/-- Positional notation for powers of ten from -4 to 15. -/
def realLayout : Decimal.Layout := ⟨-4, 16⟩

/-- The text of a real number: the fewest digits that read back. -/
def realText (value : Float) : String :=
  match Decimal.decode value.toBits.toNat with
  | .notANumber => "nan"
  | .infinite negative => if negative then "-inf" else "inf"
  | .finite negative magnitude =>
      (if negative then "-" else "") ++
        if magnitude.mantissa = 0 then "0.0" else realLayout.write (Decimal.shortest magnitude)

/-- The text of an integer in decimal notation, which has at most as many digits as may be
read. -/
def integerText? (value : Int) : Option String :=
  if Decimal.longestInteger < (Nat.toDigits 10 value.natAbs).length then none
  else some (toString value)

/-- The integer that a real number equals, if it equals one. -/
def realInteger? (value : Float) : Option Int :=
  match Decimal.decode value.toBits.toNat with
  | .finite negative magnitude =>
      let scale := Nat.pow 2 magnitude.exponent.natAbs
      let size? :=
        if 0 ≤ magnitude.exponent then some (magnitude.mantissa * scale)
        else if magnitude.mantissa % scale = 0 then some (magnitude.mantissa / scale)
        else none
      size?.map fun size => if negative then -(size : Int) else size
  | _ => none

namespace Scalar

def ofMoment (value : Calendar.Moment) : Scalar :=
  .moment value.written value.instant?

/-- A real number that comes from a place with a given number. -/
def ofReal (origin : Nat) (value : Float) : Scalar :=
  if value.isNaN then .notANumber (some origin) else .real value

/-- A scalar in writing, if it can be written. -/
def written? : Scalar → Option Text.Wide
  | null => some (.ofString "None")
  | boolean value => some (.ofString (if value then "True" else "False"))
  | integer value => (integerText? value).map Text.Wide.ofString
  | real value => some (.ofString (realText value))
  | notANumber _ => some (.ofString "nan")
  | text value => some value
  | bytes value => some (.ofString (Text.quotedBytes value))
  | moment written _ => some (.ofString written)
  | reference index => some (.ofString ("UID(" ++ toString index ++ ")"))

/-- The integer that a number or truth value equals, if it equals one. -/
def integer? : Scalar → Option Int
  | boolean value => some (if value then 1 else 0)
  | integer value => some value
  | real value => realInteger? value
  | _ => none

/-- Whether two scalars are the same key of a mapping. -/
def sameKey : Scalar → Scalar → Bool
  | null, null => true
  | text left, text right => left == right
  | notANumber left, notANumber right => left == right
  | bytes left, bytes right => left == right
  | moment _ (some left), moment _ (some right) => left == right
  | moment left none, moment right none => left == right
  | reference left, reference right => left == right
  | left, right =>
      match left.integer?, right.integer? with
      | some left, some right => left == right
      | none, none =>
          match left, right with
          | real left, real right => left == right
          | _, _ => false
      | _, _ => false

end Scalar

/-- Set the value of a key.  A key that is present keeps its place and its spelling. -/
def putKey (key : Scalar) (value : Value) :
    List (Scalar × Value) → List (Scalar × Value)
  | [] => [(key, value)]
  | (other, old) :: rest =>
      if other.sameKey key then (other, value) :: rest
      else (other, old) :: putKey key value rest

/-- The mapping entries that result from setting keys one after the other. -/
def putKeys (pairs : List (Scalar × Value)) : List (Scalar × Value) :=
  pairs.foldl (fun entries pair => putKey pair.1 pair.2 entries) []

namespace Value

/-- The text that a value is, if it is one. -/
def text? : Value → Option Text.Wide
  | scalar (.text value) => some value
  | _ => none

/-- The value of a text key in mapping entries. -/
def field? (name : String) : List (Scalar × Value) → Option Value
  | [] => none
  | (.text key, value) :: rest =>
      if key = Text.Wide.ofString name then some value else field? name rest
  | _ :: rest => field? name rest

def scalar? : Value → Option Scalar
  | scalar value => some value
  | _ => none

def entries? : Value → Option (List (Scalar × Value))
  | mapping entries => some entries
  | _ => none

/-- The value of a text key of a mapping. -/
def get? (value : Value) (name : String) : Option Value :=
  value.entries?.bind (field? name)

end Value

end HomeCatalog.Document
