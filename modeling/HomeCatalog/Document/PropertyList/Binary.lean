import HomeCatalog.Calendar.Moment
import HomeCatalog.Document.Flaw
import HomeCatalog.Document.Graph
import HomeCatalog.Text.Bytes

/-!
# Property lists in binary form

The file holds a table of objects, and its last 32 bytes say where the table of their places
lies.  Lists and mappings name their parts by numbers in the table.  Every number has its most
significant byte first.

Objects are read as they are reached from the root, each once and depth first, and the value of an
entry in front of its key.  Objects that are not reached need not be well-formed.  Lists and
mappings that lie too deep inside each other cannot be read, and a list counts three times.
-/

namespace HomeCatalog.Document.PropertyList

/-- The number with the given bytes. -/
def bigEndian (bytes : List UInt8) : Nat :=
  bytes.foldl (fun number byte => number * 256 + byte.toNat) 0

/-- A number of bytes exactly, and what follows them. -/
def bytes? (count : Nat) (cs : List UInt8) : Option (List UInt8 × List UInt8) :=
  if count ≤ cs.length then some (cs.take count, cs.drop count) else none

/-- Numbers of `size` bytes each, in bytes that hold them all. -/
def numbersFrom (size : Nat) : (count : Nat) → List UInt8 → List Nat
  | 0, _ => []
  | count + 1, cs => bigEndian (cs.take size) :: numbersFrom size count (cs.drop size)

/-- Numbers of `size` bytes each, and what follows them. -/
def numbers? (size count : Nat) (cs : List UInt8) : Option (List Nat × List UInt8) :=
  if size = 0 || cs.length < count * size then none
  else some (numbersFrom size count cs, cs.drop (count * size))

/-- What the end of the file says about it. -/
structure Trailer where
  /-- The bytes of each place in the table of places. -/
  placeSize : Nat
  /-- The bytes of each reference to an object. -/
  referenceSize : Nat
  objectCount : Nat
  /-- The number of the object that is the value of the file. -/
  root : Nat
  tablePlace : Nat
  deriving Repr, DecidableEq

/-- Read the end of a file. -/
def Trailer.ofFile? (file : List UInt8) : Option Trailer :=
  if file.length < 32 then none
  else
    let trailer := file.drop (file.length - 26)
    some {
      placeSize := (trailer.headD 0).toNat
      referenceSize := (trailer.getD 1 0).toNat
      objectCount := bigEndian ((trailer.drop 2).take 8)
      root := bigEndian ((trailer.drop 10).take 8)
      tablePlace := bigEndian ((trailer.drop 18).take 8) }

/-- Bytes as the integer that they hold in two's complement. -/
def twosComplement (bytes : List UInt8) : Int :=
  let number := bigEndian bytes
  let bound := Nat.pow 256 bytes.length
  if 2 * number < bound then number else (number : Int) - bound

/-- The seconds up to the start of the year 2001. -/
def epoch : Nat :=
  (Calendar.Civil.mk ⟨2001, 1, 1⟩ 0 0 0).seconds

/-- More seconds than there are between the start of the year 2001 and any moment. -/
def tooManySeconds : Float := 1.0e12

/-- A number of seconds that is not negative as microseconds.  Whole seconds are exact; the
microseconds in the fraction are computed as a real number, and then rounded to the nearest
integer, or for a half to the one that makes the sum even. -/
def microsecondsOf (seconds : Float) : Nat :=
  let whole := seconds.floor
  let fraction := (seconds - whole) * 1000000.0
  let exact := whole.toUInt64.toNat * 1000000 + fraction.floor.toUInt64.toNat
  let rest := fraction - fraction.floor
  if 0.5 < rest || (rest == 0.5 && exact % 2 == 1) then exact + 1 else exact

/-- The moment a number of seconds after the start of the year 2001. -/
def moment? (seconds : Float) : Option Scalar :=
  if seconds.abs < tooManySeconds then
    let distance : Int := microsecondsOf seconds.abs
    let elapsed := epoch * 1000000 + if seconds < 0 then -distance else distance
    let whole := elapsed / 1000000
    if 86400 ≤ whole && whole < (Calendar.lastOrdinal + 1) * 86400 then
      some (.ofMoment ⟨.ofSeconds whole.toNat, (elapsed % 1000000).toNat, none⟩)
    else none
  else none

/-- The length of an object: the low half of its first byte, or a number that follows. -/
def length? (low : Nat) (cs : List UInt8) : Option (Nat × List UInt8) :=
  if low < 15 then some (low, cs)
  else
    match cs with
    | [] => none
    | width :: rest =>
        (bytes? (Nat.pow 2 (width.toNat % 4)) rest).map fun (number, rest) => (bigEndian number, rest)

/-- Read a text or bytes after the first byte. -/
def lengthy? (low width : Nat) (cs : List UInt8) (scalar? : List UInt8 → Option Scalar) :
    Option Object := do
  let (length, rest) ← length? low cs
  let (bytes, _) ← bytes? (length * width) rest
  (scalar? bytes).map Object.scalar

/-- The text in bytes of which none is beyond ASCII. -/
def asciiText? (bytes : List UInt8) : Option Scalar :=
  if bytes.all fun byte => byte < 0x80 then
    some (.text (.ofList (bytes.map fun byte => Char.ofNat byte.toNat)))
  else none

/-- The text in bytes that are units of 16 bits. -/
def unitText? (bytes : List UInt8) : Option Scalar :=
  ((Text.units? true bytes).bind Text.ofUnits?).map fun text => .text (.ofList text)

/-- Read a number, a moment or a single value, given its first byte and the number of its
object. -/
def simpleObject? (number : Nat) (token : UInt8) (cs : List UInt8) : Option Scalar :=
  let low := token.toNat % 16
  match token.toNat / 16 with
  | 0 =>
      if low = 0 then some .null
      else if low = 8 then some (.boolean false)
      else if low = 9 then some (.boolean true)
      else if low = 15 then some (.bytes [])
      else none
  | 1 =>
      let bytes := cs.take (Nat.pow 2 low)
      some (.integer (if 3 ≤ low then twosComplement bytes else bigEndian bytes))
  | 2 =>
      if low = 2 then
        (bytes? 4 cs).map fun (bytes, _) =>
          .ofReal number (Float32.ofBits (UInt32.ofNat (bigEndian bytes))).toFloat
      else if low = 3 then
        (bytes? 8 cs).map fun (bytes, _) =>
          .ofReal number (Float.ofBits (UInt64.ofNat (bigEndian bytes)))
      else none
  | 3 =>
      if low = 3 then
        (bytes? 8 cs).bind fun (bytes, _) =>
          moment? (Float.ofBits (UInt64.ofNat (bigEndian bytes)))
      else none
  | 8 =>
      let index := bigEndian (cs.take (low + 1))
      if index < Nat.pow 2 64 then some (.reference index) else none
  | _ => none

/-- Read the object with a given number, which starts a sequence of bytes. -/
def tableObject? (referenceSize number : Nat) : List UInt8 → Option Object
  | [] => none
  | token :: cs =>
      let low := token.toNat % 16
      match token.toNat / 16 with
      | 4 => lengthy? low 1 cs fun bytes => some (.bytes bytes)
      | 5 => lengthy? low 1 cs asciiText?
      | 6 => lengthy? low 2 cs unitText?
      | 10 => do
          let (count, rest) ← length? low cs
          let (items, _) ← numbers? referenceSize count rest
          some (.list items)
      | 13 => do
          let (count, rest) ← length? low cs
          let (keys, rest) ← numbers? referenceSize count rest
          let (values, _) ← numbers? referenceSize count rest
          some (.mapping (keys.zip values))
      | _ => (simpleObject? number token cs).map Object.scalar

/-- What is to be done on the way through the table. -/
inductive Task where
  /-- Reach an object at a depth. -/
  | reach (number depth : Nat)
  /-- Check that an object is a proper key. -/
  | checkKey (number : Nat)
  deriving Repr, DecidableEq

/-- The greatest depth of a list or mapping. -/
def deepestObject : Nat := 987

/-- What is to be done for the parts of an object that was reached at a depth. -/
def partTasks (depth : Nat) : Object → List Task
  | .list items => items.map (Task.reach · (depth + 3))
  | .mapping entries =>
      entries.flatMap fun (key, value) =>
        [.reach value (depth + 1), .reach key (depth + 1), .checkKey key]
  | _ => []

/-- Do what is to be done, given the objects of the table and which of them were reached.  There
is at most so much to be done as there are parts of objects. -/
def perform (objects : Array (Option Object)) :
    (bound : Nat) → List Task → (reached : Array Bool) → Except Flaw Unit
  | _, [], _ => .ok ()
  | 0, _, _ => .error .malformed
  | bound + 1, .checkKey number :: tasks, reached =>
      match objects[number]?.join with
      | some (.scalar _) => perform objects bound tasks reached
      | _ => .error .malformed
  | bound + 1, .reach number depth :: tasks, reached =>
      match objects[number]?.join with
      | none => .error .malformed
      | some object =>
          if reached.getD number true then perform objects bound tasks reached
          else if deepestObject < depth && !object.isKey then breakDown .tooDeep
          else
            perform objects bound (partTasks depth object ++ tasks)
              (reached.setIfInBounds number true)

/-- Check that all objects that a root reaches are well-formed. -/
def checkObjects (objects : Array (Option Object)) (root : Nat) : Except Flaw Unit :=
  let count := objects.foldl (fun count object? =>
    count + ((object?.map fun object => (partTasks 0 object).length).getD 0)) 1
  perform objects count [.reach root 0] (Array.replicate objects.size false)

/-- Read the table of objects of a file, and the number of the root. -/
def table? (file : List UInt8) : Option (Array (Option Object) × Nat) := do
  let trailer ← Trailer.ofFile? file
  let (places, _) ←
    numbers? trailer.placeSize trailer.objectCount (file.drop trailer.tablePlace)
  let objects := places.zipIdx.map fun (place, number) =>
    tableObject? trailer.referenceSize number (file.drop place)
  some (objects.toArray, trailer.root)

/-- Read a property list in binary form. -/
def binary (file : List UInt8) : Except Flaw Value := do
  let (objects, root) ← orMalformed (table? file)
  checkObjects objects root
  return Graph.value ⟨objects, root⟩

end HomeCatalog.Document.PropertyList
