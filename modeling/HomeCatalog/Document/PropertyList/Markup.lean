import HomeCatalog.Calendar.Moment
import HomeCatalog.Decimal.Reading
import HomeCatalog.Document.Base64
import HomeCatalog.Document.Value
import HomeCatalog.Document.Xml.Event

/-!
# Property lists in XML

Elements named for the kinds of values hold the values of a property list.  The value of a
simple element is the character data since the last start of an element or end of another simple
one.  Elements with other names are passed over, and the value of the document is the last one
that stands outside of lists and mappings.
-/

namespace HomeCatalog.Document.PropertyList

/-- A list or mapping that has not ended yet, with the key under which it will stand in the
mapping around it. -/
inductive Frame where
  | mapping (place : Option String) (entries : List (Scalar × Value))
  /-- The items come last one first. -/
  | list (place : Option String) (items : List Value)

/-- How far the events of a document have been read. -/
structure Assembly where
  root : Value
  /-- The open lists and mappings, innermost first. -/
  frames : List Frame
  /-- A key that waits for its value. -/
  key : Option String
  /-- The character data that no element has taken. -/
  data : List Char

namespace Assembly

/-- Nothing is read yet. -/
def start : Assembly := ⟨.scalar .null, [], none, []⟩

/-- Check that a value may come next: after a key in a mapping, without one elsewhere. -/
def checkPlace (assembly : Assembly) : Except Flaw Unit :=
  match assembly.key, assembly.frames with
  | some _, .mapping .. :: _ => .ok ()
  | some _, [] => breakDown .outsideCollections
  | none, .list .. :: _ => .ok ()
  | none, [] => .ok ()
  | _, _ => .error .malformed

/-- Put a value into the innermost open list or mapping, under a key in a mapping. -/
def insert (assembly : Assembly) (place : Option String) (value : Value) : Assembly :=
  match assembly.frames, place with
  | .mapping outer entries :: frames, some key =>
      let entries := putKey (.text (.ofString key)) value entries
      { assembly with frames := .mapping outer entries :: frames }
  | .list outer items :: frames, _ =>
      { assembly with frames := .list outer (value :: items) :: frames }
  | _, _ => { assembly with root := value }

def add (assembly : Assembly) (value : Value) : Except Flaw Assembly := do
  assembly.checkPlace
  return { assembly with key := none }.insert assembly.key value

/-- Open a list or mapping. -/
def openFrame (assembly : Assembly) (frame : Option String → Frame) : Except Flaw Assembly := do
  assembly.checkPlace
  return { assembly with
    key := none, data := [], frames := frame assembly.key :: assembly.frames }

/-- Whether a key with characters waits for its value. -/
def hasPendingKey (assembly : Assembly) : Bool :=
  assembly.key.getD "" != ""

/-- Close the innermost list or mapping.  A mapping must not end with a key, but one that is
empty may be left. -/
def closeFrame (assembly : Assembly) : Except Flaw Assembly :=
  match assembly.frames with
  | [] => breakDown .outsideCollections
  | .list place items :: frames =>
      .ok ({ assembly with frames }.insert place (.list items.reverse))
  | .mapping place entries :: frames =>
      if assembly.hasPendingKey then .error .malformed
      else .ok ({ assembly with frames }.insert place (.mapping entries))

/-- Take the character data for the next key of a mapping. -/
def setKey (assembly : Assembly) : Except Flaw Assembly :=
  if assembly.hasPendingKey then .error .malformed
  else
    match assembly.frames with
    | [] => breakDown .outsideCollections
    | .list .. :: _ => .error .malformed
    | .mapping .. :: _ =>
        .ok { assembly with key := some (String.ofList assembly.data), data := [] }

end Assembly

/-- The integer that an element holds, in decimal or hexadecimal notation. -/
def integerOf? (data : List Char) : Option Int :=
  match data with
  | '0' :: 'x' :: _ | '0' :: 'X' :: _ => Decimal.integerIn? 16 data
  | _ => Decimal.integer? data

/-- A number of exactly so many decimal digits, and the text behind it. -/
def fixedNumber? (count : Nat) (cs : List Char) : Option (Nat × List Char) :=
  if cs.length < count then none
  else (Text.plainNumber? (cs.take count)).map fun number => (number, cs.drop count)

/-- A part of a date: a mark and two digits. -/
def datePart? (mark : Char) (cs : List Char) : Option (Nat × List Char) :=
  match cs with
  | c :: rest => if c = mark then fixedNumber? 2 rest else none
  | [] => none

/-- The further parts of a date, as many as there are: each a mark and two digits. -/
def dateParts : List Char → List Char → List Nat × List Char
  | [], cs => ([], cs)
  | mark :: marks, cs =>
      match datePart? mark cs with
      | some (number, rest) =>
          let (numbers, rest) := dateParts marks rest
          (number :: numbers, rest)
      | none => ([], cs)

/-- The moment that an element holds: a date, and as much of the time as is known. -/
def momentOf (data : List Char) : Except Flaw Value :=
  match fixedNumber? 4 data with
  | none => breakDown .noDate
  | some (year, rest) =>
      let (parts, rest) := dateParts ['-', '-', 'T', ':', ':'] rest
      if rest.head? != some 'Z' then breakDown .noDate
      else
        match parts with
        | [] => breakDown (.incompleteDate .month)
        | [_] => breakDown (.incompleteDate .day)
        | month :: day :: time =>
            let civil : Calendar.Civil :=
              ⟨⟨year, month, day⟩, time.getD 0 0, time.getD 1 0, time.getD 2 0⟩
            if civil.isValid then .ok (.scalar (.ofMoment ⟨civil, 0, none⟩))
            else .error .malformed

/-- A scalar that is missing only when the document is malformed. -/
def scalarOf (scalar? : Option Scalar) : Except Flaw Value :=
  (orMalformed scalar?).map Value.scalar

/-- How an element with the given name holds its value in character data, if it does. -/
def elementValue? (name : String) (data : List Char) : Option (Except Flaw Value) :=
  match name with
  | "string" => some (.ok (.scalar (.text (.ofList data))))
  | "integer" => some (scalarOf ((integerOf? data).map Scalar.integer))
  | "real" => some (scalarOf ((Decimal.real? data).map fun number => .ofReal 0 number))
  | "data" => some (scalarOf ((Base64.decode? data).map Scalar.bytes))
  | "date" => some (momentOf data)
  | _ => none

def Assembly.read (assembly : Assembly) (event : Xml.Event) : Except Flaw Assembly :=
  match event with
  | .data text => .ok { assembly with data := assembly.data ++ text }
  | .start "dict" => assembly.openFrame fun place => .mapping place []
  | .start "array" => assembly.openFrame fun place => .list place []
  | .start _ => .ok { assembly with data := [] }
  | .finish "dict" | .finish "array" => assembly.closeFrame
  | .finish "key" => assembly.setKey
  | .finish "true" => assembly.add (.scalar (.boolean true))
  | .finish "false" => assembly.add (.scalar (.boolean false))
  | .finish name =>
      match elementValue? name assembly.data with
      | none => .ok assembly
      | some value => value >>= { assembly with data := [] }.add

/-- Read a property list in XML.  What stands in front of a fault counts before it. -/
def markup (bytes : List UInt8) : Except Flaw Value := do
  let document ← Xml.Events.ofFile bytes
  let assembly ← document.events.foldlM Assembly.read Assembly.start
  if document.isWhole then return assembly.root else .error .malformed

end HomeCatalog.Document.PropertyList
