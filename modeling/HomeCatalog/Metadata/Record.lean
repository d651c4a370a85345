import HomeCatalog.Document.Value
import HomeCatalog.Text.Bytes

/-!
# Records of the metadata document

A record of a characteristic or of a service is a mapping with many fields, of which a few are
used.  A field has two spellings, and the capitalised one wins when both are present.  A record
without a description is not valid, and neither is a service record without a block of
characteristics, or one that lists an integer which is too long to be written.
-/

namespace HomeCatalog.Metadata

open Document

/-- The text that a value is, if it is one. -/
def textOrNone (value : Value) : Option Text.Wide :=
  value.text?

/-- Whether an element of a list stands for an identifier: texts and numbers do, truth values and
all else do not. -/
def isIdentifier : Value → Bool
  | .scalar (.text _) | .scalar (.integer _) | .scalar (.real _) | .scalar (.notANumber _) => true
  | _ => false

/-- The identifiers in a value that should be a list of them, if all can be written.  Numbers are
written out. -/
def identifierList? : Value → Option (List Text.Wide)
  | .list items =>
      (items.filter isIdentifier).mapM fun item => item.scalar?.bind Scalar.written?
  | _ => some []

/-- A description: a text, or bytes that hold one. -/
def descriptionText? : Value → Option Text.Wide
  | .scalar (.text value) => some value
  | .scalar (.bytes value) => (Text.decode? value).map Text.Wide.ofString
  | _ => none

/-- The value of a field under either of its spellings. -/
def field? (entries : List (Scalar × Value)) (name plain : String) : Option Value :=
  (Value.field? name entries).or (Value.field? plain entries)

/-- What is used of the record of a characteristic. -/
structure CharacteristicRecord where
  description : Text.Wide
  shortId : Option Text.Wide
  longId : Option Text.Wide
  format : Option Text.Wide
  deriving Repr, DecidableEq

/-- What is used of the record of a service. -/
structure ServiceRecord where
  description : Text.Wide
  required : List Text.Wide
  optional : List Text.Wide
  deriving Repr, DecidableEq

/-- Read the description of a record. -/
def description? (entries : List (Scalar × Value)) : Option Text.Wide :=
  (field? entries "DefaultDescription" "default_description").bind descriptionText?

def CharacteristicRecord.ofValue? (value : Value) : Option CharacteristicRecord := do
  let entries ← value.entries?
  some {
    description := ← description? entries
    shortId := (field? entries "ShortUUID" "short_uuid").bind textOrNone
    longId := (field? entries "UUID" "uuid").bind textOrNone
    format := (field? entries "Format" "format").bind textOrNone }

def ServiceRecord.ofValue? (value : Value) : Option ServiceRecord := do
  let entries ← value.entries?
  let description ← description? entries
  let block ← field? entries "Characteristics" "characteristics"
  let lists ← block.entries?
  some {
    description
    required := ← ((field? lists "Required" "required").map identifierList?).getD (some [])
    optional := ← ((field? lists "Optional" "optional").map identifierList?).getD (some []) }

end HomeCatalog.Metadata
