import HomeCatalog.Document.Flaw
import HomeCatalog.Entries
import HomeCatalog.Metadata.Name
import HomeCatalog.Metadata.Record

/-!
# Relationships between services and characteristics

A metadata document lists the records of services and of characteristics.  A service record
refers to characteristics by any of their identifiers: the key of the record, the short and the
long identifier, in any letter case.  Reading the two sections resolves these references to
canonical names.  Records that are not valid are passed over.  Only the key of a valid record can
stop the reading, if it is an integer that is too long to be written.
-/

namespace HomeCatalog.Metadata

open Document

/-- The characteristics that metadata gives one service. -/
structure Relationship where
  /-- The canonical name of the service. -/
  serviceName : String
  /-- The description in the document. -/
  description : Text.Wide
  /-- The canonical names of the required characteristics. -/
  required : List String
  /-- The canonical names of the optional characteristics. -/
  optional : List String
  deriving Repr, DecidableEq

/-- All that metadata says about a catalog. -/
structure Relationships where
  /-- The relationships in the order of the document. -/
  services : List Relationship
  /-- Canonical names of characteristics with their lower-case format tokens. -/
  formats : List (String × Text.Wide)
  /-- Upper-case identifiers with the canonical names of their characteristics. -/
  aliases : List (Text.Wide × String)
  deriving Repr, DecidableEq

/-- A valid record of a characteristic with its key in writing. -/
structure KeyedRecord where
  key : Text.Wide
  record : CharacteristicRecord
  deriving Repr, DecidableEq

namespace KeyedRecord

/-- The canonical name of the characteristic. -/
def name (entry : KeyedRecord) : String :=
  canonicalNameOf entry.record.description

/-- The identifiers that a record claims, in the order in which they are entered. -/
def claimedIds (entry : KeyedRecord) : List Text.Wide :=
  (entry.record.shortId.toList ++ [entry.key] ++ entry.record.longId.toList).map foldedId

end KeyedRecord

/-- The valid records of a section of characteristics, with their keys. -/
def validRecords (characteristics : List (Scalar × Value)) :
    List (Scalar × CharacteristicRecord) :=
  characteristics.filterMap fun entry =>
    (CharacteristicRecord.ofValue? entry.2).map fun record => (entry.1, record)

/-- The valid records of a section of characteristics, with their keys in writing. -/
def keyedRecords (characteristics : List (Scalar × Value)) :
    Except Breakdown (List KeyedRecord) :=
  (validRecords characteristics).mapM fun (key, record) =>
    match key.written? with
    | some key => .ok ⟨key, record⟩
    | none => .error .integerTooLong

/-- The canonical name of every claimed identifier.  The last record that claims one counts. -/
def aliasesOf (records : List KeyedRecord) : List (Text.Wide × String) :=
  Entries.ofPairs (records.flatMap fun entry =>
    entry.claimedIds.map fun identifier => (identifier, entry.name))

/-- The format token of every characteristic that states one.  The last record counts. -/
def formatsOf (records : List KeyedRecord) : List (String × Text.Wide) :=
  Entries.ofPairs (records.filterMap fun entry =>
    entry.record.format.map fun format => (entry.name, format.lower))

/-- The canonical names behind identifiers.  Unknown identifiers are dropped. -/
def resolveIds (aliases : List (Text.Wide × String)) (identifiers : List Text.Wide) :
    List String :=
  distinctNames (identifiers.filterMap fun identifier => aliases.lookup (foldedId identifier))

/-- The relationship that a service record states. -/
def relationshipOf (aliases : List (Text.Wide × String)) (record : ServiceRecord) :
    Relationship where
  serviceName := canonicalNameOf record.description
  description := record.description
  required := resolveIds aliases record.required
  optional := resolveIds aliases record.optional

/-- What records of characteristics and a section of services say together. -/
def Relationships.ofRecords (services : List (Scalar × Value)) (records : List KeyedRecord) :
    Relationships :=
  let aliases := aliasesOf records
  { services := (services.filterMap fun entry => ServiceRecord.ofValue? entry.2).map
      (relationshipOf aliases)
    formats := formatsOf records
    aliases }

/-- Read the sections of services and of characteristics. -/
def Relationships.ofSections (services characteristics : List (Scalar × Value)) :
    Except Breakdown Relationships :=
  (keyedRecords characteristics).map (ofRecords services)

end HomeCatalog.Metadata
