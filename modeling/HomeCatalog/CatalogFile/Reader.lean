import HomeCatalog.Catalog.Basic
import HomeCatalog.CatalogFile.Quoted

/-!
# Reading a catalog file

The reader follows trimmed lines and is lenient: it passes over what it does not know.  A line
`services:` or `characteristics:` starts a section, a line `- identifier:` a record.  A line
with a colon sets a field of the record or, when nothing follows the colon, opens a list to
which the items below belong.  A record that lacks a field it needs is only counted.
-/

namespace HomeCatalog.CatalogFile

/-- The sections of a catalog file. -/
inductive FileSection where
  | services
  | characteristics
  deriving Repr, DecidableEq

/-- The fields and lists of the record being read. -/
structure Record where
  fields : List (String × String)
  lists : List (String × List String)
  deriving Repr, DecidableEq

namespace Record

/-- The record of which nothing has been read. -/
def empty : Record := ⟨[], []⟩

/-- Whether nothing has been read. -/
def isEmpty (record : Record) : Bool :=
  record.fields.isEmpty && record.lists.isEmpty

/-- A field that is present and not empty. -/
def needed? (record : Record) (key : String) : Option String :=
  (record.fields.lookup key).filter fun value => !value.isEmpty

/-- The items of a list, none if it is absent. -/
def items (record : Record) (key : String) : List String :=
  (record.lists.lookup key).getD []

def setField (record : Record) (key value : String) : Record :=
  { record with fields := Entries.put key value record.fields }

/-- Open a list.  One that is present keeps its items. -/
def openList (record : Record) (key : String) : Record :=
  { record with lists := Entries.put key (record.items key) record.lists }

def addItem (record : Record) (key item : String) : Record :=
  { record with lists := Entries.put key (record.items key ++ [item]) record.lists }

def isDeprecated (record : Record) : Bool :=
  record.fields.lookup "deprecated" == some "true"

/-- The service that a record describes. -/
def service? (record : Record) : Option Service := do
  let identifier ← record.needed? "identifier"
  let name ← record.needed? "name"
  let swiftName ← record.needed? "swiftName"
  some {
    identifier, name, swiftName
    documentation := record.fields.lookup "documentation"
    deprecated := record.isDeprecated
    required := record.items "requiredCharacteristics"
    optional := record.items "optionalCharacteristics" }

/-- The characteristic that a record describes. -/
def characteristic? (record : Record) : Option Characteristic := do
  let identifier ← record.needed? "identifier"
  let name ← record.needed? "name"
  let swiftName ← record.needed? "swiftName"
  let valueType ← record.needed? "valueType"
  some {
    identifier, name, swiftName
    valueKind := ValueKind.ofToken valueType
    documentation := record.fields.lookup "documentation"
    deprecated := record.isDeprecated }

end Record

/-- What a catalog file holds: its entries, and the number of records that were no entries. -/
structure Contents where
  catalog : Catalog
  skipped : Nat
  deriving Repr, DecidableEq

namespace Contents

/-- The contents of an empty file. -/
def empty : Contents := ⟨Catalog.empty, 0⟩

/-- The contents of two files together. -/
def append (left right : Contents) : Contents :=
  ⟨⟨left.catalog.services ++ right.catalog.services,
    left.catalog.characteristics ++ right.catalog.characteristics⟩, left.skipped + right.skipped⟩

instance : Append Contents := ⟨append⟩

end Contents

/-- What a record of a section contributes. -/
def Record.contents (record : Record) (fileSection : FileSection) : Contents :=
  match fileSection with
  | .services =>
      match record.service? with
      | some service => ⟨⟨[service], []⟩, 0⟩
      | none => ⟨Catalog.empty, 1⟩
  | .characteristics =>
      match record.characteristic? with
      | some characteristic => ⟨⟨[], [characteristic]⟩, 0⟩
      | none => ⟨Catalog.empty, 1⟩

/-- How far a file has been read. -/
structure Progress where
  /-- The section that was started last. -/
  fileSection : Option FileSection
  record : Record
  /-- The list to which items belong. -/
  activeList : Option String
  contents : Contents
  deriving Repr, DecidableEq

namespace Progress

/-- The state in front of the first line. -/
def start : Progress := ⟨none, .empty, none, .empty⟩

/-- Finish the record being read.  Outside a section it counts for nothing. -/
def flush (progress : Progress) : Progress :=
  match progress.fileSection with
  | some fileSection =>
      if progress.record.isEmpty then progress
      else { progress with
        record := .empty
        contents := progress.contents ++ progress.record.contents fileSection }
  | none => { progress with record := .empty }

end Progress

/-- The section that a line starts. -/
def sectionMarker? (line : List Char) : Option FileSection :=
  if line = "services:".toList then some .services
  else if line = "characteristics:".toList then some .characteristics
  else none

def startsRecord (line : List Char) : Bool :=
  "- identifier:".toList.isPrefixOf line

/-- What a line inside a record says. -/
inductive LineContent where
  | item (value : String)
  | listKey (key : String)
  | field (key value : String)
  | other
  deriving Repr, DecidableEq

/-- A key without the dash of the record that it starts. -/
def bareKey (key : List Char) : List Char :=
  if "- ".toList.isPrefixOf key then Text.strip (key.drop 2) else key

/-- Read a trimmed line: an item of a list, a key, or a key with a value. -/
def lineContent (line : List Char) : LineContent :=
  match Text.cut ':' line with
  | (_, none) =>
      if "- ".toList.isPrefixOf line then .item (String.ofList (Text.strip (line.drop 2)))
      else .other
  | (key, some value) =>
      let key := String.ofList (bareKey (Text.strip key))
      let value := Text.strip value
      if value.isEmpty then .listKey key else .field key (unquote (String.ofList value))

/-- Take up what a line says. -/
def takeUp (progress : Progress) : LineContent → Progress
  | .item value =>
      match progress.activeList with
      | some key => { progress with record := progress.record.addItem key value }
      | none => progress
  | .listKey key =>
      { progress with activeList := some key, record := progress.record.openList key }
  | .field key value =>
      match progress.fileSection with
      | some _ =>
          { progress with activeList := none, record := progress.record.setField key value }
      | none => { progress with activeList := none }
  | .other => progress

/-- Read one trimmed line. -/
def readLine (progress : Progress) (line : List Char) : Progress :=
  match sectionMarker? line with
  | some fileSection =>
      { progress.flush with fileSection := some fileSection, activeList := none }
  | none =>
      takeUp (if startsRecord line then progress.flush else progress) (lineContent line)

/-- The lines of a file that count: trimmed, not empty and no comments. -/
def significantLines (text : String) : List (List Char) :=
  ((Text.lines text.toList).map Text.strip).filter fun line =>
    !line.isEmpty && line.head? != some '#'

/-- Read trimmed lines from a state on, and finish the last record. -/
def readLines (progress : Progress) (lines : List (List Char)) : Contents :=
  (lines.foldl readLine progress).flush.contents

/-- Read the text of a catalog file. -/
def read (text : String) : Contents :=
  readLines .start (significantLines text)

end HomeCatalog.CatalogFile
