import HomeCatalog.Document.PropertyList
import HomeCatalog.Document.Yaml.Reading
import HomeCatalog.Metadata.Relationships
import HomeCatalog.Problem

/-!
# The metadata document

The document is a YAML text, of which JSON is a part, if the suffix of its name says so, and a
property list otherwise.  The records of services and of characteristics lie next to each other in
one of its sections.
-/

namespace HomeCatalog.Metadata

open Document

/-- The suffixes of YAML texts, in lower case. -/
def yamlSuffixes : List String :=
  [".json", ".yaml", ".yml"]

/-- Whether the document at a path is a YAML text. -/
def isYaml (path : Path) : Bool :=
  yamlSuffixes.contains (String.ofList (Text.lower path.suffix.toList))

/-- Read the document in the bytes of the file at a path. -/
def parse (path : Path) (bytes : List UInt8) : Except Flaw Value :=
  if isYaml path then orMalformed (Text.ofFile? bytes) >>= Yaml.read else PropertyList.read bytes

/-- The keys that lead to the section of services and characteristics. -/
def sectionPath : List String :=
  ["PlistDictionary", "HAP"]

/-- The sections of services and of characteristics, both mappings. -/
def sections? (root : Value) : Option (List (Scalar × Value) × List (Scalar × Value)) := do
  let node ← sectionPath.foldlM Value.get? root
  some (← (← node.get? "Services").entries?, ← (← node.get? "Characteristics").entries?)

/-- The relationships in the document with a given value. -/
def ofValue (path : Path) (root : Value) : Except Problem Relationships :=
  if root.entries?.isNone then .error (.failure (.metadataNoMapping path))
  else
    match sections? root with
    | none => .error (.failure (.metadataNoSection path))
    | some (services, characteristics) =>
        (Relationships.ofSections services characteristics).mapError .breakdown

/-- The problem that a flaw of the document at a path is. -/
def problemOf (path : Path) : Flaw → Problem
  | .malformed => .failure (.metadataMalformed path)
  | .breakdown reason => .breakdown reason

/-- Load the relationships from the document at a path. -/
def load (tree : FileTree) (path : Path) : Except Problem Relationships := do
  match tree.isFile path with
  | .error error => .error (.file error)
  | .ok false => .error (.failure (.metadataMissing path))
  | .ok true =>
      let bytes ← (tree.readBytes path).mapError Problem.file
      let root ← (parse path bytes).mapError (problemOf path)
      ofValue path root

end HomeCatalog.Metadata
