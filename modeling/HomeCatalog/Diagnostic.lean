import HomeCatalog.Failure
import HomeCatalog.Text.Wide

/-!
# Diagnostics

A run records what it notices and carries on.  A finding says what was noticed; the issue made
from it says how it is reported: a code, a severity, a message, and details for debugging.
-/

namespace HomeCatalog

/-- How serious an issue is. -/
inductive Severity where
  | warning
  | info
  deriving Repr, DecidableEq

def Severity.label : Severity → String
  | warning => "WARNING"
  | info => "INFO"

/-- A reported issue, with details of any type. -/
structure Issue (δ : Type) where
  code : String
  severity : Severity
  message : String
  context : List (String × δ)
  deriving Repr

namespace Issue

variable {δ : Type}

def text (issue : Issue δ) : String :=
  "[" ++ issue.code ++ "] " ++ issue.severity.label ++ " " ++ issue.message

def warnings (report : List (Issue δ)) : List (Issue δ) :=
  report.filter fun issue => issue.severity == .warning

def infos (report : List (Issue δ)) : List (Issue δ) :=
  report.filter fun issue => issue.severity == .info

end Issue

/-- The first `limit` values, with commas between them.  A negative limit leaves out as many
values at the end. -/
def sample (values : List String) (limit : Int) : String :=
  let count := if limit < 0 then values.length - limit.natAbs else limit.toNat
  String.intercalate ", " (values.take count)

/-- The first three values, as messages quote them. -/
def examples (values : List String) : String :=
  sample values 3

/-- A detail of a finding. -/
inductive Detail where
  | text (value : String)
  | count (value : Nat)
  | names (values : List String)
  | texts (values : List Text.Wide)
  deriving Repr, DecidableEq

/-- What a run may notice. -/
inductive Finding where
  /-- The stub does not export the symbol of an entry. -/
  | symbolNotExported (kind : EntryKind) (symbol : String)
  /-- Metadata describes services that no header declares. -/
  | unmatchedServices (descriptions : List Text.Wide)
  /-- Metadata refers to characteristics that no header declares. -/
  | missingCharacteristics (names : List String)
  /-- Metadata gives formats for characteristics that no header declares. -/
  | unmatchedFormatHints (names : List String)
  /-- The metadata document could not be loaded, for the stated reason. -/
  | metadataUnavailable (path : Path) (reason : String)
  /-- The metadata document gave no service a characteristic. -/
  | noRelationships
  /-- A service refers to a characteristic that is not in the catalog. -/
  | unknownCharacteristic (characteristic service : String)
  /-- An output directory existed before. -/
  | outputReplaced (target : Target) (path : Path)
  /-- There is no stub to check symbols against. -/
  | stubMissing (path : Path)
  /-- The specification's table filled the lists of some services. -/
  | fallbackApplied (services : Nat)
  /-- Metadata filled the lists of some services. -/
  | metadataApplied (services : Nat)
  /-- Metadata formats changed the kinds of some characteristics. -/
  | formatsApplied (characteristics : Nat)
  deriving Repr, DecidableEq

namespace Finding

def code : Finding → String
  | symbolNotExported .. => "W001"
  | unmatchedServices .. => "W002"
  | missingCharacteristics .. => "W003"
  | unmatchedFormatHints .. => "W004"
  | metadataUnavailable .. => "W005"
  | noRelationships => "W005"
  | unknownCharacteristic .. => "W010"
  | outputReplaced .. => "W011"
  | stubMissing .. => "I001"
  | fallbackApplied .. => "I002"
  | metadataApplied .. => "I003"
  | formatsApplied .. => "I004"

def severity : Finding → Severity
  | stubMissing .. | fallbackApplied .. | metadataApplied .. | formatsApplied .. => .info
  | _ => .warning

def message : Finding → String
  | symbolNotExported kind symbol => s!"{kind.label} symbol not found in TBD: {symbol}"
  | unmatchedServices descriptions =>
      s!"Skipped {descriptions.length} metadata services not present in headers " ++
        s!"(e.g. {examples (descriptions.map Text.Wide.shown)})"
  | missingCharacteristics names =>
      s!"Encountered {names.length} characteristics missing from parsed headers " ++
        s!"(e.g. {examples names})"
  | unmatchedFormatHints names =>
      s!"Skipped format updates for {names.length} metadata characteristics not present in " ++
        s!"headers (e.g. {examples names})"
  | metadataUnavailable _ reason => s!"Metadata parsing failed, using fallback mappings: {reason}"
  | noRelationships =>
      "Metadata parsing produced no service relationships; " ++
        "falling back to HAP specification mappings"
  | unknownCharacteristic characteristic service =>
      s!"Skipping unknown characteristic {characteristic} for service {service}"
  | outputReplaced target path =>
      s!"Replacing existing {target.label} output directory: {path.toString}"
  | stubMissing path => s!"TBD file not found, skipping symbol validation: {path.toString}"
  | fallbackApplied services => s!"Applied HAP specification mappings to {services} services"
  | metadataApplied services => s!"Applied metadata-based mappings to {services} services"
  | formatsApplied characteristics =>
      s!"Updated value types for {characteristics} characteristics using metadata formats"

def context : Finding → List (String × Detail)
  | symbolNotExported _ symbol => [("symbol", .text symbol)]
  | unmatchedServices descriptions => [("services", .texts descriptions)]
  | missingCharacteristics names => [("characteristics", .names names)]
  | unmatchedFormatHints names => [("names", .names names)]
  | metadataUnavailable path _ => [("path", .text path.toString)]
  | noRelationships => []
  | unknownCharacteristic characteristic service =>
      [("service", .text service), ("characteristic", .text characteristic)]
  | outputReplaced _ path => [("path", .text path.toString)]
  | stubMissing path => [("path", .text path.toString)]
  | fallbackApplied services => [("applied", .count services)]
  | metadataApplied services => [("applied", .count services)]
  | formatsApplied characteristics => [("updated", .count characteristics)]

/-- How a finding is reported. -/
def issue (finding : Finding) : Issue Detail :=
  ⟨finding.code, finding.severity, finding.message, finding.context⟩

end Finding

end HomeCatalog
