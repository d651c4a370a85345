import HomeCatalog.Diagnostic
import HomeCatalog.Metadata.Relationships
import HomeCatalog.Reconciliation.Specification

/-!
# Reconciling a catalog with metadata

A catalog read from headers has no references and only guessed value kinds.  Metadata supplies
both.  Format hints always overwrite the kinds they are about.  The references come from the
metadata when it gives at least one service of the catalog a characteristic of the catalog, and
from the specification otherwise; in the second case nothing of the metadata's references
shows.

Where display names repeat, metadata speaks about the last entry of a name.
-/

namespace HomeCatalog.Reconciliation

open Metadata

/-- Where the references of a catalog come from. -/
inductive Strategy where
  | metadata
  | specification
  deriving Repr, DecidableEq

def Strategy.label : Strategy → String
  | metadata => "metadata"
  | specification => "fallback"

/-- What a reconciliation did. -/
structure Summary where
  strategy : Strategy
  /-- The number of services that were given a characteristic. -/
  appliedServices : Nat
  /-- The descriptions of services that are not in the catalog, sorted. -/
  unmatchedServices : List Text.Wide
  /-- The characteristics that are referred to and not in the catalog, sorted. -/
  missingCharacteristics : List String
  /-- The number of characteristics whose kind changed. -/
  upgradedValueKinds : Nat
  /-- The names with a format hint that are not in the catalog, sorted. -/
  unmatchedFormatHints : List String
  deriving Repr, DecidableEq

/-- The result of a reconciliation. -/
structure Outcome where
  catalog : Catalog
  summary : Summary
  findings : List Finding
  deriving Repr, DecidableEq

/-- The value kinds of the known format tokens. -/
def formatKinds : List (String × ValueKind) :=
  [ ("bool", .boolean), ("int", .integer), ("uint", .integer), ("uint8", .integer),
    ("uint16", .integer), ("uint32", .integer), ("uint64", .integer), ("float", .floating),
    ("double", .floating), ("percent", .floating), ("temperature", .floating),
    ("pressure", .floating), ("data", .data), ("tlv8", .data) ]

/-- The value kind of a format token in any letter case.  Unknown formats are text. -/
def kindOfFormat (format : Text.Wide) : ValueKind :=
  (formatKinds.lookup (String.ofList format.lower.plain)).getD .text

/-- Change the last entry of each name. -/
def mapLast {α : Type} (name : α → String) (change : α → α) : List α → List α
  | [] => []
  | entry :: rest =>
      (if rest.any fun other => name other == name entry then entry else change entry) ::
        mapLast name change rest

/-- Give a characteristic the kind that a format hint states. -/
def applyHint (formats : List (String × Text.Wide)) (entry : Characteristic) : Characteristic :=
  match formats.lookup entry.name with
  | some format => { entry with valueKind := kindOfFormat format }
  | none => entry

/-- Overwrite the kinds of the characteristics that have format hints. -/
def applyFormats (formats : List (String × Text.Wide)) (catalog : Catalog) : Catalog :=
  { catalog with
    characteristics := mapLast Characteristic.name (applyHint formats) catalog.characteristics }

/-- The number of characteristics whose kind differs between two states of a catalog. -/
def changedKinds (before after : Catalog) : Nat :=
  (before.characteristics.zip after.characteristics).countP fun pair =>
    pair.1.valueKind != pair.2.valueKind

/-- The names with a format hint that no characteristic has, sorted. -/
def unmatchedHints (formats : List (String × Text.Wide)) (catalog : Catalog) : List String :=
  sortNames ((formats.map Prod.fst).filter fun name =>
    !catalog.characteristicNames.contains name)

/-- Whether the catalog has a service of a relationship's name. -/
def isMatched (catalog : Catalog) (relationship : Relationship) : Bool :=
  catalog.services.any fun service => service.name == relationship.serviceName

/-- The required and the optional references that a relationship gives its service: those to
characteristics of the catalog, each once, and none that is required among the optional. -/
def referencesOf (catalog : Catalog) (relationship : Relationship) :
    List String × List String :=
  let isKnown := fun name => catalog.characteristicNames.contains name
  let required := distinctNames (relationship.required.filter isKnown)
  (required, distinctNames (relationship.optional.filter fun name =>
    isKnown name && !required.contains name))

/-- The references that metadata gives the services of the catalog.  Of several relationships
of one service the last counts. -/
def stagedReferences (catalog : Catalog) (relationships : List Relationship) :
    List (String × List String × List String) :=
  Entries.ofPairs ((relationships.filter (isMatched catalog)).map fun relationship =>
    (relationship.serviceName, referencesOf catalog relationship))

/-- Whether required and optional references are not both empty. -/
def hasReferences (references : List String × List String) : Bool :=
  !references.1.isEmpty || !references.2.isEmpty

/-- Give a service its required and optional references. -/
def setReferences (service : Service) (references : List String × List String) : Service :=
  { service with required := references.1, optional := references.2 }

/-- Give a service the references that are staged for its name. -/
def applyStaged (staged : List (String × List String × List String)) (service : Service) :
    Service :=
  match staged.lookup service.name with
  | some references => setReferences service references
  | none => service

/-- Give a service the references that the specification knows. -/
def applySpecified (service : Service) : Service :=
  match specified? service.name with
  | some references => setReferences service references
  | none => service

/-- Whether the specification gives a service a reference. -/
def isSpecified (service : Service) : Bool :=
  match specified? service.name with
  | some references => hasReferences references
  | none => false

/-- The descriptions of the relationships whose services are not in the catalog, sorted. -/
def unmatchedDescriptions (catalog : Catalog) (relationships : List Relationship) :
    List Text.Wide :=
  Text.Wide.sort ((relationships.filter fun relationship => !isMatched catalog relationship).map
    Relationship.description)

/-- The references of matched relationships that are not in the catalog, each once, sorted. -/
def missingNames (catalog : Catalog) (relationships : List Relationship) : List String :=
  sortNames (((relationships.filter (isMatched catalog)).flatMap fun relationship =>
    (relationship.required ++ relationship.optional).filter fun name =>
      !catalog.characteristicNames.contains name).eraseDups)

/-- Fill the references from the specification. -/
def reconcileSpecified (catalog : Catalog) (summary : Summary) (findings : List Finding) :
    Outcome :=
  let applied := catalog.services.countP isSpecified
  { catalog := { catalog with services := catalog.services.map applySpecified }
    summary := { summary with strategy := .specification, appliedServices := applied }
    findings := findings ++ [.fallbackApplied applied] }

/-- The summary in front of any step. -/
def Summary.initial : Summary := ⟨.specification, 0, [], [], 0, []⟩

/-- The findings about format hints. -/
def formatFindings (upgraded : Nat) (unmatched : List String) : List Finding :=
  (if upgraded = 0 then [] else [.formatsApplied upgraded]) ++
    (if unmatched.isEmpty then [] else [.unmatchedFormatHints unmatched])

/-- The findings about references from metadata. -/
def metadataFindings (summary : Summary) : List Finding :=
  [.metadataApplied summary.appliedServices] ++
    (if summary.unmatchedServices.isEmpty then []
      else [.unmatchedServices summary.unmatchedServices]) ++
    (if summary.missingCharacteristics.isEmpty then []
      else [.missingCharacteristics summary.missingCharacteristics])

/-- Reconcile a catalog with metadata that could be loaded. -/
def reconcileWith (catalog : Catalog) (metadata : Relationships) : Outcome :=
  let typed := applyFormats metadata.formats catalog
  let upgraded := changedKinds catalog typed
  let unmatchedHints := unmatchedHints metadata.formats catalog
  let staged := stagedReferences typed metadata.services
  let applied := staged.countP fun entry => hasReferences entry.2
  let summary : Summary := {
    strategy := .metadata
    appliedServices := applied
    unmatchedServices := unmatchedDescriptions typed metadata.services
    missingCharacteristics := missingNames typed metadata.services
    upgradedValueKinds := upgraded
    unmatchedFormatHints := unmatchedHints }
  let findings := formatFindings upgraded unmatchedHints
  if applied = 0 then
    reconcileSpecified typed summary (findings ++ [.noRelationships])
  else
    { catalog := { typed with
        services := mapLast Service.name (applyStaged staged) typed.services }
      summary
      findings := findings ++ metadataFindings summary }

/-- Reconcile a catalog with metadata, or with none. -/
def reconcile (catalog : Catalog) : Option Relationships → Outcome
  | some metadata => reconcileWith catalog metadata
  | none => reconcileSpecified catalog .initial []

end HomeCatalog.Reconciliation
