import HomeCatalog.Header.Declaration
import HomeCatalog.Reconciliation.Basic
import HomeCatalog.Stub.Symbols

/-!
# Extracting a catalog

The headers decide what is in the catalog.  The stub and the metadata are optional: without them
less is checked and the lists of characteristics come from the specification, but a catalog is
extracted all the same.
-/

namespace HomeCatalog.Extraction

/-- A stub beside a framework. -/
structure StubSource where
  path : Path
  /-- The text of the stub, if there is one. -/
  text : Option String
  deriving Repr, DecidableEq

/-- A metadata document. -/
structure MetadataSource where
  path : Path
  /-- The relationships, or the reason for which they cannot be loaded. -/
  loaded : Except String Metadata.Relationships

/-- What a catalog is extracted from. -/
structure Sources where
  serviceHeader : String
  characteristicHeader : String
  stub : StubSource
  metadata : Option MetadataSource

/-- An extracted catalog. -/
structure Outcome where
  catalog : Catalog
  summary : Reconciliation.Summary
  findings : List Finding
  deriving Repr, DecidableEq

/-- The symbols that a stub exports.  A missing stub exports none. -/
def StubSource.symbols (stub : StubSource) : List String :=
  (stub.text.map Stub.exportedSymbols).getD []

/-- What there is to report about a stub by itself. -/
def StubSource.findings (stub : StubSource) : List Finding :=
  if stub.text.isSome then [] else [.stubMissing stub.path]

/-- The relationships of a metadata document that could be loaded. -/
def MetadataSource.relationships? (source : MetadataSource) : Option Metadata.Relationships :=
  match source.loaded with
  | .ok relationships => some relationships
  | .error _ => none

/-- What there is to report about a metadata document by itself. -/
def MetadataSource.findings (source : MetadataSource) : List Finding :=
  match source.loaded with
  | .ok _ => []
  | .error reason => [.metadataUnavailable source.path reason]

/-- The entries that the headers declare. -/
def Sources.declared (sources : Sources) : Catalog :=
  ⟨Header.services sources.serviceHeader, Header.characteristics sources.characteristicHeader⟩

/-- Extract a catalog. -/
def extract (sources : Sources) : Outcome :=
  let declared := sources.declared
  let unchecked := sources.stub.findings
  let missing := Stub.check declared.services declared.characteristics sources.stub.symbols
  let unloaded := (sources.metadata.map MetadataSource.findings).getD []
  let outcome :=
    Reconciliation.reconcile declared (sources.metadata.bind MetadataSource.relationships?)
  ⟨outcome.catalog, outcome.summary, unchecked ++ missing ++ unloaded ++ outcome.findings⟩

end HomeCatalog.Extraction
