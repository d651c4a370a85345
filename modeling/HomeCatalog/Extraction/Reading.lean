import HomeCatalog.Extraction.Basic
import HomeCatalog.Layout
import HomeCatalog.Metadata.Document

/-!
# Reading the sources of a catalog

The headers must be there and must be texts.  A stub that is there must be a text.  A metadata
document that is missing or malformed does not matter, but its reader must not break down on it.
-/

namespace HomeCatalog.Extraction

def readHeader (tree : FileTree) (path : Path) : Except Problem String :=
  match tree.isFile path with
  | .error error => .error (.file error)
  | .ok false => .error (.failure (.headerNotFound path))
  | .ok true => tree.readText path

/-- Read the stub of a framework, if there is one. -/
def readStub (tree : FileTree) (layout : Layout) : Except Problem StubSource :=
  match layout.stub? with
  | none => .error (.unnamedPath layout.framework)
  | some path =>
      match tree.isFile path with
      | .error error => .error (.file error)
      | .ok false => .ok ⟨path, none⟩
      | .ok true => (tree.readText path).map fun text => ⟨path, some text⟩

/-- Whether the catalog can do without metadata that cannot be loaded for a given reason: it can
when the document is missing, malformed or refused by the file system. -/
def isDispensable : Problem → Bool
  | .failure reason => reason.kind.lineage.contains .metadata
  | .file _ => true
  | _ => false

/-- Read a metadata document, which may turn out to be dispensable. -/
def readMetadata (tree : FileTree) (path : Path) : Except Problem MetadataSource :=
  match Metadata.load tree path with
  | .ok relationships => .ok ⟨path, .ok relationships⟩
  | .error problem =>
      if isDispensable problem then .ok ⟨path, .error problem.message⟩ else .error problem

/-- Read all sources, the headers first. -/
def readSources (tree : FileTree) (layout : Layout) (metadata : Option Path) :
    Except Problem Sources := do
  let serviceHeader ← readHeader tree layout.serviceHeader
  let characteristicHeader ← readHeader tree layout.characteristicHeader
  let stub ← readStub tree layout
  return ⟨serviceHeader, characteristicHeader, stub, ← metadata.mapM (readMetadata tree)⟩

/-- Extract the catalog of a framework. -/
def run (tree : FileTree) (layout : Layout) (metadata : Option Path) :
    Except Problem Outcome :=
  (readSources tree layout metadata).map extract

end HomeCatalog.Extraction
