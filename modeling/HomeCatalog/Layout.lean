import HomeCatalog.Files.Path

/-!
# Where the framework's files lie

The framework is a directory of the kit.  Its headers lie below it, and its stub beside it, with
the framework's name and a further suffix.  A framework path without a name has no stub.
-/

namespace HomeCatalog

/-- The place of a framework. -/
structure Layout where
  framework : Path
  deriving Repr, DecidableEq

namespace Layout

/-- The place of the framework inside a development kit. -/
def ofKit (kit : Path) : Layout :=
  ⟨kit.join (Path.ofString "System/Library/Frameworks/HomeKit.framework")⟩

/-- The directory of the framework's headers. -/
def headers (layout : Layout) : Path :=
  layout.framework.child "Headers"

/-- The header that declares the service types. -/
def serviceHeader (layout : Layout) : Path :=
  layout.headers.child "HMServiceTypes.h"

/-- The header that declares the characteristic types. -/
def characteristicHeader (layout : Layout) : Path :=
  layout.headers.child "HMCharacteristicTypes.h"

/-- The stub that lists the framework's exported symbols. -/
def stub? (layout : Layout) : Option Path :=
  layout.framework.withName? (layout.framework.name ++ ".tbd")

/-- All files of a framework that are read. -/
def files (layout : Layout) : List Path :=
  [layout.serviceHeader, layout.characteristicHeader] ++ layout.stub?.toList

end Layout

end HomeCatalog
