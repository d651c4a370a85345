import HomeCatalog.Catalog.Basic
import HomeCatalog.Diagnostic
import HomeCatalog.Identifier.Allocator

/-!
# Names and references in bindings

The names of catalog entries are kept by the identifiers of the entries.  Where an identifier
repeats, the name that was allocated last counts for all its entries.

A service refers to characteristics by display names.  A reference is resolved to the last
characteristic of its name.  Every name counts once: where it is required and optional, it is
required.  Names without a characteristic are noticed and left out.
-/

namespace HomeCatalog.Bindings

open Identifier

/-! ## Tables of assigned names -/

/-- Names assigned to catalog entries, by identifier. -/
abbrev NameTable := List (String × String)

def NameTable.nameOf (table : NameTable) (identifier : String) : String :=
  (List.lookup identifier table).getD ""

/-- A request for the name of an entry. -/
structure NameRequest where
  identifier : String
  primary : String
  fallback : String
  deriving Repr, DecidableEq

/-- Allocate a name for every request and enter it under its identifier. -/
def assign (rules : Namespace) (requests : List NameRequest) : NameTable :=
  Entries.ofPairs ((requests.map NameRequest.identifier).zip
    ((Allocator.new rules).allocateAll
      (requests.map fun request => (request.primary, request.fallback))).1)

/-! ## Resolved references -/

/-- A characteristic to which a service refers. -/
structure Reference where
  characteristic : Characteristic
  isRequired : Bool
  deriving Repr, DecidableEq

/-- What a pass over the names to which a service refers has come to. -/
structure Resolution where
  /-- The names that were met, whether they lead anywhere or not. -/
  met : List String
  references : List Reference
  findings : List Finding
  deriving Repr, DecidableEq

namespace Resolution

variable (byName : List (String × Characteristic)) (service : Service)

/-- The state in front of the first name. -/
def start : Resolution := ⟨[], [], []⟩

/-- Take up a name that was not met before. -/
def takeUp (isRequired : Bool) (resolution : Resolution) (name : String) : Resolution :=
  match byName.lookup name with
  | some characteristic =>
      { resolution with
        met := name :: resolution.met
        references := resolution.references ++ [⟨characteristic, isRequired⟩] }
  | none =>
      { resolution with
        met := name :: resolution.met
        findings := resolution.findings ++ [.unknownCharacteristic name service.name] }

/-- Take up a name, unless it was met before. -/
def visit (isRequired : Bool) (resolution : Resolution) (name : String) : Resolution :=
  if resolution.met.contains name then resolution
  else takeUp byName service isRequired resolution name

end Resolution

/-- Resolve the references of a service by a table of characteristics: first the required ones, then
the optional ones. -/
def resolve (byName : List (String × Characteristic)) (service : Service) : Resolution :=
  service.optional.foldl (Resolution.visit byName service false)
    (service.required.foldl (Resolution.visit byName service true) .start)

/-- The references of a service to the characteristics in a table by names. -/
def references (byName : List (String × Characteristic)) (service : Service) : List Reference :=
  (resolve byName service).references

/-- The findings about names that have no characteristic. -/
def unresolved (byName : List (String × Characteristic)) (service : Service) : List Finding :=
  (resolve byName service).findings

/-- The findings about all services of a catalog, in sorted order. -/
def unresolvedReferences (catalog : Catalog) : List Finding :=
  catalog.sortedServices.flatMap (unresolved catalog.characteristicsByName)

def referenceWord (isRequired : Bool) : String :=
  if isRequired then "Required" else "Optional"

end HomeCatalog.Bindings
