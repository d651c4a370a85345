import HomeCatalog.Entries
import HomeCatalog.Text.Basic

/-!
# The catalog of services and characteristics

A catalog lists the service types and the characteristic types of a home automation
framework.  A service refers to characteristics by their display names.  Display names may
repeat and references may dangle: everything here is total on such catalogs.
-/

namespace HomeCatalog

/-- The primitive category of a characteristic's value. -/
inductive ValueKind where
  | boolean
  | integer
  | floating
  | text
  | data
  deriving Repr, DecidableEq

namespace ValueKind

/-- The token of a kind in the catalog file. -/
def token : ValueKind → String
  | boolean => "Bool"
  | integer => "Int"
  | floating => "Double"
  | text => "String"
  | data => "Data"

/-- The kinds by their lower-case tokens. -/
def tokens : List (String × ValueKind) :=
  [("bool", boolean), ("int", integer), ("double", floating), ("float", floating),
    ("data", data), ("string", text)]

/-- Read a token in any letter case and with white space around it.  An unknown token stands
for text. -/
def ofToken (token : String) : ValueKind :=
  (tokens.lookup (String.ofList (Text.lower (Text.strip token.toList)))).getD text

/-- Every kind is read back from its token. -/
theorem ofToken_token (kind : ValueKind) : ofToken kind.token = kind := by
  cases kind <;> decide

end ValueKind

/-- A service type. -/
structure Service where
  /-- The name of the framework constant. -/
  identifier : String
  /-- The display name. -/
  name : String
  /-- The name from which identifiers in generated sources are made. -/
  swiftName : String
  documentation : Option String
  deprecated : Bool
  /-- The display names of the characteristics that every such service has. -/
  required : List String
  /-- The display names of the characteristics that such a service may have. -/
  optional : List String
  deriving Repr, DecidableEq

/-- A characteristic type. -/
structure Characteristic where
  /-- The name of the framework constant. -/
  identifier : String
  /-- The display name. -/
  name : String
  /-- The name from which identifiers in generated sources are made. -/
  swiftName : String
  valueKind : ValueKind
  documentation : Option String
  deprecated : Bool
  deriving Repr, DecidableEq

/-- All services and characteristics, in order of declaration. -/
structure Catalog where
  services : List Service
  characteristics : List Characteristic
  deriving Repr, DecidableEq

/-- Whether one `(name, identifier)` pair stands before or with another in sorted order. -/
def namesInOrder (left right : String × String) : Bool :=
  if left.1 = right.1 then decide (left.2 ≤ right.2) else decide (left.1 < right.1)

/-- Sort names by code points. -/
def sortNames (names : List String) : List String :=
  names.mergeSort fun left right => decide (left ≤ right)

/-- The key by which services are sorted. -/
def Service.sortKey (service : Service) : String × String :=
  (service.name, service.identifier)

def Characteristic.sortKey (characteristic : Characteristic) : String × String :=
  (characteristic.name, characteristic.identifier)

namespace Catalog

/-- The catalog without entries. -/
def empty : Catalog := ⟨[], []⟩

def characteristicNames (catalog : Catalog) : List String :=
  catalog.characteristics.map Characteristic.name

/-- The characteristics by display name, in order of first appearance.  Of several with one
name the last counts. -/
def characteristicsByName (catalog : Catalog) : List (String × Characteristic) :=
  Entries.ofPairs (catalog.characteristics.map fun entry => (entry.name, entry))

/-- The first service of a name. -/
def service? (catalog : Catalog) (name : String) : Option Service :=
  catalog.services.find? fun entry => entry.name == name

/-- The first characteristic of a name. -/
def characteristic? (catalog : Catalog) (name : String) : Option Characteristic :=
  catalog.characteristics.find? fun entry => entry.name == name

/-- The services by display name, then by identifier. -/
def sortedServices (catalog : Catalog) : List Service :=
  catalog.services.mergeSort fun left right => namesInOrder left.sortKey right.sortKey

/-- The characteristics by display name, then by identifier. -/
def sortedCharacteristics (catalog : Catalog) : List Characteristic :=
  catalog.characteristics.mergeSort fun left right => namesInOrder left.sortKey right.sortKey

/-- The references of a service that name no characteristic, with repeats. -/
def missingReferences (catalog : Catalog) (service : Service) : List String :=
  (service.required ++ service.optional).filter fun name =>
    !catalog.characteristicNames.contains name

/-- The missing references of every service that has some, by service name.  Of several
services with one name the last that has some counts. -/
def danglingReferences (catalog : Catalog) : List (String × List String) :=
  Entries.ofPairs ((catalog.services.filter fun service =>
      !(catalog.missingReferences service).isEmpty).map fun service =>
    (service.name, catalog.missingReferences service))

end Catalog

end HomeCatalog
