import HomeCatalog.Calendar.Moment
import HomeCatalog.Catalog.Basic
import HomeCatalog.CatalogFile.Quoted
import HomeCatalog.Failure

/-!
# Writing a catalog file

A catalog file is a small fixed subset of YAML: three comment lines, the last with the time of
writing, then the services and the characteristics in sorted order.

    services:
      - identifier: HMServiceTypeLightbulb
        name: Lightbulb
        swiftName: lightbulb
        documentation: "Lightbulb service."
        requiredCharacteristics:
          - PowerState

A field that is absent, false or an empty list is left out.  An entry without identifier, name
or `swiftName` cannot be written.
-/

namespace HomeCatalog.CatalogFile

/-- The first lines of a catalog file. -/
def headerLines (stamp : String) : List String :=
  [ "# HomeKit Services and Characteristics Catalog",
    "# Auto-generated from iOS SDK headers",
    "# Generated: " ++ stamp ]

/-- The first field of an entry that is empty and must not be. -/
def emptyField? (identifier name swiftName : String) : Option String :=
  if identifier.isEmpty then some "identifier"
  else if name.isEmpty then some "name"
  else if swiftName.isEmpty then some "swiftName"
  else none

/-- The lines that every entry starts with. -/
def namingLines (identifier name swiftName : String) : List String :=
  ["  - identifier: " ++ identifier, "    name: " ++ name, "    swiftName: " ++ swiftName]

def remarkLines (documentation : Option String) (deprecated : Bool) : List String :=
  (match documentation with
    | some text => ["    documentation: " ++ quote text]
    | none => []) ++
    (if deprecated then ["    deprecated: true"] else [])

def listLines (key : String) (names : List String) : List String :=
  if names.isEmpty then []
  else ("    " ++ key ++ ":") :: names.map fun name => "      - " ++ name

def serviceLines (service : Service) : List String :=
  namingLines service.identifier service.name service.swiftName ++
    remarkLines service.documentation service.deprecated ++
    listLines "requiredCharacteristics" service.required ++
    listLines "optionalCharacteristics" service.optional ++ [""]

def characteristicLines (characteristic : Characteristic) : List String :=
  namingLines characteristic.identifier characteristic.name characteristic.swiftName ++
    ["    valueType: " ++ characteristic.valueKind.token] ++
    remarkLines characteristic.documentation characteristic.deprecated ++ [""]

/-- The failure of a service with an empty field. -/
def serviceFailure? (service : Service) : Option Failure :=
  (emptyField? service.identifier service.name service.swiftName).map
    (Failure.emptyField .service service.identifier)

/-- The failure of a characteristic with an empty field. -/
def characteristicFailure? (characteristic : Characteristic) : Option Failure :=
  (emptyField? characteristic.identifier characteristic.name characteristic.swiftName).map
    (Failure.emptyField .characteristic characteristic.identifier)

/-- The failure of the first entry in the order of the file that cannot be written. -/
def failure? (catalog : Catalog) : Option Failure :=
  (catalog.sortedServices.findSome? serviceFailure?).or
    (catalog.sortedCharacteristics.findSome? characteristicFailure?)

def linesOf (stamp : String) (catalog : Catalog) : List String :=
  headerLines stamp ++ ["", "services:"] ++ catalog.sortedServices.flatMap serviceLines ++
    ["characteristics:"] ++ catalog.sortedCharacteristics.flatMap characteristicLines

/-- Lines as a text in which each ends with a line feed. -/
def unlines (lines : List String) : String :=
  String.join (lines.map fun line => line ++ "\n")

/-- The text of a catalog file with a given stamp. -/
def textOf (stamp : String) (catalog : Catalog) : Except Failure String :=
  match failure? catalog with
  | some failure => .error failure
  | none => .ok (unlines (linesOf stamp catalog))

end HomeCatalog.CatalogFile
