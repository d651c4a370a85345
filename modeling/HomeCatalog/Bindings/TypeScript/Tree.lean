import HomeCatalog.Bindings.Basic
import HomeCatalog.Bindings.TypeScript.Names
import HomeCatalog.Bindings.TypeScript.Source

/-!
# The TypeScript tree of a catalog

    serviceTypes.ts
    characteristicTypes.ts
    characteristics/<Name>Characteristic.ts
    services/<Name>Service.ts
    index.ts
-/

namespace HomeCatalog.Bindings.TypeScript

open Identifier

def serviceEnum (catalog : Catalog) (names : Names) : EnumFile where
  enumName := "ServiceTypes"
  label := "Service"
  plainLabel := "service"
  members := catalog.sortedServices.map fun entry => {
    key := names.serviceKeys.nameOf entry.identifier
    identifier := entry.identifier
    comment := commentText entry.documentation ("Service type: " ++ entry.name)
    deprecated := entry.deprecated }

def characteristicEnum (catalog : Catalog) (names : Names) : EnumFile where
  enumName := "CharacteristicTypes"
  label := "Characteristic"
  plainLabel := "characteristic"
  members := catalog.sortedCharacteristics.map fun entry => {
    key := names.characteristicKeys.nameOf entry.identifier
    identifier := entry.identifier
    comment := commentText entry.documentation ("Characteristic type: " ++ entry.name)
    deprecated := entry.deprecated }

def aliasFile (names : Names) (entry : Characteristic) : AliasFile where
  name := names.characteristicAliases.nameOf entry.identifier
  valueType := valueType entry.valueKind
  comment := commentText entry.documentation
    ("Type-safe characteristic for " ++ entry.name)
  deprecated := entry.deprecated

/-- The property of a reference, under a given name. -/
def propertyOf (names : Names) (reference : Reference) (name : String) : Property where
  name
  typeName := names.characteristicAliases.nameOf reference.characteristic.identifier
  isRequired := reference.isRequired
  comment := referenceWord reference.isRequired ++ " characteristic: " ++
    reference.characteristic.name
  deprecated := reference.characteristic.deprecated

def properties (names : Names) (references : List Reference) : List Property :=
  let requests := references.map fun reference =>
    (reference.characteristic.swiftName, reference.characteristic.name)
  List.zipWith (propertyOf names) references
    ((Allocator.new propertyRules).allocateAll requests).1

/-- The characteristic types of references, each once and sorted. -/
def importsOf (names : Names) (references : List Reference) : List String :=
  sortNames (references.map fun reference =>
    names.characteristicAliases.nameOf reference.characteristic.identifier).eraseDups

def interfaceFile (names : Names) (byName : List (String × Characteristic)) (entry : Service) :
    InterfaceFile :=
  let references := references byName entry
  { name := names.serviceInterfaces.nameOf entry.identifier
    identifier := entry.identifier
    comment := commentText entry.documentation ("Service interface for " ++ entry.name)
    deprecated := entry.deprecated
    imports := importsOf names references
    properties := properties names references }

def indexFile (catalog : Catalog) (names : Names) : IndexFile where
  aliases := catalog.sortedCharacteristics.map fun entry =>
    names.characteristicAliases.nameOf entry.identifier
  interfaces := catalog.sortedServices.map fun entry =>
    names.serviceInterfaces.nameOf entry.identifier

/-- The files of a catalog in the order in which they are made, with their paths. -/
def sources (catalog : Catalog) : List (String × Source) :=
  let names := Names.ofCatalog catalog
  [ ("serviceTypes.ts", .members (serviceEnum catalog names)),
    ("characteristicTypes.ts", .members (characteristicEnum catalog names)) ] ++
  (catalog.sortedCharacteristics.map fun entry =>
    ("characteristics/" ++ names.characteristicAliases.nameOf entry.identifier ++ ".ts",
      .characteristic (aliasFile names entry))) ++
  (catalog.sortedServices.map fun entry =>
    ("services/" ++ names.serviceInterfaces.nameOf entry.identifier ++ ".ts",
      .service (interfaceFile names catalog.characteristicsByName entry))) ++
  [("index.ts", .index (indexFile catalog names))]

/-- The texts of the files of a catalog.  Of two files with one path the later counts. -/
def tree (stamp : String) (catalog : Catalog) : List (String × String) :=
  Entries.ofPairs ((sources catalog).map fun entry => (entry.1, entry.2.text stamp))

end HomeCatalog.Bindings.TypeScript
