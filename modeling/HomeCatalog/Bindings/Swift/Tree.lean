import HomeCatalog.Bindings.Basic
import HomeCatalog.Bindings.Swift.Names
import HomeCatalog.Bindings.Swift.Source

/-!
# The Swift tree of a catalog

    ServiceType+Generated.swift
    CharacteristicType+Generated.swift
    Characteristics/<Name>Characteristic.swift
    Services/<Name>Service.swift
-/

namespace HomeCatalog.Bindings.Swift

open Identifier

def serviceConstants (catalog : Catalog) (names : Names) : ConstantsFile where
  extended := "ServiceType"
  constants := catalog.sortedServices.map fun entry => {
    name := names.serviceConstants.nameOf entry.identifier
    identifier := entry.identifier
    comment := commentText entry.documentation
      ("Service type identifier for " ++ entry.name ++ ".") }

def characteristicConstants (catalog : Catalog) (names : Names) : ConstantsFile where
  extended := "CharacteristicType"
  constants := catalog.sortedCharacteristics.map fun entry => {
    name := names.characteristicConstants.nameOf entry.identifier
    identifier := entry.identifier
    comment := commentText entry.documentation
      ("Characteristic type identifier for " ++ entry.name ++ ".") }

def wrapperFile (names : Names) (entry : Characteristic) : WrapperFile where
  wrapperType := names.characteristicTypes.nameOf entry.identifier
  valueType := valueType entry.valueKind
  constant := names.characteristicConstants.nameOf entry.identifier
  comment := commentText entry.documentation
    ("Strongly-typed wrapper for " ++ entry.name ++ " characteristic.")
  deprecated := entry.deprecated

/-- The accessor of a reference, under a given name. -/
def accessorOf (names : Names) (reference : Reference) (name : String) : Accessor where
  name
  wrapperType := names.characteristicTypes.nameOf reference.characteristic.identifier
  constant := names.characteristicConstants.nameOf reference.characteristic.identifier
  comment := commentText reference.characteristic.documentation
    (referenceWord reference.isRequired ++ " characteristic: " ++
      reference.characteristic.name ++ ".")

def accessors (names : Names) (references : List Reference) : List Accessor :=
  let requests := references.map fun reference =>
    (reference.characteristic.swiftName, reference.characteristic.name)
  List.zipWith (accessorOf names) references
    ((Allocator.new propertyRules).allocateAll requests).1

def constantsOf (names : Names) (isRequired : Bool) (references : List Reference) :
    List String :=
  (references.filter fun reference => reference.isRequired == isRequired).map fun reference =>
    names.characteristicConstants.nameOf reference.characteristic.identifier

def serviceFile (names : Names) (byName : List (String × Characteristic)) (entry : Service) :
    ServiceFile :=
  let references := references byName entry
  { serviceType := names.serviceTypes.nameOf entry.identifier
    constant := names.serviceConstants.nameOf entry.identifier
    comment := commentText entry.documentation
      ("Generated wrapper for the " ++ entry.name ++ " service.")
    deprecated := entry.deprecated
    required := constantsOf names true references
    optional := constantsOf names false references
    accessors := accessors names references }

/-- The files of a catalog in the order in which they are made, with their paths. -/
def sources (catalog : Catalog) : List (String × Source) :=
  let names := Names.ofCatalog catalog
  [ ("ServiceType+Generated.swift", .constants (serviceConstants catalog names)),
    ("CharacteristicType+Generated.swift", .constants (characteristicConstants catalog names)) ] ++
  (catalog.sortedCharacteristics.map fun entry =>
    ("Characteristics/" ++ names.characteristicTypes.nameOf entry.identifier ++ ".swift",
      .wrapper (wrapperFile names entry))) ++
  catalog.sortedServices.map fun entry =>
    ("Services/" ++ names.serviceTypes.nameOf entry.identifier ++ ".swift",
      .service (serviceFile names catalog.characteristicsByName entry))

/-- The texts of the files of a catalog.  Of two files with one path the later counts. -/
def tree (stamp : String) (catalog : Catalog) : List (String × String) :=
  Entries.ofPairs ((sources catalog).map fun entry => (entry.1, entry.2.text stamp))

end HomeCatalog.Bindings.Swift
