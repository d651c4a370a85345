import HomeCatalog.Bindings.Basic
import HomeCatalog.Catalog.Basic

/-!
# Names in Swift sources

Every entry has a constant in the namespace of its sort and a type of its own.  Names are
allocated in sorted order.  The accessors of a service are a namespace for themselves.
-/

namespace HomeCatalog.Bindings.Swift

open Identifier

/-- The words that are no identifiers in Swift, and those that had better not be. -/
def keywords : List String :=
  [ "associatedtype", "class", "deinit", "enum", "extension", "fileprivate", "func",
    "import", "init", "inout", "internal", "let", "operator", "private", "protocol",
    "public", "static", "struct", "subscript", "typealias", "var", "break", "case",
    "continue", "default", "defer", "do", "else", "fallthrough", "for", "guard", "if",
    "in", "repeat", "return", "switch", "where", "while", "as", "any", "catch", "false",
    "is", "nil", "rethrows", "super", "self", "throw", "throws", "true", "try", "_",
    "associativity", "convenience", "dynamic", "didset", "final", "get", "infix",
    "indirect", "lazy", "left", "mutating", "none", "nonmutating", "optional",
    "override", "postfix", "precedence", "prefix", "Protocol", "required", "right",
    "set", "some", "type", "unowned", "weak", "willset" ]

/-- The names that no constant may have: keywords, and members of the constants' namespaces. -/
def reservedConstants : List String :=
  keywords ++ ["serviceType", "characteristicType"]

/-- The names that no accessor may have: keywords, and members of the service class. -/
def reservedProperties : List String :=
  keywords ++
    [ "serviceType", "name", "accessory", "isPrimaryService", "isUserInteractive",
      "uniqueIdentifier", "allCharacteristics", "characteristic", "description", "hashValue" ]

def serviceConstantRules : Namespace :=
  ⟨reservedConstants, "Service", lowerCamel⟩

def characteristicConstantRules : Namespace :=
  ⟨reservedConstants, "Characteristic", lowerCamel⟩

/-- The namespace of the accessors of one service. -/
def propertyRules : Namespace :=
  ⟨reservedProperties, "Characteristic", lowerCamel⟩

def serviceTypeRules : Namespace :=
  .ofNormalize fun raw => typeName raw "Service"

def characteristicTypeRules : Namespace :=
  .ofNormalize fun raw => typeName raw "Characteristic"

/-- The names of all entries of a catalog. -/
structure Names where
  serviceConstants : NameTable
  characteristicConstants : NameTable
  serviceTypes : NameTable
  characteristicTypes : NameTable
  deriving Repr, DecidableEq

/-- Allocate the names of all entries of a catalog. -/
def Names.ofCatalog (catalog : Catalog) : Names :=
  let services := catalog.sortedServices
  let characteristics := catalog.sortedCharacteristics
  { serviceConstants := assign serviceConstantRules
      (services.map fun entry => ⟨entry.identifier, entry.swiftName, entry.name⟩)
    characteristicConstants := assign characteristicConstantRules
      (characteristics.map fun entry => ⟨entry.identifier, entry.swiftName, entry.name⟩)
    serviceTypes := assign serviceTypeRules
      (services.map fun entry => ⟨entry.identifier, entry.name, entry.swiftName⟩)
    characteristicTypes := assign characteristicTypeRules
      (characteristics.map fun entry => ⟨entry.identifier, entry.swiftName, entry.name⟩) }

end HomeCatalog.Bindings.Swift
