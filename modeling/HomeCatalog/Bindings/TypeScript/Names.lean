import HomeCatalog.Bindings.Basic
import HomeCatalog.Catalog.Basic

/-!
# Names in TypeScript sources

Every entry has a member in the enum of its sort and a type of its own.  Names are allocated in
sorted order.  The properties of a service interface are a namespace for themselves.
-/

namespace HomeCatalog.Bindings.TypeScript

open Identifier

/-- The members of every service interface. -/
def reservedProperties : List String :=
  ["id", "type", "name", "isPrimary", "characteristics"]

/-- The namespace of the members of an enum. -/
def keyRules : Namespace :=
  .ofNormalize screamingSnake

/-- The namespace of the properties of one service. -/
def propertyRules : Namespace :=
  ⟨reservedProperties, "Characteristic", lowerCamel⟩

/-- The namespace of service interfaces. -/
def interfaceRules : Namespace :=
  .ofNormalize fun raw => typeName raw "Service"

/-- The namespace of characteristic types. -/
def aliasRules : Namespace :=
  .ofNormalize fun raw => typeName raw "Characteristic"

/-- The names of all entries of a catalog. -/
structure Names where
  serviceKeys : NameTable
  characteristicKeys : NameTable
  serviceInterfaces : NameTable
  characteristicAliases : NameTable
  deriving Repr, DecidableEq

/-- Allocate the names of all entries of a catalog. -/
def Names.ofCatalog (catalog : Catalog) : Names :=
  let services := catalog.sortedServices
  let characteristics := catalog.sortedCharacteristics
  { serviceKeys := assign keyRules
      (services.map fun entry => ⟨entry.identifier, entry.swiftName, entry.name⟩)
    characteristicKeys := assign keyRules
      (characteristics.map fun entry => ⟨entry.identifier, entry.swiftName, entry.name⟩)
    serviceInterfaces := assign interfaceRules
      (services.map fun entry => ⟨entry.identifier, entry.name, entry.swiftName⟩)
    characteristicAliases := assign aliasRules
      (characteristics.map fun entry => ⟨entry.identifier, entry.swiftName, entry.name⟩) }

end HomeCatalog.Bindings.TypeScript
