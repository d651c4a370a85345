import HomeCatalog.Catalog.Basic

/-!
# The texts of a catalog

What a catalog file has to keep: the names of the entries, the references of the services, and the
documentation texts.
-/

namespace HomeCatalog

/-- The names under which a service is known. -/
def Service.names (service : Service) : List String :=
  [service.identifier, service.name, service.swiftName]

/-- The names under which a characteristic is known. -/
def Characteristic.names (characteristic : Characteristic) : List String :=
  [characteristic.identifier, characteristic.name, characteristic.swiftName]

/-- The display names of characteristics to which a service refers. -/
def Service.references (service : Service) : List String :=
  service.required ++ service.optional

namespace Catalog

/-- The names of all entries. -/
def names (catalog : Catalog) : List String :=
  catalog.services.flatMap Service.names ++
    catalog.characteristics.flatMap Characteristic.names

/-- The references of all services. -/
def references (catalog : Catalog) : List String :=
  catalog.services.flatMap Service.references

/-- The documentation texts of all entries that have one. -/
def documentations (catalog : Catalog) : List String :=
  catalog.services.filterMap Service.documentation ++
    catalog.characteristics.filterMap Characteristic.documentation

/-- The same catalog in sorted order. -/
def sorted (catalog : Catalog) : Catalog :=
  ⟨catalog.sortedServices, catalog.sortedCharacteristics⟩

variable {catalog : Catalog}

theorem forall_mem_names {holds : String → Prop} :
    (∀ name ∈ catalog.names, holds name) ↔
      (∀ service ∈ catalog.services, ∀ name ∈ service.names, holds name) ∧
        ∀ characteristic ∈ catalog.characteristics,
          ∀ name ∈ characteristic.names, holds name := by
  simp only [names, List.forall_mem_append, List.forall_mem_flatMap]

theorem forall_mem_references {holds : String → Prop} :
    (∀ name ∈ catalog.references, holds name) ↔
      ∀ service ∈ catalog.services, ∀ name ∈ service.references, holds name := by
  simp only [references, List.forall_mem_flatMap]

@[simp] theorem mem_sortedServices {service : Service} :
    service ∈ catalog.sortedServices ↔ service ∈ catalog.services :=
  List.mem_mergeSort

@[simp] theorem mem_sortedCharacteristics {characteristic : Characteristic} :
    characteristic ∈ catalog.sortedCharacteristics ↔
      characteristic ∈ catalog.characteristics :=
  List.mem_mergeSort

end Catalog

end HomeCatalog
