import HomeCatalog.Proofs.Bindings.Paths
import HomeCatalog.Proofs.Catalog.Sorting

/-!
# The names of a catalog in TypeScript

Where no two entries of a sort have one identifier, the enum members of that sort are told apart,
and so are its types, of which each can name a file.
-/

namespace HomeCatalog.Bindings.TypeScript

open Identifier

/-- Whether names tell the entries of a catalog apart. -/
structure Names.AreDistinct (names : Names) (catalog : Catalog) : Prop where
  serviceKeys : AreNamed keyRules catalog.sortedServices
    fun entry => names.serviceKeys.nameOf entry.identifier
  characteristicKeys : AreNamed keyRules catalog.sortedCharacteristics
    fun entry => names.characteristicKeys.nameOf entry.identifier
  serviceInterfaces : AreNamed interfaceRules catalog.sortedServices
    fun entry => names.serviceInterfaces.nameOf entry.identifier
  characteristicAliases : AreNamed aliasRules catalog.sortedCharacteristics
    fun entry => names.characteristicAliases.nameOf entry.identifier
  serviceStems : ∀ entry ∈ catalog.sortedServices,
    IsStem (names.serviceInterfaces.nameOf entry.identifier)
  characteristicStems : ∀ entry ∈ catalog.sortedCharacteristics,
    IsStem (names.characteristicAliases.nameOf entry.identifier)

/-- The names that are allocated for a catalog with distinct identifiers tell its entries apart. -/
theorem Names.areDistinct_ofCatalog {catalog : Catalog}
    (distinct : catalog.HasDistinctIdentifiers) :
    (Names.ofCatalog catalog).AreDistinct catalog where
  serviceKeys :=
    areNamed_assign (isSound_ofNormalize _)
      (fun entry : Service => ⟨entry.identifier, entry.swiftName, entry.name⟩)
      distinct.nodup_sortedServices
  characteristicKeys :=
    areNamed_assign (isSound_ofNormalize _)
      (fun entry : Characteristic => ⟨entry.identifier, entry.swiftName, entry.name⟩)
      distinct.nodup_sortedCharacteristics
  serviceInterfaces :=
    areNamed_assign (isSound_ofNormalize _)
      (fun entry : Service => ⟨entry.identifier, entry.name, entry.swiftName⟩)
      distinct.nodup_sortedServices
  characteristicAliases :=
    areNamed_assign (isSound_ofNormalize _)
      (fun entry : Characteristic => ⟨entry.identifier, entry.swiftName, entry.name⟩)
      distinct.nodup_sortedCharacteristics
  serviceStems :=
    isStem_nameOf_assign (by decide)
      (fun entry : Service => ⟨entry.identifier, entry.name, entry.swiftName⟩)
      distinct.nodup_sortedServices
  characteristicStems :=
    isStem_nameOf_assign (by decide)
      (fun entry : Characteristic => ⟨entry.identifier, entry.swiftName, entry.name⟩)
      distinct.nodup_sortedCharacteristics

end HomeCatalog.Bindings.TypeScript
