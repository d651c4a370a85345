import HomeCatalog.Proofs.Bindings.Paths
import HomeCatalog.Proofs.Catalog.Sorting

/-!
# The names of a catalog in Swift

Where no two entries of a sort have one identifier, the constants of that sort are told apart, and
so are its types, of which each can name a file.
-/

namespace HomeCatalog.Bindings.Swift

open Identifier

/-- Whether names tell the entries of a catalog apart. -/
structure Names.AreDistinct (names : Names) (catalog : Catalog) : Prop where
  serviceConstants : AreNamed serviceConstantRules catalog.sortedServices
    fun entry => names.serviceConstants.nameOf entry.identifier
  characteristicConstants : AreNamed characteristicConstantRules catalog.sortedCharacteristics
    fun entry => names.characteristicConstants.nameOf entry.identifier
  serviceTypes : AreNamed serviceTypeRules catalog.sortedServices
    fun entry => names.serviceTypes.nameOf entry.identifier
  characteristicTypes : AreNamed characteristicTypeRules catalog.sortedCharacteristics
    fun entry => names.characteristicTypes.nameOf entry.identifier
  serviceStems : ∀ entry ∈ catalog.sortedServices,
    IsStem (names.serviceTypes.nameOf entry.identifier)
  characteristicStems : ∀ entry ∈ catalog.sortedCharacteristics,
    IsStem (names.characteristicTypes.nameOf entry.identifier)

/-- The names that are allocated for a catalog with distinct identifiers tell its entries apart. -/
theorem Names.areDistinct_ofCatalog {catalog : Catalog}
    (distinct : catalog.HasDistinctIdentifiers) :
    (Names.ofCatalog catalog).AreDistinct catalog where
  serviceConstants :=
    areNamed_assign isSound_serviceConstantRules
      (fun entry : Service => ⟨entry.identifier, entry.swiftName, entry.name⟩)
      distinct.nodup_sortedServices
  characteristicConstants :=
    areNamed_assign isSound_characteristicConstantRules
      (fun entry : Characteristic => ⟨entry.identifier, entry.swiftName, entry.name⟩)
      distinct.nodup_sortedCharacteristics
  serviceTypes :=
    areNamed_assign (isSound_ofNormalize _)
      (fun entry : Service => ⟨entry.identifier, entry.name, entry.swiftName⟩)
      distinct.nodup_sortedServices
  characteristicTypes :=
    areNamed_assign (isSound_ofNormalize _)
      (fun entry : Characteristic => ⟨entry.identifier, entry.swiftName, entry.name⟩)
      distinct.nodup_sortedCharacteristics
  serviceStems :=
    isStem_nameOf_assign (by decide)
      (fun entry : Service => ⟨entry.identifier, entry.name, entry.swiftName⟩)
      distinct.nodup_sortedServices
  characteristicStems :=
    isStem_nameOf_assign (by decide)
      (fun entry : Characteristic => ⟨entry.identifier, entry.swiftName, entry.name⟩)
      distinct.nodup_sortedCharacteristics

end HomeCatalog.Bindings.Swift
