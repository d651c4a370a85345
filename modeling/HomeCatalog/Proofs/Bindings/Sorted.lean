import HomeCatalog.Bindings.Generation
import HomeCatalog.Proofs.Bindings.Resolution
import HomeCatalog.Proofs.Catalog.Sorting

/-!
# What of a catalog shows in its bindings

What is generated depends on the sorted entries and on which characteristic a name leads to, and on
nothing else of the catalog.  So a catalog may be sorted first, as long as no two characteristics of
one name differ in their identifiers.
-/

namespace HomeCatalog

/-- Whether two catalogs have the same entries in sorted order, and names lead to the same
characteristics in both. -/
structure Catalog.LooksLike (left right : Catalog) : Prop where
  services : left.sortedServices = right.sortedServices
  characteristics : left.sortedCharacteristics = right.sortedCharacteristics
  byName : ∀ name,
    left.characteristicsByName.lookup name = right.characteristicsByName.lookup name

/-- Where identifiers follow names, a sorted catalog looks like the catalog. -/
theorem Catalog.looksLike_sorted {catalog : Catalog} (follow : catalog.IdentifiersFollowNames) :
    catalog.sorted.LooksLike catalog where
  services := catalog.sortedServices_sorted
  characteristics := catalog.sortedCharacteristics_sorted
  byName := lookup_characteristicsByName_sorted follow

end HomeCatalog

namespace HomeCatalog.Bindings

section

variable {left right : List (String × Characteristic)}

/-- References depend only on what the table answers. -/
theorem references_congr (same : ∀ name, left.lookup name = right.lookup name)
    (service : Service) : references left service = references right service := by
  simp only [references_eq, referencesUnder, same]

theorem unresolved_congr (same : ∀ name, left.lookup name = right.lookup name)
    (service : Service) : unresolved left service = unresolved right service := by
  simp only [unresolved_eq, unknownAmong, same]

end

section

variable {left right : Catalog} (alike : left.LooksLike right)

include alike

theorem unresolvedReferences_congr : unresolvedReferences left = unresolvedReferences right := by
  rw [unresolvedReferences, unresolvedReferences, alike.services]
  exact congrArg (List.flatMap · right.sortedServices) (funext (unresolved_congr alike.byName))

theorem Swift.names_congr : Names.ofCatalog left = Names.ofCatalog right := by
  simp only [Names.ofCatalog, alike.services, alike.characteristics]

theorem Swift.tree_congr (stamp : String) : tree stamp left = tree stamp right := by
  have files : ∀ service, serviceFile (Names.ofCatalog right) left.characteristicsByName service =
      serviceFile (Names.ofCatalog right) right.characteristicsByName service := by
    intro service
    rw [serviceFile, serviceFile, references_congr alike.byName]
  simp only [tree, sources, names_congr alike, serviceConstants, characteristicConstants, files,
    alike.services, alike.characteristics]

theorem TypeScript.names_congr : Names.ofCatalog left = Names.ofCatalog right := by
  simp only [Names.ofCatalog, alike.services, alike.characteristics]

theorem TypeScript.tree_congr (stamp : String) : tree stamp left = tree stamp right := by
  have files : ∀ service, interfaceFile (Names.ofCatalog right) left.characteristicsByName
      service = interfaceFile (Names.ofCatalog right) right.characteristicsByName service := by
    intro service
    rw [interfaceFile, interfaceFile, references_congr alike.byName]
  simp only [tree, sources, names_congr alike, serviceEnum, characteristicEnum, indexFile, files,
    alike.services, alike.characteristics]

/-- Catalogs that look alike lead to the same files and the same findings. -/
theorem render_congr (target : Target) (moment : Calendar.Moment) :
    render target moment left = render target moment right := by
  have sameFiles : ∀ stamp, files target stamp left = files target stamp right := by
    intro stamp
    cases target with
    | swift => exact Swift.tree_congr alike stamp
    | typeScript => exact TypeScript.tree_congr alike stamp
  simp only [render, sameFiles, unresolvedReferences_congr alike]

end

/-- Sorting a catalog first changes neither the generated files nor the findings. -/
theorem render_sorted {catalog : Catalog} (follow : catalog.IdentifiersFollowNames)
    (target : Target) (moment : Calendar.Moment) :
    render target moment catalog.sorted = render target moment catalog :=
  render_congr (Catalog.looksLike_sorted follow) target moment

end HomeCatalog.Bindings
