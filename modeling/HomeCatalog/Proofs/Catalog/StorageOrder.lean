import HomeCatalog.CatalogFile.Storage
import HomeCatalog.Proofs.Bindings.Sorted

/-!
# The order in which a catalog is stored

Everything that is made of a catalog takes its entries in sorted order.  Where no two entries of a
sort have both the display name and the identifier in common, there is only one such order, so the
order in which the entries are stored does not show: not in the catalog file, and where names lead
to one characteristic each, not in the bindings either.
-/

namespace HomeCatalog

namespace Catalog

variable {left right : Catalog}

/-- Whether two catalogs hold the same entries, in whatever order. -/
structure IsRearranged (left right : Catalog) : Prop where
  services : left.services.Perm right.services
  characteristics : left.characteristics.Perm right.characteristics

/-- Whether no two services and no two characteristics have both their names and their identifiers
in common. -/
structure HasDistinctKeys (catalog : Catalog) : Prop where
  services : (catalog.services.map Service.sortKey).Nodup
  characteristics : (catalog.characteristics.map Characteristic.sortKey).Nodup

theorem IsRearranged.sortedServices (rearranged : left.IsRearranged right)
    (distinct : left.HasDistinctKeys) : left.sortedServices = right.sortedServices :=
  mergeSort_namesInOrder_eq_of_perm rearranged.services distinct.services

theorem IsRearranged.sortedCharacteristics (rearranged : left.IsRearranged right)
    (distinct : left.HasDistinctKeys) :
    left.sortedCharacteristics = right.sortedCharacteristics :=
  mergeSort_namesInOrder_eq_of_perm rearranged.characteristics distinct.characteristics

/-- Where display names are distinct, each leads to its characteristic in whatever order. -/
theorem IsRearranged.looksLike (rearranged : left.IsRearranged right)
    (distinct : left.HasDistinctKeys)
    (named : (left.characteristics.map Characteristic.name).Nodup) : left.LooksLike right where
  services := rearranged.sortedServices distinct
  characteristics := rearranged.sortedCharacteristics distinct
  byName := by
    apply Entries.AreConsistent.lookup_ofPairs_eq_of_perm
    · apply Entries.areConsistent_of_nodup
      rwa [List.map_map]
    · exact rearranged.characteristics.map _

end Catalog

/-! ## Files and bindings -/

/-- A catalog file shows the entries in sorted order only. -/
theorem CatalogFile.write_congr {left right : Catalog}
    (services : left.sortedServices = right.sortedServices)
    (characteristics : left.sortedCharacteristics = right.sortedCharacteristics)
    (moment : Calendar.Moment) : write moment left = write moment right := by
  simp only [write, textOf, failure?, linesOf, services, characteristics]

/-- Two catalogs that hold the same entries in different order are written to the same text, or
fail with the same problem, if no two entries have name and identifier in common.  If moreover no
two characteristics have one display name, the same files are rendered from both in either language,
with the same findings in the same order. -/
theorem write_render_eq_of_isRearranged {left right : Catalog}
    (rearranged : left.IsRearranged right) (distinct : left.HasDistinctKeys) :
    (∀ moment, CatalogFile.write moment left = CatalogFile.write moment right) ∧
    ((left.characteristics.map Characteristic.name).Nodup → ∀ target moment,
      Bindings.render target moment left = Bindings.render target moment right) := by
  constructor
  · intro moment
    exact CatalogFile.write_congr (rearranged.sortedServices distinct)
      (rearranged.sortedCharacteristics distinct) moment
  · intro named target moment
    exact Bindings.render_congr (rearranged.looksLike distinct named) target moment

/-- A catalog in which entries of different names have one identifier. -/
def sharingCatalog : Catalog where
  services := [
    ⟨"HMServiceTypeFan", "Lamp", "lamp", none, false, ["Speed", "Lost"], []⟩,
    ⟨"HMServiceTypeFan", "Fan", "fan", some "A fan.", false, ["Power"], ["Speed", "Power"]⟩]
  characteristics := [
    ⟨"HMCharacteristicTypeSpeed", "Speed", "speed", .floating, none, false⟩,
    ⟨"HMCharacteristicTypeSpeed", "Power", "power", .boolean, none, true⟩]

/-- The same catalog, stored the other way round. -/
def reversedCatalog : Catalog :=
  ⟨sharingCatalog.services.reverse, sharingCatalog.characteristics.reverse⟩

/-- Neither the text nor the bindings of it show which way round it is stored. -/
theorem write_render_reversedCatalog :
    sharingCatalog.IsRearranged reversedCatalog ∧ sharingCatalog.HasDistinctKeys ∧
      sharingCatalog ≠ reversedCatalog ∧
      (∀ moment, CatalogFile.write moment sharingCatalog =
        CatalogFile.write moment reversedCatalog) ∧
      ∀ target moment, Bindings.render target moment sharingCatalog =
        Bindings.render target moment reversedCatalog := by
  have rearranged : sharingCatalog.IsRearranged reversedCatalog :=
    ⟨(List.reverse_perm _).symm, (List.reverse_perm _).symm⟩
  have distinct : sharingCatalog.HasDistinctKeys := ⟨by decide, by decide⟩
  obtain ⟨written, rendered⟩ := write_render_eq_of_isRearranged rearranged distinct
  exact ⟨rearranged, distinct, by decide, written, rendered (by decide)⟩

end HomeCatalog
