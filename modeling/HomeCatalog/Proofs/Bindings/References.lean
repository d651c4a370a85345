import HomeCatalog.Proofs.Bindings.Resolution
import HomeCatalog.Proofs.Catalog.Sorting
import Mathlib.Data.List.Forall2

/-!
# What references lead to

Every reference of a service leads to a characteristic of the catalog that has the name which the
service mentions.  Members of a generated service are made of its references and of names that were
allocated for them, side by side.
-/

namespace HomeCatalog.Bindings

/-- A reference leads to a characteristic of the catalog under a name that the service mentions, and
is required if the service requires that name. -/
theorem mem_of_mem_references {catalog : Catalog} {service : Service} {reference : Reference}
    (member : reference ∈ references catalog.characteristicsByName service) :
    reference.characteristic ∈ catalog.characteristics ∧
      reference.characteristic.name ∈ mentions service ∧
      reference.isRequired = service.required.contains reference.characteristic.name := by
  rw [references_eq] at member
  obtain ⟨name, mentioned, resolved⟩ := List.mem_filterMap.mp member
  obtain ⟨characteristic, found, rfl⟩ := Option.map_eq_some_iff.mp resolved
  have entry := Entries.mem_of_lookup_ofPairs found
  obtain ⟨entry, inCatalog, same⟩ := List.mem_map.mp entry
  obtain ⟨rfl, rfl⟩ := Prod.mk.inj same
  exact ⟨inCatalog, mentioned, rfl⟩

section

variable {α β γ : Type} {make : α → β → γ} {values : List α} {names : List β}

/-- What is made of values and names, side by side, corresponds to the values. -/
theorem forall₂_zipWith {fits : α → γ → Prop} (sameLength : values.length = names.length)
    (every : ∀ value ∈ values, ∀ name, fits value (make value name)) :
    List.Forall₂ fits values (List.zipWith make values names) := by
  have pairs : List.Forall₂ fits ((values.zip names).map Prod.fst)
      ((values.zip names).map (Function.uncurry make)) := by
    rw [List.forall₂_map_left_iff, List.forall₂_map_right_iff, List.forall₂_same]
    exact fun pair member => every pair.1 (List.of_mem_zip member).1 pair.2
  rwa [List.map_fst_zip (Nat.le_of_eq sameLength), List.map_uncurry_zip_eq_zipWith] at pairs

theorem forall_mem_zipWith {holds : γ → Prop} (every : ∀ value name, holds (make value name)) :
    ∀ made ∈ List.zipWith make values names, holds made := by
  rw [← List.map_uncurry_zip_eq_zipWith, List.forall_mem_map]
  exact fun pair _ => every pair.1 pair.2

/-- What depends on the values only is not touched by the names. -/
theorem map_zipWith_left {δ : Type} {f : γ → δ} {g : α → δ}
    (sameLength : values.length = names.length)
    (same : ∀ value name, f (make value name) = g value) :
    (List.zipWith make values names).map f = values.map g := by
  have pairs : ((values.zip names).map Prod.fst).map g =
      ((values.zip names).map (Function.uncurry make)).map f := by
    rw [List.map_map, List.map_map]
    exact List.map_congr_left fun pair _ => (same pair.1 pair.2).symm
  rwa [List.map_fst_zip (Nat.le_of_eq sameLength), List.map_uncurry_zip_eq_zipWith,
    eq_comm] at pairs

/-- What is made of values and names, side by side, has these names. -/
theorem map_zipWith_right {nameOf : γ → β} (sameLength : values.length = names.length)
    (named : ∀ value name, nameOf (make value name) = name) :
    (List.zipWith make values names).map nameOf = names := by
  have pairs : (values.zip names).map Prod.snd =
      ((values.zip names).map (Function.uncurry make)).map nameOf := by
    rw [List.map_map]
    exact List.map_congr_left fun pair _ => (named pair.1 pair.2).symm
  rwa [List.map_snd_zip (Nat.le_of_eq sameLength.symm), List.map_uncurry_zip_eq_zipWith,
    eq_comm] at pairs

end

/-! ## Entries that meet -/

/-- A catalog whose entries meet each other, a keyword, a digit and nothing by their names. -/
def meetingCatalog : Catalog where
  services := [
    ⟨"HMServiceTypeFan", "Fan", "fan", none, false, ["Level", "Default"], ["Level", "Lost"]⟩,
    ⟨"HMServiceTypeFanV2", "fan", "fan", none, true, [], ["-", "Level 2"]⟩]
  characteristics := [
    ⟨"HMCharacteristicTypeDash", "-", "", .data, none, false⟩,
    ⟨"HMCharacteristicTypeLives", "9 lives", "9 lives", .text, none, false⟩,
    ⟨"HMCharacteristicTypeDefault", "Default", "default", .boolean, none, true⟩,
    ⟨"HMCharacteristicTypeLevel", "Level", "level", .floating, some "Two\nlines", false⟩,
    ⟨"HMCharacteristicTypeLevelV2", "Level", "Level", .floating, none, false⟩,
    ⟨"HMCharacteristicTypeSecondLevel", "Level 2", "level2", .integer, none, false⟩]

theorem hasDistinctIdentifiers_meetingCatalog : meetingCatalog.HasDistinctIdentifiers := by
  decide

theorem sortedServices_meetingCatalog :
    meetingCatalog.sortedServices = meetingCatalog.services :=
  List.mergeSort_of_pairwise (by decide)

theorem sortedCharacteristics_meetingCatalog :
    meetingCatalog.sortedCharacteristics = meetingCatalog.characteristics :=
  List.mergeSort_of_pairwise (by decide)

end HomeCatalog.Bindings
