import HomeCatalog.Bindings.Generation
import HomeCatalog.Proofs.Bindings.Assignment
import HomeCatalog.Proofs.Bindings.TypeNames
import HomeCatalog.Proofs.Catalog.Texts

/-!
# Types of two sorts

The types of services and those of characteristics are drawn from allocators of their own, although
they are declared side by side.  Their suffixes keep them apart, unless both go without.
-/

namespace HomeCatalog.Bindings

open Identifier

/-- The name of the type of a service in a target language. -/
def serviceType (target : Target) (catalog : Catalog) (service : Service) : String :=
  match target with
  | .swift => (Swift.Names.ofCatalog catalog).serviceTypes.nameOf service.identifier
  | .typeScript => (TypeScript.Names.ofCatalog catalog).serviceInterfaces.nameOf service.identifier

/-- The name of the type of a characteristic in a target language. -/
def characteristicType (target : Target) (catalog : Catalog) (characteristic : Characteristic) :
    String :=
  match target with
  | .swift =>
      (Swift.Names.ofCatalog catalog).characteristicTypes.nameOf characteristic.identifier
  | .typeScript =>
      (TypeScript.Names.ofCatalog catalog).characteristicAliases.nameOf characteristic.identifier

/-- The type of a requested identifier has the suffix or is a last resort. -/
theorem isSuffixed_or_isLastResort_nameOf_assign {suffix : String} {requests : List NameRequest}
    {request : NameRequest} (requested : request ∈ requests) :
    IsSuffixed suffix ((assign (typeRules suffix) requests).nameOf request.identifier) ∨
      IsLastResort ((assign (typeRules suffix) requests).nameOf request.identifier) := by
  rcases isSuffixed_or_isLastResort_of_mem_allocateAll (nameOf_assign_mem_allocateAll requested) with
    isSuffixed | ⟨lastResort, _⟩
  · exact Or.inl isSuffixed
  · exact Or.inr lastResort

section

variable {catalog : Catalog} {service : Service} {characteristic : Characteristic}

theorem isSuffixed_or_isLastResort_serviceType (target : Target)
    (member : service ∈ catalog.services) :
    IsSuffixed "Service" (serviceType target catalog service) ∨
      IsLastResort (serviceType target catalog service) := by
  let request (entry : Service) : NameRequest := ⟨entry.identifier, entry.name, entry.swiftName⟩
  have requested : request service ∈ catalog.sortedServices.map request :=
    List.mem_map_of_mem (Catalog.mem_sortedServices.mpr member)
  cases target with
  | swift => exact isSuffixed_or_isLastResort_nameOf_assign requested
  | typeScript => exact isSuffixed_or_isLastResort_nameOf_assign requested

theorem isSuffixed_or_isLastResort_characteristicType (target : Target)
    (member : characteristic ∈ catalog.characteristics) :
    IsSuffixed "Characteristic" (characteristicType target catalog characteristic) ∨
      IsLastResort (characteristicType target catalog characteristic) := by
  let request (entry : Characteristic) : NameRequest :=
    ⟨entry.identifier, entry.swiftName, entry.name⟩
  have requested : request characteristic ∈ catalog.sortedCharacteristics.map request :=
    List.mem_map_of_mem (Catalog.mem_sortedCharacteristics.mpr member)
  cases target with
  | swift => exact isSuffixed_or_isLastResort_nameOf_assign requested
  | typeScript => exact isSuffixed_or_isLastResort_nameOf_assign requested

end

/-- No name has both suffixes, since they end in different letters. -/
theorem IsSuffixed.not_isSuffixed {suffix other name : String} {c d : Char}
    (ends : Bindings.lastLetter? suffix = some c) (otherEnds : Bindings.lastLetter? other = some d)
    (apart : c ≠ d) (isSuffixed : IsSuffixed suffix name) : ¬IsSuffixed other name := by
  intro isSuffixed'
  have letters := (isSuffixed.lastLetter? ends).symm.trans (isSuffixed'.lastLetter? otherEnds)
  exact apart (Option.some.inj letters)

/-- In either language, whatever identifiers repeat in a catalog: the type of a service ends in its
suffix and at most one number from two on, or is a last resort, and so is the type of a
characteristic with its own suffix.  A name that both sorts have is a last resort. -/
theorem types_meet_in_last_resorts (target : Target) (catalog : Catalog) :
    (∀ service ∈ catalog.services,
      IsSuffixed "Service" (serviceType target catalog service) ∨
        IsLastResort (serviceType target catalog service)) ∧
    (∀ characteristic ∈ catalog.characteristics,
      IsSuffixed "Characteristic" (characteristicType target catalog characteristic) ∨
        IsLastResort (characteristicType target catalog characteristic)) ∧
    ∀ service ∈ catalog.services, ∀ characteristic ∈ catalog.characteristics,
      serviceType target catalog service = characteristicType target catalog characteristic →
        IsLastResort (serviceType target catalog service) := by
  refine ⟨fun service member => isSuffixed_or_isLastResort_serviceType target member,
    fun characteristic member => isSuffixed_or_isLastResort_characteristicType target member, ?_⟩
  intro service member characteristic member' same
  rcases isSuffixed_or_isLastResort_serviceType target member with isSuffixed | lastResort
  · rcases isSuffixed_or_isLastResort_characteristicType target member' with
      isSuffixed' | lastResort
    · rw [← same] at isSuffixed'
      exact absurd isSuffixed'
        (isSuffixed.not_isSuffixed (c := 'e') (d := 'c') (by decide) (by decide) (by decide))
    · rwa [same]
  · exact lastResort

/-- A catalog in which nothing is left of some names. -/
def namelessCatalog : Catalog where
  services := [
    ⟨"HMServiceTypeDash", "-", "?", none, false, [], []⟩,
    ⟨"HMServiceTypeLives", "9 lives", "nineLives", none, false, [], []⟩,
    ⟨"HMServiceTypeBare", "Service", "service", none, false, [], []⟩]
  characteristics := [
    ⟨"HMCharacteristicTypePlus", "+", "!", .text, none, false⟩,
    ⟨"HMCharacteristicTypeBare", "Characteristic", "", .text, none, false⟩]

/-- The second of two nameless services and the second of two nameless characteristics have one
type. -/
theorem namelessCatalog_types :
    ∃ service ∈ namelessCatalog.services, ∃ characteristic ∈ namelessCatalog.characteristics,
      ∀ target, serviceType target namelessCatalog service = "_2" ∧
        characteristicType target namelessCatalog characteristic = "_2" ∧ IsLastResort "_2" := by
  have services : namelessCatalog.sortedServices = namelessCatalog.services :=
    List.mergeSort_of_pairwise (by decide)
  have characteristics : namelessCatalog.sortedCharacteristics = namelessCatalog.characteristics :=
    List.mergeSort_of_pairwise (by decide)
  refine ⟨⟨"HMServiceTypeBare", "Service", "service", none, false, [], []⟩, by decide,
    ⟨"HMCharacteristicTypeBare", "Characteristic", "", .text, none, false⟩, by decide, ?_⟩
  intro target
  have left : serviceType target namelessCatalog
      ⟨"HMServiceTypeBare", "Service", "service", none, false, [], []⟩ = "_2" := by
    simp only [serviceType, Swift.Names.ofCatalog, TypeScript.Names.ofCatalog, services]
    cases target <;> decide +kernel
  have right : characteristicType target namelessCatalog
      ⟨"HMCharacteristicTypeBare", "Characteristic", "", .text, none, false⟩ = "_2" := by
    simp only [characteristicType, Swift.Names.ofCatalog, TypeScript.Names.ofCatalog,
      characteristics]
    cases target <;> decide +kernel
  obtain ⟨_, _, shared⟩ := types_meet_in_last_resorts target namelessCatalog
  exact ⟨left, right, left ▸ shared _ (by decide) _ (by decide) (left.trans right.symm)⟩

end HomeCatalog.Bindings
