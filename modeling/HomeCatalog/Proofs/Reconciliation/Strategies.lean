import HomeCatalog.Proofs.Bindings.Resolution
import HomeCatalog.Proofs.Catalog.Sorting
import HomeCatalog.Proofs.Reconciliation.Preservation

/-!
# References under either strategy

References from metadata are the names of characteristics of the catalog.  References from the
specification are what its table says, whether the catalog has such characteristics or not.  So the
references that lead nowhere are known beforehand.
-/

namespace HomeCatalog

/-- Whether the references of a service are names of some characteristics. -/
def Service.RefersTo (names : List String) (service : Service) : Prop :=
  ∀ name ∈ service.required ++ service.optional, name ∈ names

/-- Whether a service has no references, as a header declares it. -/
structure Service.IsBare (service : Service) : Prop where
  required : service.required = []
  optional : service.optional = []

/-- Whether every reference of a catalog leads to a characteristic. -/
def Catalog.IsResolved (catalog : Catalog) : Prop :=
  ∀ service ∈ catalog.services, service.RefersTo catalog.characteristicNames

theorem Service.IsBare.refersTo {service : Service} (bare : service.IsBare)
    (names : List String) : service.RefersTo names := by
  intro name member
  rw [bare.required, bare.optional] at member
  cases member

/-- A catalog whose references all lead somewhere has none that dangle. -/
theorem Catalog.IsResolved.danglingReferences_eq_nil {catalog : Catalog}
    (resolved : catalog.IsResolved) : catalog.danglingReferences = [] := by
  have complete : (catalog.services.filter fun service =>
      !(catalog.missingReferences service).isEmpty) = [] := by
    rw [List.filter_eq_nil_iff]
    intro service member
    have missing : catalog.missingReferences service = [] := by
      rw [missingReferences, List.filter_eq_nil_iff]
      intro name mentioned
      simpa using resolved service member name mentioned
    simp [missing]
  rw [danglingReferences, complete]
  rfl

end HomeCatalog

namespace HomeCatalog.Bindings

/-- Where every reference leads somewhere, there is nothing to report. -/
theorem unresolvedReferences_eq_nil {catalog : Catalog} (resolved : catalog.IsResolved) :
    unresolvedReferences catalog = [] := by
  rw [unresolvedReferences, List.flatMap_eq_nil_iff]
  intro service sorted
  rw [unresolved_eq, unknownAmong, List.map_eq_nil_iff, List.filter_eq_nil_iff]
  intro name mentioned
  have known := resolved service (Catalog.mem_sortedServices.mp sorted) name
    (mem_mentions.mp mentioned)
  rw [Catalog.isNone_lookup_characteristicsByName]
  simpa using known

end HomeCatalog.Bindings

namespace HomeCatalog.Reconciliation

open Metadata

variable (catalog : Catalog) (metadata : Option Relationships)

/-- Reconciling a catalog gives its services what metadata stages for them, or what the
specification says. -/
theorem reconcile_cases :
    ((reconcile catalog metadata).summary.strategy = .metadata ∧
      ∃ relationships, metadata = some relationships ∧
        (reconcile catalog metadata).catalog.services =
          mapLast Service.name
            (applyStaged (stagedReferences (applyFormats relationships.formats catalog)
              relationships.services)) catalog.services) ∨
    ((reconcile catalog metadata).summary.strategy = .specification ∧
      (reconcile catalog metadata).catalog.services = catalog.services.map applySpecified) := by
  cases metadata with
  | none => exact Or.inr ⟨rfl, rfl⟩
  | some relationships =>
      rw [reconcile, reconcileWith]
      split
      · exact Or.inr ⟨rfl, rfl⟩
      · exact Or.inl ⟨rfl, relationships, rfl, rfl⟩

theorem characteristicNames_reconcile :
    (reconcile catalog metadata).catalog.characteristicNames = catalog.characteristicNames := by
  have keeps : ∀ before after, CharacteristicStep metadata before after →
      after.name = before.name :=
    fun _ _ step => (Characteristic.mk.inj step.1).2.1
  exact map_eq_of_forall₂ keeps (forall₂_characteristics_reconcile catalog metadata)

/-! ## Metadata -/

variable {catalog metadata}

/-- What is staged for a service leads somewhere. -/
theorem refersTo_applyStaged {names : List String} (relationships : List Relationship)
    (known : catalog.characteristicNames = names) {service : Service}
    (refers : service.RefersTo names) :
    (applyStaged (stagedReferences catalog relationships) service).RefersTo names := by
  rw [applyStaged]
  split
  · next references staged =>
      obtain ⟨relationship, _, pair⟩ := List.mem_map.mp (Entries.mem_of_lookup_ofPairs staged)
      rw [Prod.mk.injEq] at pair
      intro name member
      rw [← pair.2] at member
      rw [← known]
      exact mem_characteristicNames_of_mem_referencesOf member
  · exact refers

/-- Where metadata gives the references, all of them lead somewhere if those of the catalog did. -/
theorem isResolved_reconcile (resolved : catalog.IsResolved)
    (stated : (reconcile catalog metadata).summary.strategy = .metadata) :
    (reconcile catalog metadata).catalog.IsResolved := by
  rw [Catalog.IsResolved, characteristicNames_reconcile]
  rcases reconcile_cases catalog metadata with ⟨_, relationships, _, services⟩ | ⟨specified, _⟩
  · rw [services]
    -- A service keeps its references or gets staged ones, and either lead somewhere.
    have steps : List.Forall₂
        (fun before after => before.RefersTo catalog.characteristicNames →
          after.RefersTo catalog.characteristicNames)
        catalog.services
        (mapLast Service.name
          (applyStaged (stagedReferences (applyFormats relationships.formats catalog)
            relationships.services)) catalog.services) := by
      apply forall₂_mapLast
      · exact fun _ refers => refers
      · exact fun _ refers =>
          refersTo_applyStaged _ (characteristicNames_applyFormats _ catalog) refers
    exact forall_of_forall₂ (fun _ _ step => step) steps resolved
  · rw [stated] at specified
    cases specified

/-! ## The specification -/

/-- The findings about the references that the specification gives a service and that are none of
some names: required ones first, in the order of its table. -/
def missingSpecified (names : List String) (service : Service) : List Finding :=
  match specified? service.name with
  | none => []
  | some (required, optional) =>
      ((required ++ optional).filter fun name => !names.contains name).map fun name =>
        .unknownCharacteristic name service.name

@[simp] theorem name_applySpecified (service : Service) :
    (applySpecified service).name = service.name := by
  rw [applySpecified]
  split <;> rfl

/-- The table names nothing twice for a service. -/
theorem nodup_of_specified? {name : String} {references : List String × List String}
    (found : specified? name = some references) : (references.1 ++ references.2).Nodup := by
  have distinct := (@MayRefer.specified .empty _ _ found).distinct
  rw [List.nodup_append']
  exact ⟨distinct.required_nodup, distinct.optional_nodup,
    fun name isRequired isOptional => distinct.disjoint name isRequired isOptional⟩

/-- What a service lacks after it got the references of the specification. -/
theorem unresolved_applySpecified (catalog : Catalog) {service : Service} (bare : service.IsBare) :
    Bindings.unresolved catalog.characteristicsByName (applySpecified service) =
      missingSpecified catalog.characteristicNames service := by
  rw [missingSpecified, applySpecified]
  cases found : specified? service.name with
  | none =>
      simp [Bindings.unresolved_eq, Bindings.unknownAmong, Bindings.mentions, bare.required,
        bare.optional]
  | some references =>
      have mentioned : Bindings.mentions (setReferences service references) =
          references.1 ++ references.2 :=
        eraseDups_of_nodup (nodup_of_specified? found)
      simp only [Bindings.unresolved_eq, Bindings.unknownAmong, mentioned,
        Catalog.isNone_lookup_characteristicsByName]
      rfl

/-- Where the specification gives the references, those that lead nowhere are the ones in its table
that no characteristic is named by. -/
theorem unresolvedReferences_reconcile (bare : ∀ service ∈ catalog.services, service.IsBare)
    (specified : (reconcile catalog metadata).summary.strategy = .specification) :
    Bindings.unresolvedReferences (reconcile catalog metadata).catalog =
      (reconcile catalog metadata).catalog.sortedServices.flatMap
        (missingSpecified catalog.characteristicNames) := by
  rcases reconcile_cases catalog metadata with ⟨stated, _⟩ | ⟨_, services⟩
  · rw [specified] at stated
    cases stated
  · have names := characteristicNames_reconcile catalog metadata
    rw [Bindings.unresolvedReferences]
    apply List.flatMap_congr
    intro service sorted
    have member := Catalog.mem_sortedServices.mp sorted
    rw [services] at member
    obtain ⟨before, inCatalog, rfl⟩ := List.mem_map.mp member
    rw [unresolved_applySpecified _ (bare before inCatalog), names]
    simp only [missingSpecified, name_applySpecified]

end HomeCatalog.Reconciliation
