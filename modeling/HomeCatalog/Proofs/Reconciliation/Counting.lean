import HomeCatalog.Proofs.Reconciliation.Staging

/-!
# How many services are given references

The summary of a reconciliation counts the services that get references before it gives them: the
names that have some staged, or the services that the specification knows.  Staged references reach
one service of their name only, the last.  So where no service had references, the count is the
number of services that have some afterwards.
-/

namespace HomeCatalog.Reconciliation

open Metadata

variable {catalog : Catalog} {metadata : Relationships}

/-- Whether a service has a required or an optional reference. -/
def hasOwnReferences (service : Service) : Bool :=
  hasReferences (service.required, service.optional)

theorem hasOwnReferences_of_isBare {service : Service} (bare : service.IsBare) :
    hasOwnReferences service = false := by
  simp [hasOwnReferences, hasReferences, bare.required, bare.optional]

theorem hasOwnReferences_applySpecified {service : Service} (bare : service.IsBare) :
    hasOwnReferences (applySpecified service) = isSpecified service := by
  rw [applySpecified, isSpecified]
  cases specified? service.name with
  | none => exact hasOwnReferences_of_isBare bare
  | some references => rfl

theorem hasOwnReferences_applyStaged (staged : List (String × List String × List String))
    {service : Service} (bare : service.IsBare) :
    hasOwnReferences (applyStaged staged service) =
      (staged.lookup service.name).any hasReferences := by
  rw [applyStaged]
  cases staged.lookup service.name with
  | none => exact hasOwnReferences_of_isBare bare
  | some references => rfl

/-- As many names have references staged as last services of their names get some. -/
theorem statedServices_eq_countP :
    statedServices catalog metadata =
      (catalog.services.map Service.name).dedup.countP fun name =>
        ((stagedReferences catalog metadata.services).lookup name).any hasReferences := by
  have distinct := nodup_keys_stagedReferences catalog metadata.services
  have byName : statedServices catalog metadata =
      ((stagedReferences catalog metadata.services).map Prod.fst).countP fun name =>
        ((stagedReferences catalog metadata.services).lookup name).any hasReferences := by
    rw [statedServices, List.countP_map]
    apply List.countP_congr
    intro entry staged
    simp [lookup_stagedReferences_eq_some_iff.mpr staged]
  rw [byName, List.countP_eq_length_filter, List.countP_eq_length_filter]
  -- Both lists have every name once, so they are as long as each other if they have the same names.
  apply List.Perm.length_eq
  rw [List.perm_ext_iff_of_nodup (distinct.filter _) ((List.nodup_dedup _).filter _)]
  intro name
  rw [List.mem_filter, List.mem_filter, List.mem_dedup]
  apply and_congr_left
  intro refers
  constructor
  · exact mem_names_of_mem_stagedReferences
  · intro _
    cases found : (stagedReferences catalog metadata.services).lookup name with
    | none => simp [found] at refers
    | some references =>
        exact List.mem_map_of_mem (lookup_stagedReferences_eq_some_iff.mp found)

/-- Reconciling a catalog as headers declare it counts the services that have references
afterwards. -/
theorem appliedServices_reconcile {metadata : Option Relationships}
    (bare : ∀ service ∈ catalog.services, service.IsBare) :
    (reconcile catalog metadata).summary.appliedServices =
      (reconcile catalog metadata).catalog.services.countP fun service =>
        service.required ≠ [] ∨ service.optional ≠ [] := by
  have counts : (fun service : Service =>
      decide (service.required ≠ [] ∨ service.optional ≠ [])) = hasOwnReferences := by
    funext service
    rw [Bool.eq_iff_iff, decide_eq_true_eq, hasOwnReferences, hasReferences_iff]
  have specified : catalog.services.countP isSpecified =
      (catalog.services.map applySpecified).countP hasOwnReferences := by
    rw [List.countP_map]
    apply List.countP_congr
    intro service member
    rw [Function.comp_apply, hasOwnReferences_applySpecified (bare service member)]
  rw [counts]
  cases metadata with
  | none => exact specified
  | some metadata =>
      rw [reconcile, summary_reconcileWith, services_reconcileWith]
      by_cases stated : statedServices catalog metadata = 0
      · simp only [if_pos stated]
        exact specified
      · simp only [if_neg stated]
        refine statedServices_eq_countP.trans (countP_mapLast ?_ ?_).symm
        · exact fun service member => hasOwnReferences_of_isBare (bare service member)
        · exact fun service member => hasOwnReferences_applyStaged _ (bare service member)

/-- A catalog with two services of one name, and none that has references. -/
def bareTwinCatalog : Catalog :=
  { twinCatalog with services := twinCatalog.services.map Service.heading }

/-- Metadata that states references of one service twice, and of another that is not in the
catalog. -/
def overridingMetadata : Relationships where
  services := [
    ⟨"Fan", .ofString "Old fan", ["Volume"], []⟩,
    ⟨"Lamp", .ofString "Lamp", ["Power State"], []⟩,
    ⟨"Fan", .ofString "Fan", ["Power State"], ["Speed"]⟩]
  formats := []
  aliases := []

/-- One of the two services gets the references that are stated last. -/
theorem appliedServices_bareTwinCatalog :
    (∀ service ∈ bareTwinCatalog.services, service.IsBare) ∧
    ((reconcile bareTwinCatalog (some overridingMetadata)).summary.appliedServices =
      (reconcile bareTwinCatalog (some overridingMetadata)).catalog.services.countP
        fun service => service.required ≠ [] ∨ service.optional ≠ []) ∧
    (reconcile bareTwinCatalog (some overridingMetadata)).catalog.services.map Service.required =
      [[], ["Power State"]] := by
  have bare : ∀ service ∈ bareTwinCatalog.services, service.IsBare :=
    List.forall_mem_map.mpr fun _ _ => ⟨rfl, rfl⟩
  exact ⟨bare, appliedServices_reconcile bare, by decide +kernel⟩

end HomeCatalog.Reconciliation
