import HomeCatalog.Proofs.Reconciliation.LastEntries
import HomeCatalog.Proofs.Reconciliation.Strategies

/-!
# What a reconciliation is decided by

Which references metadata gives to a catalog depends on the names in the catalog only.  No
reconciliation changes a name, so the decision between metadata and specification is the same before
and after one, and before and after the format hints are taken.
-/

namespace HomeCatalog.Reconciliation

open Metadata

/-! ## Only names decide -/

/-- Whether two catalogs have the same names in the same order. -/
structure HasSameNames (left right : Catalog) : Prop where
  services : left.services.map Service.name = right.services.map Service.name
  characteristics : left.characteristicNames = right.characteristicNames

theorem hasSameNames_applyFormats (formats : List (String × Text.Wide)) (catalog : Catalog) :
    HasSameNames (applyFormats formats catalog) catalog :=
  ⟨rfl, characteristicNames_applyFormats formats catalog⟩

/-- Reconciling changes no name. -/
theorem hasSameNames_reconcile (catalog : Catalog) (metadata : Option Relationships) :
    HasSameNames (reconcile catalog metadata).catalog catalog := by
  constructor
  · apply map_eq_of_forall₂ _ (forall₂_services_reconcile catalog metadata)
    intro before after step
    exact (Service.mk.inj step.heading_eq).2.1
  · exact characteristicNames_reconcile catalog metadata

theorem isMatched_iff {catalog : Catalog} {relationship : Relationship} :
    isMatched catalog relationship = true ↔
      relationship.serviceName ∈ catalog.services.map Service.name :=
  any_name_iff

namespace HasSameNames

variable {left right : Catalog} (same : HasSameNames left right)

include same

theorem isMatched_eq : isMatched left = isMatched right := by
  funext relationship
  rw [Bool.eq_iff_iff, isMatched_iff, isMatched_iff, same.services]

theorem referencesOf_eq : referencesOf left = referencesOf right := by
  funext relationship
  simp only [referencesOf, same.characteristics]

theorem stagedReferences_eq (relationships : List Relationship) :
    stagedReferences left relationships = stagedReferences right relationships := by
  rw [stagedReferences, stagedReferences, same.isMatched_eq, same.referencesOf_eq]

theorem unmatchedDescriptions_eq (relationships : List Relationship) :
    unmatchedDescriptions left relationships = unmatchedDescriptions right relationships := by
  rw [unmatchedDescriptions, unmatchedDescriptions, same.isMatched_eq]

theorem missingNames_eq (relationships : List Relationship) :
    missingNames left relationships = missingNames right relationships := by
  rw [missingNames, missingNames, same.isMatched_eq, same.characteristics]

theorem unmatchedHints_eq (formats : List (String × Text.Wide)) :
    unmatchedHints formats left = unmatchedHints formats right := by
  rw [unmatchedHints, unmatchedHints, same.characteristics]

end HasSameNames

/-! ## The two strategies -/

variable (catalog : Catalog) (metadata : Relationships)

/-- The number of services for which metadata states a reference. -/
def statedServices : Nat :=
  (stagedReferences catalog metadata.services).countP fun entry => hasReferences entry.2

theorem HasSameNames.statedServices_eq {left right : Catalog} (same : HasSameNames left right) :
    statedServices left metadata = statedServices right metadata := by
  rw [statedServices, statedServices, same.stagedReferences_eq]

/-- The summary of a reconciliation in which metadata gives the references. -/
def statedSummary : Summary where
  strategy := .metadata
  appliedServices := statedServices catalog metadata
  unmatchedServices := unmatchedDescriptions catalog metadata.services
  missingCharacteristics := missingNames catalog metadata.services
  upgradedValueKinds := changedKinds catalog (applyFormats metadata.formats catalog)
  unmatchedFormatHints := unmatchedHints metadata.formats catalog

variable {catalog metadata}

/-- Where metadata states no reference, the specification gives them, and all else in the summary is
as if metadata did. -/
theorem reconcileWith_of_unstated (unstated : statedServices catalog metadata = 0) :
    ∃ findings, reconcileWith catalog metadata =
      reconcileSpecified (applyFormats metadata.formats catalog) (statedSummary catalog metadata)
        findings := by
  -- References are looked up in the catalog that has taken the hints; the names are the same.
  have same := hasSameNames_applyFormats metadata.formats catalog
  rw [statedServices] at unstated
  simp only [reconcileWith, same.stagedReferences_eq, same.unmatchedDescriptions_eq,
    same.missingNames_eq, if_pos unstated]
  exact ⟨_, rfl⟩

theorem reconcileWith_of_stated (stated : statedServices catalog metadata ≠ 0) :
    ∃ findings, reconcileWith catalog metadata = {
      catalog := {
        services := mapLast Service.name
          (applyStaged (stagedReferences catalog metadata.services)) catalog.services
        characteristics := (applyFormats metadata.formats catalog).characteristics }
      summary := statedSummary catalog metadata
      findings := findings } := by
  have same := hasSameNames_applyFormats metadata.formats catalog
  rw [statedServices] at stated
  simp only [reconcileWith, same.stagedReferences_eq, same.unmatchedDescriptions_eq,
    same.missingNames_eq, if_neg stated]
  exact ⟨_, rfl⟩

variable (catalog metadata)

theorem services_reconcileWith :
    (reconcileWith catalog metadata).catalog.services =
      if statedServices catalog metadata = 0 then catalog.services.map applySpecified
      else mapLast Service.name (applyStaged (stagedReferences catalog metadata.services))
        catalog.services := by
  by_cases stated : statedServices catalog metadata = 0
  · obtain ⟨findings, outcome⟩ := reconcileWith_of_unstated stated
    rw [outcome, if_pos stated]
    rfl
  · obtain ⟨findings, outcome⟩ := reconcileWith_of_stated stated
    rw [outcome, if_neg stated]

theorem characteristics_reconcileWith :
    (reconcileWith catalog metadata).catalog.characteristics =
      (applyFormats metadata.formats catalog).characteristics := by
  by_cases stated : statedServices catalog metadata = 0
  · obtain ⟨findings, outcome⟩ := reconcileWith_of_unstated stated
    rw [outcome]
    rfl
  · obtain ⟨findings, outcome⟩ := reconcileWith_of_stated stated
    rw [outcome]

theorem summary_reconcileWith :
    (reconcileWith catalog metadata).summary = { statedSummary catalog metadata with
      strategy := if statedServices catalog metadata = 0 then .specification else .metadata
      appliedServices :=
        if statedServices catalog metadata = 0 then catalog.services.countP isSpecified
        else statedServices catalog metadata } := by
  by_cases stated : statedServices catalog metadata = 0
  · obtain ⟨findings, outcome⟩ := reconcileWith_of_unstated stated
    rw [outcome, if_pos stated, if_pos stated]
    rfl
  · obtain ⟨findings, outcome⟩ := reconcileWith_of_stated stated
    rw [outcome, if_neg stated, if_neg stated]
    rfl

/-- What is reported about the hints, and then about the references. -/
theorem findings_reconcileWith :
    (reconcileWith catalog metadata).findings =
      formatFindings (changedKinds catalog (applyFormats metadata.formats catalog))
          (unmatchedHints metadata.formats catalog) ++
        if statedServices catalog metadata = 0 then
          [.noRelationships, .fallbackApplied (catalog.services.countP isSpecified)]
        else metadataFindings (statedSummary catalog metadata) := by
  have same := hasSameNames_applyFormats metadata.formats catalog
  rw [statedSummary, statedServices]
  simp only [reconcileWith, same.stagedReferences_eq, same.unmatchedDescriptions_eq,
    same.missingNames_eq]
  split
  · exact List.append_assoc _ _ _
  · rfl

/-- Metadata gives the references exactly if it states one. -/
theorem strategy_reconcileWith_iff :
    (reconcileWith catalog metadata).summary.strategy = .metadata ↔
      statedServices catalog metadata ≠ 0 := by
  rw [summary_reconcileWith]
  by_cases stated : statedServices catalog metadata = 0 <;> simp [stated]

end HomeCatalog.Reconciliation
