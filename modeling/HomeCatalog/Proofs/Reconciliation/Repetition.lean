import HomeCatalog.Proofs.Reconciliation.Hints

/-!
# Reconciling again

A catalog that was reconciled is not changed by the same reconciliation again.  Names decide, and
no name changed; the references and kinds that are given are the ones that are there.
-/

namespace HomeCatalog.Reconciliation

open Metadata

theorem applySpecified_applySpecified (service : Service) :
    applySpecified (applySpecified service) = applySpecified service := by
  rw [applySpecified_eq]
  apply giveFound_giveFound
  · intro _ _
    rfl
  · intro _ _
    rfl

theorem applyStaged_applyStaged (staged : List (String × List String × List String))
    (service : Service) :
    applyStaged staged (applyStaged staged service) = applyStaged staged service := by
  rw [applyStaged_eq]
  apply giveFound_giveFound
  · intro _ _
    rfl
  · intro _ _
    rfl

theorem applyHint_applyHint (formats : List (String × Text.Wide)) (entry : Characteristic) :
    applyHint formats (applyHint formats entry) = applyHint formats entry := by
  rw [applyHint_eq]
  apply giveFound_giveFound
  · intro _ _
    rfl
  · intro _ _
    rfl

/-- What the specification gives goes by names. -/
theorem isSpecified_comp_applySpecified : isSpecified ∘ applySpecified = isSpecified := by
  funext service
  simp [isSpecified]

theorem map_applySpecified_again (services : List Service) :
    (services.map applySpecified).map applySpecified = services.map applySpecified := by
  rw [List.map_map]
  exact List.map_congr_left fun service _ => applySpecified_applySpecified service

variable {catalog other : Catalog} {metadata : Relationships}

/-- Format hints change nothing where they were taken. -/
theorem applyFormats_again {formats : List (String × Text.Wide)}
    (taken : other.characteristics = (applyFormats formats catalog).characteristics) :
    applyFormats formats other = other := by
  have settled : (applyFormats formats other).characteristics = other.characteristics := by
    rw [applyFormats, taken]
    exact mapLast_again (name_applyHint formats) (applyHint_applyHint formats) _
  exact congrArg (Catalog.mk other.services) settled

/-- The second time metadata states the same, and no kind changes. -/
theorem statedSummary_again (same : HasSameNames other catalog)
    (settled : applyFormats metadata.formats other = other) :
    statedSummary other metadata = { statedSummary catalog metadata with
      upgradedValueKinds := 0 } := by
  have unchanged : changedKinds other other = 0 := differingKinds_self other.characteristics
  simp only [statedSummary, same.statedServices_eq, same.unmatchedDescriptions_eq,
    same.missingNames_eq, same.unmatchedHints_eq, settled, unchanged]

variable (catalog) (metadata : Option Relationships)

/-- A catalog is settled once it was reconciled. -/
theorem catalog_reconcile_again :
    (reconcile (reconcile catalog metadata).catalog metadata).catalog =
      (reconcile catalog metadata).catalog := by
  have same := hasSameNames_reconcile catalog metadata
  cases metadata with
  | none =>
      exact congrArg (Catalog.mk · catalog.characteristics)
        (map_applySpecified_again catalog.services)
  | some metadata =>
      -- The second reconciliation sees the names of the first and takes the same branch.
      rw [reconcile] at same
      rw [reconcile, reconcile]
      have services := services_reconcileWith catalog metadata
      have kept :
          (reconcileWith (reconcileWith catalog metadata).catalog metadata).catalog.services =
            (reconcileWith catalog metadata).catalog.services := by
        rw [services_reconcileWith, same.statedServices_eq, same.stagedReferences_eq, services]
        split
        · exact map_applySpecified_again _
        · exact mapLast_again (name_applyStaged _) (applyStaged_applyStaged _) _
      have typed := characteristics_reconcileWith (reconcileWith catalog metadata).catalog metadata
      rw [applyFormats_again (characteristics_reconcileWith catalog metadata)] at typed
      exact congrArg₂ Catalog.mk kept typed

/-- The second time a reconciliation says the same, except that it changes no kind. -/
theorem summary_reconcile_again :
    (reconcile (reconcile catalog metadata).catalog metadata).summary =
      { (reconcile catalog metadata).summary with upgradedValueKinds := 0 } := by
  have same := hasSameNames_reconcile catalog metadata
  cases metadata with
  | none => simp [reconcile, reconcileSpecified, Summary.initial, isSpecified_comp_applySpecified]
  | some metadata =>
      rw [reconcile] at same
      rw [reconcile, reconcile, summary_reconcileWith, summary_reconcileWith,
        same.statedServices_eq, services_reconcileWith,
        statedSummary_again same
          (applyFormats_again (characteristics_reconcileWith catalog metadata))]
      by_cases stated : statedServices catalog metadata = 0
      · simp [stated, isSpecified_comp_applySpecified]
      · simp [stated]

/-- A second reconciliation leaves a catalog as the first one left it, and says the same except that
it changes no kind. -/
theorem reconcile_reconcile :
    (reconcile (reconcile catalog metadata).catalog metadata).catalog =
      (reconcile catalog metadata).catalog ∧
    (reconcile (reconcile catalog metadata).catalog metadata).summary =
      { (reconcile catalog metadata).summary with upgradedValueKinds := 0 } :=
  ⟨catalog_reconcile_again catalog metadata, summary_reconcile_again catalog metadata⟩

/-- However often a catalog is reconciled with the same metadata, only the first time matters. -/
theorem reconcileAll_replicate (count : Nat) :
    reconcileAll catalog (List.replicate (count + 1) metadata) =
      (reconcile catalog metadata).catalog := by
  induction count with
  | zero => rfl
  | succ count ih =>
      rw [reconcileAll] at ih
      rw [List.replicate_succ', reconcileAll, List.foldl_append, ih]
      exact catalog_reconcile_again catalog metadata

end HomeCatalog.Reconciliation
