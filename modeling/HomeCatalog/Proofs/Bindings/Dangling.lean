import HomeCatalog.Bindings.Generation
import HomeCatalog.Proofs.Bindings.Resolution
import HomeCatalog.Proofs.Catalog.Sorting

/-!
# References that dangle

A catalog can tell which of its references lead nowhere, and so can the bindings that are made from
it.  The catalog goes through its services as they are declared and keeps repeats; the bindings go
through the sorted services and notice every name once.  Both find the same references.
-/

namespace HomeCatalog

variable {catalog : Catalog}

/-- Whether a service has references that lead nowhere. -/
def Catalog.hasMissing (catalog : Catalog) (service : Service) : Bool :=
  !(catalog.missingReferences service).isEmpty

/-- The missing references of a service, under its name. -/
def Catalog.danglingEntry (catalog : Catalog) (service : Service) : String × List String :=
  (service.name, catalog.missingReferences service)

namespace Bindings

/-- What a pass notices about a service are its missing references, each once. -/
theorem unresolved_eq_missingReferences (catalog : Catalog) (service : Service) :
    unresolved catalog.characteristicsByName service =
      (catalog.missingReferences service).eraseDups.map fun name =>
        .unknownCharacteristic name service.name := by
  rw [unresolved_eq, unknownAmong, Catalog.missingReferences, eraseDups_filter, mentions]
  simp only [Catalog.isNone_lookup_characteristicsByName]

theorem unresolvedReferences_eq (catalog : Catalog) :
    unresolvedReferences catalog =
      ((catalog.sortedServices.filter catalog.hasMissing).map catalog.danglingEntry).flatMap
        fun entry => entry.2.eraseDups.map fun name => .unknownCharacteristic name entry.1 := by
  rw [unresolvedReferences, List.flatMap_map]
  induction catalog.sortedServices with
  | nil => rfl
  | cons service rest ih =>
      rw [List.flatMap_cons, ih, unresolved_eq_missingReferences]
      by_cases missing : catalog.hasMissing service = true
      · rw [List.filter_cons_of_pos missing, List.flatMap_cons]
        rfl
      · have none : catalog.missingReferences service = [] := by
          simpa [Catalog.hasMissing] using missing
        rw [List.filter_cons_of_neg missing, none]
        rfl

end Bindings

section

variable (distinct : (catalog.services.map Service.name).Nodup)

include distinct

/-- Where no two services have one name, each has an entry of its own. -/
theorem Catalog.danglingReferences_eq :
    catalog.danglingReferences =
      (catalog.services.filter catalog.hasMissing).map catalog.danglingEntry := by
  refine Entries.ofPairs_of_nodup ?_
  have kept : ((catalog.services.filter catalog.hasMissing).map Service.name).Sublist
      (catalog.services.map Service.name) := List.filter_sublist.map _
  rw [List.map_map]
  exact kept.nodup distinct

/-- The entries in the order of their names are those of the sorted services. -/
theorem Catalog.mergeSort_danglingReferences :
    (catalog.danglingReferences.mergeSort fun left right => decide (left.1 ≤ right.1)) =
      (catalog.sortedServices.filter catalog.hasMissing).map catalog.danglingEntry := by
  have keys : (catalog.danglingReferences.map Prod.fst).Nodup := Entries.nodup_keys_ofPairs _
  have perm : (catalog.danglingReferences.mergeSort fun left right =>
      decide (left.1 ≤ right.1)).Perm
        ((catalog.sortedServices.filter catalog.hasMissing).map catalog.danglingEntry) := by
    refine (List.mergeSort_perm _ _).trans ?_
    rw [catalog.danglingReferences_eq distinct]
    exact ((List.mergeSort_perm _ _).symm.filter _).map _
  have sorted : (catalog.danglingReferences.mergeSort fun left right =>
      decide (left.1 ≤ right.1)).Pairwise fun left right => decide (left.1 ≤ right.1) = true := by
    apply List.pairwise_mergeSort
    · intro first second third before after
      rw [decide_eq_true_eq] at before after ⊢
      exact String.le_trans before after
    · intro left right
      simpa using String.le_total left.1 right.1
  have sortedServices : ((catalog.sortedServices.filter catalog.hasMissing).map
      catalog.danglingEntry).Pairwise fun left right => decide (left.1 ≤ right.1) = true := by
    have ordered := pairwise_mergeSort_namesInOrder Service.sortKey catalog.services
    rw [List.pairwise_map]
    refine (ordered.sublist List.filter_sublist).imp fun inOrder => ?_
    rw [decide_eq_true_eq]
    rcases namesInOrder_iff.mp inOrder with less | ⟨same, _⟩
    · exact Std.le_of_lt less
    · exact Std.le_of_eq same
  refine List.Perm.eq_of_pairwise ?_ sorted sortedServices perm
  intro left right inLeft inRight before after
  have inTable := List.mem_mergeSort.mp (perm.mem_iff.mpr inRight)
  refine List.inj_on_of_nodup_map keys (List.mem_mergeSort.mp inLeft) inTable ?_
  exact String.le_antisymm (of_decide_eq_true before) (of_decide_eq_true after)

end

namespace Bindings

/-- The references of a service lead to the last characteristics of the names that it mentions, in
the order in which these occur first, and the other names are noticed in that order.  Rendering a
catalog whose services have different names notices exactly what dangles in it: service by service
in sorted order, and each name once. -/
theorem render_reports_danglingReferences (catalog : Catalog)
    (distinct : (catalog.services.map Service.name).Nodup) :
    (∀ service : Service,
      references catalog.characteristicsByName service =
          ((service.required ++ service.optional).eraseDups.filterMap fun name =>
            (catalog.characteristics.filter fun entry => name == entry.name).getLast?.map
              fun characteristic => ⟨characteristic, service.required.contains name⟩) ∧
        unresolved catalog.characteristicsByName service =
          ((service.required ++ service.optional).eraseDups.filter fun name =>
            !catalog.characteristicNames.contains name).map fun name =>
              .unknownCharacteristic name service.name) ∧
    ∀ target (moment : Calendar.Moment), match render target moment catalog with
      | .error problem => problem = .timeOutOfRange ∧ moment.stamp? = none
      | .ok rendering => rendering.findings =
          (catalog.danglingReferences.mergeSort fun left right =>
            decide (left.1 ≤ right.1)).flatMap fun entry =>
              entry.2.eraseDups.map fun name => .unknownCharacteristic name entry.1 := by
  constructor
  · intro service
    constructor
    · rw [references_eq, referencesUnder, mentions]
      simp only [Catalog.lookup_characteristicsByName]
    · rw [unresolved_eq, unknownAmong, mentions]
      simp only [Catalog.isNone_lookup_characteristicsByName]
  · intro target moment
    rw [Catalog.mergeSort_danglingReferences distinct, render]
    cases moment.stamp? with
    | none => exact ⟨rfl, rfl⟩
    | some stamp => exact unresolvedReferences_eq catalog

/-- Two fans and a lamp, with references that repeat, within and across their lists. -/
def frayedCatalog : Catalog where
  services := [
    ⟨"HMServiceTypeLamp", "Lamp", "lamp", none, false, ["Lost"], []⟩,
    ⟨"HMServiceTypeFan", "Fan", "fan", none, false, ["Level", "Lost", "Lost"],
      ["Gone", "Level", "On", "Lost"]⟩,
    ⟨"HMServiceTypeFanV2", "Fan v2", "fan", none, false, ["On"], []⟩]
  characteristics := [
    ⟨"HMCharacteristicTypeLevel", "Level", "level", .floating, none, false⟩,
    ⟨"HMCharacteristicTypeOn", "On", "on", .boolean, none, false⟩,
    ⟨"HMCharacteristicTypeLevelV2", "Level", "level", .integer, none, false⟩]

theorem render_reports_frayedCatalog :
    (frayedCatalog.services.map Service.name).Nodup ∧
      frayedCatalog.danglingReferences =
        [("Lamp", ["Lost"]), ("Fan", ["Lost", "Lost", "Gone", "Lost"])] ∧
      (∀ service ∈ frayedCatalog.services[1]?,
        references frayedCatalog.characteristicsByName service = [
          ⟨⟨"HMCharacteristicTypeLevelV2", "Level", "level", .integer, none, false⟩, true⟩,
          ⟨⟨"HMCharacteristicTypeOn", "On", "on", .boolean, none, false⟩, false⟩]) ∧
      ∀ target (moment : Calendar.Moment) rendering,
        render target moment frayedCatalog = .ok rendering → rendering.findings = [
          .unknownCharacteristic "Lost" "Fan", .unknownCharacteristic "Gone" "Fan",
          .unknownCharacteristic "Lost" "Lamp"] := by
  have distinct : (frayedCatalog.services.map Service.name).Nodup := by decide
  obtain ⟨resolved, reported⟩ := render_reports_danglingReferences frayedCatalog distinct
  have dangling : frayedCatalog.danglingReferences =
      [("Lamp", ["Lost"]), ("Fan", ["Lost", "Lost", "Gone", "Lost"])] := by
    decide
  refine ⟨distinct, dangling, ?_, ?_⟩
  · rintro service ⟨⟩
    rw [(resolved _).1]
    decide
  · intro target moment rendering rendered
    have findings := reported target moment
    have sorted : ([("Lamp", ["Lost"]), ("Fan", ["Lost", "Lost", "Gone", "Lost"])].mergeSort
        fun left right => decide (left.1 ≤ right.1)) =
          [("Fan", ["Lost", "Lost", "Gone", "Lost"]), ("Lamp", ["Lost"])] := by
      simp [List.mergeSort]
    rw [rendered, dangling, sorted] at findings
    exact findings

end Bindings

end HomeCatalog
