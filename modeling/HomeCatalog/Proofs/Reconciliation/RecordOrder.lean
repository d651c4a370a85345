import HomeCatalog.Proofs.Metadata.RecordOrder
import HomeCatalog.Proofs.Order
import HomeCatalog.Reconciliation.Basic

/-!
# Reconciling with reordered metadata

What reconciling makes of a catalog, its summary, and what it notices do not show the order in which
a metadata document lists its records, as long as no two of them speak about the same thing
differently.
-/

namespace HomeCatalog.Reconciliation

open Metadata Document

variable {left right : Relationships} {relationships others : List Relationship}

/-! ## Format hints -/

/-- Only the answers of the table of formats matter to the kinds of characteristics. -/
theorem applyFormats_congr {formats other : List (String × Text.Wide)}
    (same : ∀ name, formats.lookup name = other.lookup name) (catalog : Catalog) :
    applyFormats formats catalog = applyFormats other catalog := by
  have hints : applyHint formats = applyHint other := by
    funext entry
    rw [applyHint, applyHint, same]
  rw [applyFormats, applyFormats, hints]

theorem unmatchedHints_congr {formats other : List (String × Text.Wide)}
    (perm : (formats.map Prod.fst).Perm (other.map Prod.fst)) (catalog : Catalog) :
    unmatchedHints formats catalog = unmatchedHints other catalog :=
  sortNames_eq_of_perm (perm.filter _)

/-! ## References -/

/-- Where services are stated once, their references are staged as they are stated. -/
theorem stagedReferences_of_nodup (distinct : (relationships.map Relationship.serviceName).Nodup)
    (catalog : Catalog) :
    stagedReferences catalog relationships =
      (relationships.filter (isMatched catalog)).map fun relationship =>
        (relationship.serviceName, referencesOf catalog relationship) := by
  apply Entries.ofPairs_of_nodup
  rw [List.map_map]
  exact distinct.sublist (List.filter_sublist.map _)

theorem stagedReferences_perm (distinct : (relationships.map Relationship.serviceName).Nodup)
    (perm : relationships.Perm others) (catalog : Catalog) :
    (stagedReferences catalog relationships).Perm (stagedReferences catalog others) := by
  rw [stagedReferences_of_nodup distinct,
    stagedReferences_of_nodup ((perm.map _).nodup_iff.mp distinct)]
  exact (perm.filter _).map _

theorem applyStaged_congr (distinct : (relationships.map Relationship.serviceName).Nodup)
    (perm : relationships.Perm others) (catalog : Catalog) :
    applyStaged (stagedReferences catalog relationships) =
      applyStaged (stagedReferences catalog others) := by
  have consistent : Entries.AreConsistent (stagedReferences catalog relationships) :=
    Entries.areConsistent_of_nodup (Entries.nodup_keys_ofPairs _)
  funext service
  rw [applyStaged, applyStaged,
    consistent.lookup_eq_of_perm (stagedReferences_perm distinct perm catalog)]

theorem unmatchedDescriptions_congr (perm : relationships.Perm others) (catalog : Catalog) :
    unmatchedDescriptions catalog relationships = unmatchedDescriptions catalog others :=
  Text.Wide.sort_eq_of_perm ((perm.filter _).map _)

theorem missingNames_congr (perm : relationships.Perm others) (catalog : Catalog) :
    missingNames catalog relationships = missingNames catalog others :=
  sortNames_eq_of_perm (eraseDups_perm ((perm.filter _).flatMap_right _))

/-! ## The whole reconciliation -/

/-- Metadata that agrees leads to one outcome if it states no service twice. -/
theorem reconcileWith_congr (agree : left.AgreesWith right)
    (distinct : (left.services.map Relationship.serviceName).Nodup) (catalog : Catalog) :
    reconcileWith catalog left = reconcileWith catalog right := by
  have staged := stagedReferences_perm distinct agree.services
  simp only [reconcileWith, applyFormats_congr agree.formats,
    unmatchedHints_congr agree.formatNames, applyStaged_congr distinct agree.services,
    (staged _).countP_eq, unmatchedDescriptions_congr agree.services,
    missingNames_congr agree.services]

/-- Two documents that hold the same records in different order lead to the same catalog, summary
and findings, or both cannot be read, if no two valid records of characteristics contradict each
other and no two valid records of services have one name. -/
theorem reconcile_ofSections_perm {services others characteristics records :
      List (Scalar × Value)}
    (sameServices : services.Perm others) (sameRecords : characteristics.Perm records)
    (unambiguous : ∀ keyed, keyedRecords characteristics = .ok keyed → AreUnambiguous keyed)
    (distinct : (serviceNames services).Nodup) (catalog : Catalog) :
    (Relationships.ofSections services characteristics).map
        (fun metadata => reconcile catalog (some metadata)) =
      (Relationships.ofSections others records).map
        (fun metadata => reconcile catalog (some metadata)) := by
  rw [Relationships.ofSections, Relationships.ofSections]
  have keyed := keyedRecords_perm sameRecords
  revert keyed unambiguous
  generalize keyedRecords characteristics = first
  generalize keyedRecords records = second
  intro unambiguous keyed
  cases keyed with
  | error problem => rfl
  | ok perm =>
      have agree := (unambiguous _ rfl).agreesWith perm sameServices
      simp only [Except.map, reconcile]
      rw [reconcileWith_congr agree (by simpa using distinct)]

/-- A catalog with a fan that has a switch. -/
def fanCatalog : Catalog where
  services := [⟨"HMServiceTypeFan", "Fan", "fan", none, false, [], []⟩]
  characteristics := [
    ⟨"HMCharacteristicTypePowerState", "PowerState", "powerState", .text, none, false⟩,
    ⟨"HMCharacteristicTypeSpeed", "Speed", "speed", .integer, none, false⟩]

/-- A record whose fields are texts. -/
def recordOf (fields : List (String × String)) : Value :=
  .mapping (fields.map fun field =>
    (.text (.ofString field.1), .scalar (.text (.ofString field.2))))

/-- A record of a service that requires one characteristic. -/
def serviceRecordOf (description required : String) : Value :=
  .mapping [
    (.text (.ofString "DefaultDescription"), .scalar (.text (.ofString description))),
    (.text (.ofString "Characteristics"),
      .mapping [(.text (.ofString "Required"), .list [.scalar (.text (.ofString required))])])]

/-- Records of characteristics of which two claim one identifier for one name. -/
def powerRecords : List (Scalar × Value) :=
  [ (.text (.ofString "on"), recordOf [("DefaultDescription", "Power State"), ("ShortUUID", "25"),
      ("Format", "bool")]),
    (.integer 25, recordOf [("DefaultDescription", "power State"), ("Format", "Bool")]),
    (.text (.ofString "speed"), recordOf [("DefaultDescription", "Speed")]) ]

/-- Records of services of which one is about the fan. -/
def fanRecords : List (Scalar × Value) :=
  [ (.integer 1, serviceRecordOf "Tap" "25"), (.integer 2, serviceRecordOf "Fan" "25"),
    (.integer 3, serviceRecordOf "Lamp" "speed") ]

/-- The fan gets its switch from the records in either order. -/
theorem reconcile_fanRecords_reverse :
    (Relationships.ofSections fanRecords powerRecords).map
        (fun metadata => reconcile fanCatalog (some metadata)) =
      (Relationships.ofSections fanRecords.reverse powerRecords.reverse).map
        (fun metadata => reconcile fanCatalog (some metadata)) ∧
    (Relationships.ofSections fanRecords powerRecords).map
        (fun metadata => (reconcile fanCatalog (some metadata)).catalog.services.map
          Service.required) =
      .ok [["PowerState"]] := by
  have unambiguous : ∀ keyed, keyedRecords powerRecords = .ok keyed → AreUnambiguous keyed := by
    intro keyed written
    have exists_ : ∃ records, keyedRecords powerRecords = .ok records ∧ AreUnambiguous records :=
      ⟨_, rfl, by decide +kernel⟩
    obtain ⟨records, written', unambiguous⟩ := exists_
    rw [written] at written'
    cases written'
    exact unambiguous
  have distinct : (serviceNames fanRecords).Nodup := by decide +kernel
  constructor
  · exact reconcile_ofSections_perm (List.reverse_perm _).symm (List.reverse_perm _).symm
      unambiguous distinct fanCatalog
  · decide +kernel

end HomeCatalog.Reconciliation
