import HomeCatalog.Proofs.Entries
import HomeCatalog.Proofs.Order
import HomeCatalog.Reconciliation.Basic
import Mathlib.Data.List.Forall2

/-!
# What reconciling leaves alone

A catalog may be reconciled any number of times.  Each time the references of its services are
replaced by others that name nothing twice, and the kinds of the characteristics for which there is
a hint; all else stays as the headers declared it.
-/

namespace HomeCatalog

/-- Whether required and optional references name nothing twice. -/
structure DistinctReferences (required optional : List String) : Prop where
  required_nodup : required.Nodup
  optional_nodup : optional.Nodup
  disjoint : ∀ name ∈ required, name ∉ optional

instance (required optional : List String) : Decidable (DistinctReferences required optional) :=
  decidable_of_iff (required.Nodup ∧ optional.Nodup ∧ ∀ name ∈ required, name ∉ optional)
    ⟨fun ⟨first, second, disjoint⟩ => ⟨first, second, disjoint⟩,
      fun distinct => ⟨distinct.required_nodup, distinct.optional_nodup, distinct.disjoint⟩⟩

namespace Service

/-- Whether the references of a service name nothing twice. -/
def HasDistinctReferences (service : Service) : Prop :=
  DistinctReferences service.required service.optional

instance (service : Service) : Decidable service.HasDistinctReferences :=
  inferInstanceAs (Decidable (DistinctReferences service.required service.optional))

/-- A service without its references. -/
def heading (service : Service) : Service :=
  { service with required := [], optional := [] }

end Service

/-- A characteristic without its value kind. -/
def Characteristic.heading (characteristic : Characteristic) : Characteristic :=
  { characteristic with valueKind := .text }

end HomeCatalog

namespace HomeCatalog.Reconciliation

open Metadata

/-- The catalog after a sequence of reconciliations, each with metadata or with none. -/
def reconcileAll (catalog : Catalog) (calls : List (Option Relationships)) : Catalog :=
  calls.foldl (fun current metadata => (reconcile current metadata).catalog) catalog

/-! ## Entries that change in their places -/

theorem map_eq_of_forall₂ {α β : Type} {allowed : α → α → Prop} {image : α → β}
    (keeps : ∀ before after, allowed before after → image after = image before)
    {before after : List α} (steps : List.Forall₂ allowed before after) :
    after.map image = before.map image := by
  induction steps with
  | nil => rfl
  | cons step _ ih => rw [List.map_cons, List.map_cons, keeps _ _ step, ih]

theorem forall_of_forall₂ {α : Type} {allowed : α → α → Prop} {property : α → Prop}
    (keeps : ∀ before after, allowed before after → property before → property after)
    {before after : List α} (steps : List.Forall₂ allowed before after)
    (every : ∀ entry ∈ before, property entry) : ∀ entry ∈ after, property entry := by
  induction steps with
  | nil => exact every
  | cons step _ ih =>
      intro entry member
      rcases List.mem_cons.mp member with rfl | later
      · exact keeps _ _ step (every _ (by simp))
      · exact ih (fun entry member => every entry (List.mem_cons_of_mem _ member)) entry later

/-- Changing the last entries of their names changes every entry as allowed, if leaving an entry
alone is allowed as well. -/
theorem forall₂_mapLast {α : Type} {allowed : α → α → Prop} (name : α → String) (change : α → α)
    (stays : ∀ entry, allowed entry entry) (changes : ∀ entry, allowed entry (change entry))
    (entries : List α) : List.Forall₂ allowed entries (mapLast name change entries) := by
  induction entries with
  | nil => exact .nil
  | cons entry rest ih =>
      rw [mapLast]
      split
      · exact .cons (stays entry) ih
      · exact .cons (changes entry) ih

/-! ## Where references come from -/

/-- The references that reconciling a catalog may give to a service: what a relationship states of
the catalog, or what the specification knows. -/
inductive MayRefer (catalog : Catalog) : List String × List String → Prop where
  | stated (relationship : Relationship) : MayRefer catalog (referencesOf catalog relationship)
  | specified {name : String} {references : List String × List String}
      (found : specified? name = some references) : MayRefer catalog references

theorem distinctNames_nodup (names : List String) : (distinctNames names).Nodup :=
  nodup_eraseDups _

theorem mem_distinctNames {name : String} {names : List String} :
    name ∈ distinctNames names ↔ name ∈ names ∧ name.isEmpty = false := by
  simp [distinctNames]

/-- References from metadata name nothing twice. -/
theorem distinctReferences_referencesOf (catalog : Catalog) (relationship : Relationship) :
    DistinctReferences (referencesOf catalog relationship).1
      (referencesOf catalog relationship).2 := by
  refine ⟨distinctNames_nodup _, distinctNames_nodup _, ?_⟩
  intro name isRequired isOptional
  have kept := (List.mem_filter.mp (mem_distinctNames.mp isOptional).1).2
  rw [Bool.and_eq_true, Bool.not_eq_true', List.contains_eq_mem,
    decide_eq_false_iff_not] at kept
  exact kept.2 isRequired

/-- References from metadata are names of characteristics of the catalog. -/
theorem mem_characteristicNames_of_mem_referencesOf {catalog : Catalog}
    {relationship : Relationship} {name : String}
    (member : name ∈ (referencesOf catalog relationship).1 ++
      (referencesOf catalog relationship).2) :
    name ∈ catalog.characteristicNames := by
  rcases List.mem_append.mp member with isRequired | isOptional
  · have kept := (List.mem_filter.mp (mem_distinctNames.mp isRequired).1).2
    simpa using kept
  · have kept := (List.mem_filter.mp (mem_distinctNames.mp isOptional).1).2
    rw [Bool.and_eq_true] at kept
    simpa using kept.1

variable {catalog : Catalog} {references : List String × List String}

theorem MayRefer.distinct (source : MayRefer catalog references) :
    DistinctReferences references.1 references.2 := by
  cases source with
  | stated relationship => exact distinctReferences_referencesOf catalog relationship
  | specified found =>
      have sound : ∀ entry ∈ specification, DistinctReferences entry.2.1 entry.2.2 := by
        decide +kernel
      exact sound _ (Entries.mem_of_lookup found)

/-- Every reference is the name of a characteristic of the catalog, or stands in the
specification. -/
theorem MayRefer.known (source : MayRefer catalog references) :
    ∀ name ∈ references.1 ++ references.2, name ∈ catalog.characteristicNames ∨
      ∃ entry ∈ specification, name ∈ entry.2.1 ++ entry.2.2 := by
  intro name member
  cases source with
  | stated relationship => exact Or.inl (mem_characteristicNames_of_mem_referencesOf member)
  | specified found => exact Or.inr ⟨_, Entries.mem_of_lookup found, member⟩

/-! ## One reconciliation -/

/-- What reconciling a catalog may do to a service: nothing, or give it other references. -/
inductive ServiceStep (catalog : Catalog) (before : Service) : Service → Prop where
  | stay : ServiceStep catalog before before
  | refer {references : List String × List String} (source : MayRefer catalog references) :
      ServiceStep catalog before (setReferences before references)

theorem ServiceStep.heading_eq {before after : Service} (step : ServiceStep catalog before after) :
    after.heading = before.heading := by
  cases step <;> rfl

theorem ServiceStep.distinct {before after : Service} (step : ServiceStep catalog before after)
    (distinct : before.HasDistinctReferences) : after.HasDistinctReferences := by
  cases step with
  | stay => exact distinct
  | refer source => exact source.distinct

/-- What reconciling with given metadata may do to a characteristic. -/
def CharacteristicStep (metadata : Option Relationships) (before after : Characteristic) : Prop :=
  after.heading = before.heading ∧
    (after.valueKind ≠ before.valueKind →
      ∃ relationships, metadata = some relationships ∧
        before.name ∈ relationships.formats.map Prod.fst)

theorem characteristicStep_refl (metadata : Option Relationships)
    (characteristic : Characteristic) :
    CharacteristicStep metadata characteristic characteristic :=
  ⟨rfl, fun changed => absurd rfl changed⟩

theorem serviceStep_applySpecified (catalog : Catalog) (service : Service) :
    ServiceStep catalog service (applySpecified service) := by
  rw [applySpecified]
  split
  · next found => exact .refer (.specified found)
  · exact .stay

theorem serviceStep_applyStaged (catalog : Catalog) (relationships : List Relationship)
    (service : Service) :
    ServiceStep catalog service
      (applyStaged (stagedReferences catalog relationships) service) := by
  rw [applyStaged]
  split
  · next references staged =>
      have member := Entries.mem_of_lookup_ofPairs staged
      obtain ⟨relationship, _, pair⟩ := List.mem_map.mp member
      rw [Prod.mk.injEq] at pair
      rw [← pair.2]
      exact .refer (.stated relationship)
  · exact .stay

theorem characteristicStep_applyHint (metadata : Relationships)
    (characteristic : Characteristic) :
    CharacteristicStep (some metadata) characteristic
      (applyHint metadata.formats characteristic) := by
  rw [applyHint]
  split
  · next found =>
      refine ⟨rfl, fun _ => ⟨metadata, rfl, ?_⟩⟩
      exact List.mem_map.mpr ⟨_, Entries.mem_of_lookup found, rfl⟩
  · exact characteristicStep_refl _ characteristic

/-- Format hints leave the names of characteristics as they are. -/
theorem characteristicNames_applyFormats (formats : List (String × Text.Wide))
    (catalog : Catalog) :
    (applyFormats formats catalog).characteristicNames = catalog.characteristicNames := by
  have keeps : ∀ entry, (applyHint formats entry).name = entry.name := by
    intro entry
    rw [applyHint]
    split <;> rfl
  have steps : List.Forall₂ (fun before after => after.name = before.name)
      catalog.characteristics (applyFormats formats catalog).characteristics := by
    apply forall₂_mapLast
    · exact fun _ => rfl
    · exact keeps
  exact map_eq_of_forall₂ (fun _ _ step => step) steps

theorem referencesOf_applyFormats (formats : List (String × Text.Wide)) (catalog : Catalog)
    (relationship : Relationship) :
    referencesOf (applyFormats formats catalog) relationship =
      referencesOf catalog relationship := by
  simp only [referencesOf, characteristicNames_applyFormats]

/-- What reconciling may do behind format hints it may do in front of them. -/
theorem ServiceStep.of_applyFormats {formats : List (String × Text.Wide)} {before after : Service}
    (step : ServiceStep (applyFormats formats catalog) before after) :
    ServiceStep catalog before after := by
  cases step with
  | stay => exact .stay
  | refer source =>
      cases source with
      | stated relationship =>
          rw [referencesOf_applyFormats]
          exact .refer (.stated relationship)
      | specified found => exact .refer (.specified found)

theorem forall₂_services_reconcileSpecified (catalog current : Catalog) (summary : Summary)
    (findings : List Finding) :
    List.Forall₂ (ServiceStep catalog) current.services
      (reconcileSpecified current summary findings).catalog.services := by
  rw [reconcileSpecified, List.forall₂_map_right_iff, List.forall₂_same]
  exact fun service _ => serviceStep_applySpecified catalog service

/-- Reconciling changes each service as allowed, in its place. -/
theorem forall₂_services_reconcile (catalog : Catalog) (metadata : Option Relationships) :
    List.Forall₂ (ServiceStep catalog) catalog.services
      (reconcile catalog metadata).catalog.services := by
  cases metadata with
  | none => exact forall₂_services_reconcileSpecified catalog catalog _ _
  | some metadata =>
      rw [reconcile, reconcileWith]
      split
      · exact forall₂_services_reconcileSpecified catalog
          (applyFormats metadata.formats catalog) _ _
      · exact forall₂_mapLast _ _ (fun _ => .stay)
          (fun service => (serviceStep_applyStaged _ metadata.services service).of_applyFormats)
          catalog.services

/-- Reconciling changes each characteristic as allowed, in its place. -/
theorem forall₂_characteristics_reconcile (catalog : Catalog)
    (metadata : Option Relationships) :
    List.Forall₂ (CharacteristicStep metadata) catalog.characteristics
      (reconcile catalog metadata).catalog.characteristics := by
  cases metadata with
  | none =>
      rw [reconcile, reconcileSpecified, List.forall₂_same]
      exact fun characteristic _ => characteristicStep_refl none characteristic
  | some metadata =>
      have hinted := forall₂_mapLast Characteristic.name (applyHint metadata.formats)
        (characteristicStep_refl (some metadata)) (characteristicStep_applyHint metadata)
        catalog.characteristics
      rw [reconcile, reconcileWith]
      split
      · exact hinted
      · exact hinted

/-! ## Any number of reconciliations -/

/-- However often a catalog is reconciled, its references name nothing twice if they did not at
first, its entries stay in place with all else that the headers declared, and the next
reconciliation changes only the kinds of characteristics that it has hints for. -/
theorem reconcileAll_preserves (catalog : Catalog) (calls : List (Option Relationships))
    (distinct : ∀ service ∈ catalog.services, service.HasDistinctReferences) :
    (∀ service ∈ (reconcileAll catalog calls).services, service.HasDistinctReferences) ∧
    (reconcileAll catalog calls).services.map Service.heading =
      catalog.services.map Service.heading ∧
    (reconcileAll catalog calls).characteristics.map Characteristic.heading =
      catalog.characteristics.map Characteristic.heading ∧
    ∀ metadata, List.Forall₂
      (fun before after => after.valueKind ≠ before.valueKind →
        ∃ relationships, metadata = some relationships ∧
          before.name ∈ relationships.formats.map Prod.fst)
      (reconcileAll catalog calls).characteristics
      (reconcileAll catalog (calls ++ [metadata])).characteristics := by
  have run : (∀ service ∈ (reconcileAll catalog calls).services,
        service.HasDistinctReferences) ∧
      (reconcileAll catalog calls).services.map Service.heading =
        catalog.services.map Service.heading ∧
      (reconcileAll catalog calls).characteristics.map Characteristic.heading =
        catalog.characteristics.map Characteristic.heading := by
    induction calls generalizing catalog with
    | nil => exact ⟨distinct, rfl, rfl⟩
    | cons metadata rest ih =>
        have services := forall₂_services_reconcile catalog metadata
        have characteristics := forall₂_characteristics_reconcile catalog metadata
        obtain ⟨runDistinct, runServices, runCharacteristics⟩ :=
          ih (reconcile catalog metadata).catalog
            (forall_of_forall₂ (fun _ _ step => step.distinct) services distinct)
        exact ⟨runDistinct,
          runServices.trans (map_eq_of_forall₂ (fun _ _ step => step.heading_eq) services),
          runCharacteristics.trans (map_eq_of_forall₂ (fun _ _ step => step.1) characteristics)⟩
  refine ⟨run.1, run.2.1, run.2.2, ?_⟩
  intro metadata
  have next : reconcileAll catalog (calls ++ [metadata]) =
      (reconcile (reconcileAll catalog calls) metadata).catalog := by
    simp [reconcileAll]
  rw [next]
  exact (forall₂_characteristics_reconcile _ metadata).imp fun _ _ step => step.2

/-- A catalog with two services of one name. -/
def twinCatalog : Catalog where
  services := [
    ⟨"HMServiceTypeFan", "Fan", "fan", none, false, ["Speed"], ["Power State"]⟩,
    ⟨"HMServiceTypeOtherFan", "Fan", "fan", some "Another fan.", true, [], []⟩]
  characteristics := [
    ⟨"HMCharacteristicTypePowerState", "Power State", "powerState", .boolean, none, false⟩,
    ⟨"HMCharacteristicTypeSpeed", "Speed", "speed", .integer, none, false⟩]

/-- Metadata that states references twice, and some both as required and as optional. -/
def repetitiveMetadata : Relationships where
  services := [⟨"Fan", .ofString "Fan", ["Power State", "Power State"], ["Speed", "Power State"]⟩]
  formats := [("Speed", .ofString "float")]
  aliases := []

/-- Reconciled with it between two reconciliations without metadata, the catalog keeps its names in
order, and no reference is repeated. -/
theorem reconcileAll_twinCatalog :
    (∀ service ∈ (reconcileAll twinCatalog [none, some repetitiveMetadata, none]).services,
      service.HasDistinctReferences) ∧
    (reconcileAll twinCatalog [none, some repetitiveMetadata, none]).services.map Service.heading =
      twinCatalog.services.map Service.heading := by
  have preserved := reconcileAll_preserves twinCatalog [none, some repetitiveMetadata, none]
    (by decide)
  exact ⟨preserved.1, preserved.2.1⟩

end HomeCatalog.Reconciliation
