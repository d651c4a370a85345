import HomeCatalog.Proofs.Reconciliation.Decision

/-!
# References from metadata

Of several relationships of one service the last is decisive, even if nothing that it names is in
the catalog.  It gives the last service of its name the characteristics of the catalog that it
names, each once and in the order of the document.  If no decisive relationship gives a service a
characteristic, the specification gives all references, and nothing of the metadata's shows.
-/

namespace HomeCatalog.Reconciliation

open Metadata

/-! ## Names selected from a list -/

/-- Whether names are selected from a list: those that pass a test, each once, in the order in which
they first occur. -/
structure IsSelection (names : List String) (passes : String → Prop) (selected : List String) :
    Prop where
  mem_iff : ∀ name, name ∈ selected ↔ name ∈ names ∧ passes name
  ordered : selected.Pairwise fun one other => names.idxOf one < names.idxOf other

/-- The distinct names among those that pass a test are a selection. -/
theorem isSelection_distinctNames {names : List String} {keeps : String → Bool}
    {passes : String → Prop}
    (passes_iff : ∀ name, passes name ↔ name ≠ "" ∧ keeps name = true) :
    IsSelection names passes (distinctNames (names.filter keeps)) := by
  constructor
  · intro name
    rw [mem_distinctNames, List.mem_filter, passes_iff, ← Bool.not_eq_true, String.isEmpty_iff]
    tauto
  · rw [distinctNames, List.filter_filter]
    refine List.Pairwise.imp_of_mem ?_ (pairwise_idxOf_eraseDups _)
    intro one other _ member before
    rw [List.mem_eraseDups, List.mem_filter] at member
    exact idxOf_lt_of_filter member.2 before

theorem IsSelection.nodup {names selected : List String} {passes : String → Prop}
    (selection : IsSelection names passes selected) : selected.Nodup := by
  apply selection.ordered.imp
  intro one other before same
  simp [same] at before

/-- There is one selection only. -/
theorem IsSelection.eq {names left right : List String} {passes : String → Prop}
    (first : IsSelection names passes left) (second : IsSelection names passes right) :
    left = right := by
  have perm : left.Perm right := by
    rw [List.perm_ext_iff_of_nodup first.nodup second.nodup]
    intro name
    rw [first.mem_iff, second.mem_iff]
  apply List.Perm.eq_of_pairwise _ first.ordered second.ordered perm
  intro one other _ _ before after
  exact absurd before (Nat.lt_asymm after)

/-! ## What a relationship states -/

/-- Whether required and optional references are those that a relationship states of a catalog: its
names of characteristics of the catalog, and among the optional ones none that is required. -/
structure AreStated (catalog : Catalog) (relationship : Relationship)
    (references : List String × List String) : Prop where
  required : IsSelection relationship.required
    (fun name => name ≠ "" ∧ name ∈ catalog.characteristicNames) references.1
  optional : IsSelection relationship.optional
    (fun name => name ≠ "" ∧ name ∈ catalog.characteristicNames ∧ name ∉ references.1)
    references.2

theorem areStated_referencesOf (catalog : Catalog) (relationship : Relationship) :
    AreStated catalog relationship (referencesOf catalog relationship) := by
  constructor
  · apply isSelection_distinctNames
    intro name
    simp
  · apply isSelection_distinctNames
    intro name
    simp [referencesOf]

theorem AreStated.eq_referencesOf {catalog : Catalog} {relationship : Relationship}
    {references : List String × List String}
    (stated : AreStated catalog relationship references) :
    references = referencesOf catalog relationship := by
  have computed := areStated_referencesOf catalog relationship
  have required := stated.required.eq computed.required
  apply Prod.ext required
  apply stated.optional.eq
  rw [required]
  exact computed.optional

/-! ## The decisive relationship -/

/-- The relationship that is decisive for a service name: the last one that is about it. -/
def decisive? (relationships : List Relationship) (name : String) : Option Relationship :=
  relationships.reverse.find? fun relationship => relationship.serviceName == name

theorem nodup_keys_stagedReferences (catalog : Catalog) (relationships : List Relationship) :
    ((stagedReferences catalog relationships).map Prod.fst).Nodup :=
  Entries.nodup_keys_ofPairs _

/-- What is staged for a name is what is found for it. -/
theorem lookup_stagedReferences_eq_some_iff {catalog : Catalog}
    {relationships : List Relationship} {name : String}
    {references : List String × List String} :
    (stagedReferences catalog relationships).lookup name = some references ↔
      (name, references) ∈ stagedReferences catalog relationships :=
  (Entries.areConsistent_of_nodup
    (nodup_keys_stagedReferences catalog relationships)).lookup_eq_some_iff

/-- What is staged for a service of the catalog is what the decisive relationship states. -/
theorem lookup_stagedReferences {catalog : Catalog} {name : String}
    (present : name ∈ catalog.services.map Service.name) (relationships : List Relationship) :
    (stagedReferences catalog relationships).lookup name =
      (decisive? relationships name).map (referencesOf catalog) := by
  rw [stagedReferences, Entries.lookup_ofPairs, ← List.map_reverse, ← List.filter_reverse,
    decisive?]
  -- From the end, the first relationship about a name is the one that is staged.
  induction relationships.reverse with
  | nil => rfl
  | cons relationship rest ih =>
      by_cases same : relationship.serviceName = name
      · have matched : isMatched catalog relationship = true := by
          rw [isMatched_iff, same]
          exact present
        rw [List.filter_cons_of_pos matched, List.find?_cons_of_pos (by simp [same])]
        simp [same]
      · rw [List.find?_cons_of_neg (by simp [same]), ← ih]
        by_cases matched : isMatched catalog relationship = true
        · have apart : (name == relationship.serviceName) = false := by
            rw [beq_eq_false_iff_ne]
            exact fun equal => same equal.symm
          rw [List.filter_cons_of_pos matched, List.map_cons, List.lookup_cons, apart]
        · rw [List.filter_cons_of_neg matched]

/-- Only services of the catalog have something staged. -/
theorem mem_names_of_mem_stagedReferences {catalog : Catalog}
    {relationships : List Relationship} {name : String}
    (staged : name ∈ (stagedReferences catalog relationships).map Prod.fst) :
    name ∈ catalog.services.map Service.name := by
  rw [stagedReferences, Entries.mem_keys_ofPairs, List.map_map] at staged
  obtain ⟨relationship, member, rfl⟩ := List.mem_map.mp staged
  exact isMatched_iff.mp (List.mem_filter.mp member).2

/-- Whether metadata states a reference for a service of a catalog. -/
def StatesReferences (catalog : Catalog) (relationships : List Relationship) : Prop :=
  ∃ service ∈ catalog.services, ∃ relationship references,
    decisive? relationships service.name = some relationship ∧
    AreStated catalog relationship references ∧ (references.1 ≠ [] ∨ references.2 ≠ [])

theorem hasReferences_iff {references : List String × List String} :
    hasReferences references = true ↔ references.1 ≠ [] ∨ references.2 ≠ [] := by
  simp [hasReferences]

theorem statedServices_ne_zero_iff {catalog : Catalog} {metadata : Relationships} :
    statedServices catalog metadata ≠ 0 ↔ StatesReferences catalog metadata.services := by
  rw [statedServices, ← Nat.pos_iff_ne_zero, List.countP_pos_iff]
  constructor
  · rintro ⟨⟨name, references⟩, staged, stated⟩
    have present := mem_names_of_mem_stagedReferences (List.mem_map_of_mem staged)
    have found := lookup_stagedReferences_eq_some_iff.mpr staged
    rw [lookup_stagedReferences present] at found
    obtain ⟨relationship, decisive, rfl⟩ := Option.map_eq_some_iff.mp found
    obtain ⟨service, member, rfl⟩ := List.mem_map.mp present
    exact ⟨service, member, relationship, _, decisive, areStated_referencesOf catalog relationship,
      hasReferences_iff.mp stated⟩
  · rintro ⟨service, member, relationship, references, decisive, stated, nonempty⟩
    have found := lookup_stagedReferences (List.mem_map_of_mem member) metadata.services
    rw [decisive, Option.map_some, ← stated.eq_referencesOf] at found
    exact ⟨_, lookup_stagedReferences_eq_some_iff.mp found, hasReferences_iff.mpr nonempty⟩

/-! ## What metadata makes of a catalog -/

/-- What metadata makes of a service that has others behind it: the last service of its name gets
what the decisive relationship states, which may be nothing, and every other stays as it is. -/
inductive IsGiven (catalog : Catalog) (relationships : List Relationship) (later : List Service)
    (before : Service) : Service → Prop where
  | stated {relationship : Relationship} {references : List String × List String}
      (last : before.name ∉ later.map Service.name)
      (decisive : decisive? relationships before.name = some relationship)
      (stated : AreStated catalog relationship references) :
      IsGiven catalog relationships later before (setReferences before references)
  | shadowed (shadowed : before.name ∈ later.map Service.name) :
      IsGiven catalog relationships later before before
  | unstated (unstated : decisive? relationships before.name = none) :
      IsGiven catalog relationships later before before

theorem isGiven_applyStaged {catalog : Catalog} {service : Service}
    (member : service ∈ catalog.services) (relationships : List Relationship)
    {later : List Service} (last : service.name ∉ later.map Service.name) :
    IsGiven catalog relationships later service
      (applyStaged (stagedReferences catalog relationships) service) := by
  rw [applyStaged, lookup_stagedReferences (List.mem_map_of_mem member)]
  cases decisive : decisive? relationships service.name with
  | none => exact .unstated decisive
  | some relationship =>
      exact .stated last decisive (areStated_referencesOf catalog relationship)

/-- Whether an outcome is what metadata decides about the references of a catalog. -/
structure IsDecided (catalog : Catalog) (metadata : Relationships) (outcome : Outcome) : Prop where
  strategy_iff : outcome.summary.strategy = .metadata ↔
    StatesReferences catalog metadata.services
  length_eq : outcome.catalog.services.length = catalog.services.length
  given : outcome.summary.strategy = .metadata → ∀ index service,
    catalog.services[index]? = some service → ∃ after,
      outcome.catalog.services[index]? = some after ∧
      IsGiven catalog metadata.services (catalog.services.drop (index + 1)) service after
  /-- Nothing of the metadata shows in the references that the specification gives. -/
  specified : outcome.summary.strategy = .specification →
    outcome.catalog.services = (reconcile catalog none).catalog.services ∧
    outcome.catalog.services = catalog.services.map fun service =>
      (specified? service.name).elim service (setReferences service)
  unmatched_perm : outcome.summary.unmatchedServices.Perm
    ((metadata.services.filter fun relationship =>
      relationship.serviceName ∉ catalog.services.map Service.name).map Relationship.description)
  unmatched_sorted : outcome.summary.unmatchedServices.Pairwise (· ≤ ·)
  missing_iff : ∀ name, name ∈ outcome.summary.missingCharacteristics ↔
    name ∉ catalog.characteristicNames ∧ ∃ relationship ∈ metadata.services,
      relationship.serviceName ∈ catalog.services.map Service.name ∧
      name ∈ relationship.required ++ relationship.optional
  missing_sorted : outcome.summary.missingCharacteristics.Pairwise (· < ·)

theorem unmatchedDescriptions_perm (catalog : Catalog) (relationships : List Relationship) :
    (unmatchedDescriptions catalog relationships).Perm
      ((relationships.filter fun relationship =>
        relationship.serviceName ∉ catalog.services.map Service.name).map
          Relationship.description) := by
  have absent : (fun relationship => !isMatched catalog relationship) = fun relationship =>
      decide (relationship.serviceName ∉ catalog.services.map Service.name) := by
    funext relationship
    rw [Bool.eq_iff_iff, Bool.not_eq_true', ← Bool.not_eq_true, isMatched_iff, decide_eq_true_eq]
  rw [unmatchedDescriptions, absent]
  exact List.mergeSort_perm _ _

theorem mem_missingNames_iff {catalog : Catalog} {relationships : List Relationship}
    {name : String} :
    name ∈ missingNames catalog relationships ↔
      name ∉ catalog.characteristicNames ∧ ∃ relationship ∈ relationships,
        relationship.serviceName ∈ catalog.services.map Service.name ∧
        name ∈ relationship.required ++ relationship.optional := by
  have unknown : (!catalog.characteristicNames.contains name) = true ↔
      name ∉ catalog.characteristicNames := by
    simp
  rw [missingNames, mem_sortNames, List.mem_eraseDups, List.mem_flatMap]
  constructor
  · rintro ⟨relationship, matched, named⟩
    rw [List.mem_filter, isMatched_iff] at matched
    rw [List.mem_filter, unknown] at named
    exact ⟨named.2, relationship, matched.1, matched.2, named.1⟩
  · rintro ⟨absent, relationship, member, matched, named⟩
    refine ⟨relationship, List.mem_filter.mpr ⟨member, isMatched_iff.mpr matched⟩, ?_⟩
    rw [List.mem_filter, unknown]
    exact ⟨named, absent⟩

theorem pairwise_missingNames (catalog : Catalog) (relationships : List Relationship) :
    (missingNames catalog relationships).Pairwise (· < ·) :=
  pairwise_lt_sortNames (nodup_eraseDups _)

variable {catalog : Catalog} {metadata : Relationships}

theorem isGiven_reconcileWith (stated : statedServices catalog metadata ≠ 0) {index : Nat}
    {service : Service} (found : catalog.services[index]? = some service) :
    ∃ after, (reconcileWith catalog metadata).catalog.services[index]? = some after ∧
      IsGiven catalog metadata.services (catalog.services.drop (index + 1)) service after := by
  rw [services_reconcileWith, if_neg stated, getElem?_mapLast, found, Option.map_some]
  refine ⟨_, rfl, ?_⟩
  split
  · next shadowed => exact .shadowed shadowed
  · next last => exact isGiven_applyStaged (List.mem_of_getElem? found) metadata.services last

variable (catalog metadata)

/-- Reconciling a catalog does with its references what metadata decides. -/
theorem isDecided_reconcile :
    IsDecided catalog metadata (reconcile catalog (some metadata)) := by
  have decided := strategy_reconcileWith_iff catalog metadata
  have summary := summary_reconcileWith catalog metadata
  rw [reconcile]
  constructor
  case strategy_iff => exact decided.trans statedServices_ne_zero_iff
  case length_eq => exact (forall₂_services_reconcile catalog (some metadata)).length_eq.symm
  case given =>
    intro isMetadata index service found
    exact isGiven_reconcileWith (decided.mp isMetadata) found
  case specified =>
    intro isSpecification
    have unstated : statedServices catalog metadata = 0 := by
      by_contra stated
      rw [decided.mpr stated] at isSpecification
      cases isSpecification
    rw [services_reconcileWith, if_pos unstated]
    constructor
    · rfl
    · rw [applySpecified_eq]
      rfl
  case unmatched_perm =>
    rw [summary]
    exact unmatchedDescriptions_perm catalog metadata.services
  case unmatched_sorted =>
    rw [summary]
    exact Text.Wide.pairwise_sort _
  case missing_iff =>
    rw [summary]
    exact fun _ => mem_missingNames_iff
  case missing_sorted =>
    rw [summary]
    exact pairwise_missingNames catalog metadata.services

/-- A later relationship that names nothing of the catalog takes back what an earlier one states. -/
example :
    (reconcile {
      services := [⟨"HMServiceTypeFan", "Fan", "fan", none, false, [], []⟩]
      characteristics := [⟨"HMCharacteristicTypeSpeed", "Speed", "speed", .integer, none, false⟩] }
      (some {
        services := [⟨"Fan", .ofString "Fan", ["Speed"], []⟩,
          ⟨"Fan", .ofString "Old fan", ["Volume"], []⟩]
        formats := []
        aliases := [] })).summary.strategy = .specification := by
  decide +kernel

end HomeCatalog.Reconciliation
