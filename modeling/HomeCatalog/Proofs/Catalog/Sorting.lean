import HomeCatalog.Proofs.Catalog.Texts
import HomeCatalog.Proofs.Entries

/-!
# Sorting a catalog

Entries are sorted by display name and then by identifier.  Sorting is stable and changes nothing
the second time.  Where the identifier of a characteristic follows from its name, the table by
names is the same before and after: the last definition of a name stays the last.
-/

namespace HomeCatalog

/-! ## The order -/

theorem namesInOrder_iff {left right : String × String} :
    namesInOrder left right = true ↔
      left.1 < right.1 ∨ left.1 = right.1 ∧ left.2 ≤ right.2 := by
  rw [namesInOrder]
  split
  · next same => simp [same]
  · next apart => simp [apart]

/-- Of two pairs of names one stands before or with the other. -/
theorem namesInOrder_total (left right : String × String) :
    (namesInOrder left right || namesInOrder right left) = true := by
  rw [Bool.or_eq_true, namesInOrder_iff, namesInOrder_iff]
  by_cases less : left.1 < right.1
  · exact Or.inl (Or.inl less)
  · by_cases greater : right.1 < left.1
    · exact Or.inr (Or.inl greater)
    · have same : left.1 = right.1 :=
        String.le_antisymm (String.not_lt.mp greater) (String.not_lt.mp less)
      rcases String.le_total left.2 right.2 with first | second
      · exact Or.inl (Or.inr ⟨same, first⟩)
      · exact Or.inr (Or.inr ⟨same.symm, second⟩)

theorem namesInOrder_trans {first second third : String × String}
    (before : namesInOrder first second = true) (after : namesInOrder second third = true) :
    namesInOrder first third = true := by
  rw [namesInOrder_iff] at before after ⊢
  rcases before with less | ⟨same, atMost⟩
  · rcases after with less' | ⟨same', _⟩
    · exact Or.inl (String.lt_trans less less')
    · exact Or.inl (same' ▸ less)
  · rcases after with less' | ⟨same', atMost'⟩
    · exact Or.inl (same ▸ less')
    · exact Or.inr ⟨same.trans same', String.le_trans atMost atMost'⟩

/-- Pairs of names that stand before or with each other are the same. -/
theorem namesInOrder_antisymm {left right : String × String}
    (before : namesInOrder left right = true) (after : namesInOrder right left = true) :
    left = right := by
  rw [namesInOrder_iff] at before after
  rcases before with less | ⟨same, atMost⟩
  · rcases after with less' | ⟨same', _⟩
    · exact absurd (String.lt_trans less less') (String.lt_irrefl _)
    · exact absurd (same' ▸ less) (String.lt_irrefl _)
  · rcases after with less' | ⟨_, atMost'⟩
    · exact absurd (same ▸ less') (String.lt_irrefl _)
    · exact Prod.ext same (String.le_antisymm atMost atMost')

theorem namesInOrder_refl (names : String × String) : namesInOrder names names = true :=
  namesInOrder_iff.mpr (Or.inr ⟨rfl, String.le_refl _⟩)

/-! ## Sorting by names -/

section

variable {α : Type} (key : α → String × String) (entries : List α)

theorem pairwise_mergeSort_namesInOrder :
    (entries.mergeSort fun left right => namesInOrder (key left) (key right)).Pairwise
      fun left right => namesInOrder (key left) (key right) = true := by
  apply List.pairwise_mergeSort
  · exact fun _ _ _ before after => namesInOrder_trans before after
  · exact fun left right => namesInOrder_total (key left) (key right)

theorem mergeSort_mergeSort :
    (entries.mergeSort fun left right => namesInOrder (key left) (key right)).mergeSort
      (fun left right => namesInOrder (key left) (key right)) =
        entries.mergeSort fun left right => namesInOrder (key left) (key right) :=
  List.mergeSort_of_pairwise (pairwise_mergeSort_namesInOrder key entries)

variable {key entries}

/-- Sorting keeps the order of the entries of a group that has one key. -/
theorem filter_mergeSort {isMember : α → Bool}
    (tied : ∀ left ∈ entries, ∀ right ∈ entries,
      isMember left = true → isMember right = true → key left = key right) :
    (entries.mergeSort fun left right => namesInOrder (key left) (key right)).filter isMember =
      entries.filter isMember := by
  have ordered : (entries.filter isMember).Pairwise fun left right =>
      namesInOrder (key left) (key right) = true := by
    refine List.Pairwise.imp_of_mem ?_ (List.pairwise_of_forall fun _ _ => trivial)
    intro left right inLeft inRight _
    rw [List.mem_filter] at inLeft inRight
    rw [tied left inLeft.1 right inRight.1 inLeft.2 inRight.2]
    exact namesInOrder_refl _
  have kept : (entries.filter isMember).Sublist
      (entries.mergeSort fun left right => namesInOrder (key left) (key right)) := by
    apply List.sublist_mergeSort _ _ ordered List.filter_sublist
    · exact fun _ _ _ before after => namesInOrder_trans before after
    · exact fun left right => namesInOrder_total (key left) (key right)
  have filtered := kept.filter isMember
  simp only [List.filter_filter, Bool.and_self] at filtered
  have sameLength := ((List.mergeSort_perm entries fun left right =>
    namesInOrder (key left) (key right)).filter isMember).length_eq
  exact (filtered.eq_of_length sameLength.symm).symm

/-- Sorting entries with distinct keys forgets the order in which they came. -/
theorem mergeSort_namesInOrder_eq_of_perm {others : List α} (perm : entries.Perm others)
    (distinct : (entries.map key).Nodup) :
    entries.mergeSort (fun left right => namesInOrder (key left) (key right)) =
      others.mergeSort fun left right => namesInOrder (key left) (key right) := by
  apply List.Perm.eq_of_pairwise _ (pairwise_mergeSort_namesInOrder key entries)
    (pairwise_mergeSort_namesInOrder key others)
  · exact (List.mergeSort_perm entries _).trans (perm.trans (List.mergeSort_perm others _).symm)
  · intro left right inEntries inOthers before after
    apply List.inj_on_of_nodup_map distinct
    · exact List.mem_mergeSort.mp inEntries
    · exact perm.mem_iff.mpr (List.mem_mergeSort.mp inOthers)
    · exact namesInOrder_antisymm before after

end

namespace Catalog

variable (catalog : Catalog)

@[simp] theorem sortedServices_sorted : catalog.sorted.sortedServices = catalog.sortedServices :=
  mergeSort_mergeSort Service.sortKey catalog.services

@[simp] theorem sortedCharacteristics_sorted :
    catalog.sorted.sortedCharacteristics = catalog.sortedCharacteristics :=
  mergeSort_mergeSort Characteristic.sortKey catalog.characteristics

/-! ## The table by names -/

/-- A name leads to the last characteristic that has it. -/
theorem lookup_characteristicsByName (name : String) :
    catalog.characteristicsByName.lookup name =
      (catalog.characteristics.filter fun entry => name == entry.name).getLast? := by
  rw [characteristicsByName, Entries.lookup_ofPairs]
  induction catalog.characteristics using List.reverseRecOn with
  | nil => rfl
  | append_singleton before last ih =>
      rw [List.map_append, List.reverse_append, List.map_singleton, List.reverse_singleton,
        List.singleton_append, List.lookup_cons, ih, List.filter_append, List.getLast?_append]
      cases same : name == last.name <;> simp [same]

/-- Only the names of characteristics lead anywhere. -/
theorem isNone_lookup_characteristicsByName (name : String) :
    (catalog.characteristicsByName.lookup name).isNone =
      !catalog.characteristicNames.contains name := by
  have absent : (catalog.characteristics.filter fun entry => name == entry.name) = [] ↔
      name ∉ catalog.characteristicNames := by
    rw [List.filter_eq_nil_iff, characteristicNames, List.mem_map, not_exists]
    apply forall_congr'
    intro entry
    rw [not_and, beq_iff_eq, eq_comm]
  rw [lookup_characteristicsByName, Bool.eq_iff_iff, Option.isNone_iff_eq_none,
    List.getLast?_eq_none_iff, absent]
  simp

/-- Whether characteristics of one name have one identifier. -/
def IdentifiersFollowNames (catalog : Catalog) : Prop :=
  ∀ left ∈ catalog.characteristics, ∀ right ∈ catalog.characteristics,
    left.name = right.name → left.identifier = right.identifier

/-- Where identifiers follow names, sorting changes nothing in the table by names. -/
theorem lookup_characteristicsByName_sorted {catalog : Catalog}
    (follow : catalog.IdentifiersFollowNames) (name : String) :
    catalog.sorted.characteristicsByName.lookup name =
      catalog.characteristicsByName.lookup name := by
  have tied : ∀ left ∈ catalog.characteristics, ∀ right ∈ catalog.characteristics,
      (name == left.name) = true → (name == right.name) = true →
        left.sortKey = right.sortKey := by
    intro left inLeft right inRight leftName rightName
    have sameName : left.name = right.name :=
      (eq_of_beq leftName).symm.trans (eq_of_beq rightName)
    exact Prod.ext sameName (follow left inLeft right inRight sameName)
  rw [lookup_characteristicsByName, lookup_characteristicsByName]
  exact congrArg List.getLast? (filter_mergeSort tied)

/-! ## Identifiers -/

/-- Whether no two services and no two characteristics have one identifier. -/
structure HasDistinctIdentifiers (catalog : Catalog) : Prop where
  services : (catalog.services.map Service.identifier).Nodup
  characteristics : (catalog.characteristics.map Characteristic.identifier).Nodup

instance (catalog : Catalog) : Decidable catalog.HasDistinctIdentifiers :=
  decidable_of_iff
    ((catalog.services.map Service.identifier).Nodup ∧
      (catalog.characteristics.map Characteristic.identifier).Nodup)
    ⟨fun ⟨services, characteristics⟩ => ⟨services, characteristics⟩,
      fun distinct => ⟨distinct.services, distinct.characteristics⟩⟩

theorem HasDistinctIdentifiers.nodup_sortedServices {catalog : Catalog}
    (distinct : catalog.HasDistinctIdentifiers) :
    (catalog.sortedServices.map Service.identifier).Nodup :=
  ((List.mergeSort_perm _ _).map _).nodup_iff.mpr distinct.services

theorem HasDistinctIdentifiers.nodup_sortedCharacteristics {catalog : Catalog}
    (distinct : catalog.HasDistinctIdentifiers) :
    (catalog.sortedCharacteristics.map Characteristic.identifier).Nodup :=
  ((List.mergeSort_perm _ _).map _).nodup_iff.mpr distinct.characteristics

/-- Sorting moves identifiers about and changes none. -/
theorem hasDistinctIdentifiers_iff {catalog : Catalog} :
    catalog.HasDistinctIdentifiers ↔
      (catalog.sortedServices.map Service.identifier).Nodup ∧
        (catalog.sortedCharacteristics.map Characteristic.identifier).Nodup := by
  constructor
  · exact fun distinct => ⟨distinct.nodup_sortedServices, distinct.nodup_sortedCharacteristics⟩
  · intro ⟨services, characteristics⟩
    constructor
    · exact ((List.mergeSort_perm _ _).map _).nodup_iff.mp services
    · exact ((List.mergeSort_perm _ _).map _).nodup_iff.mp characteristics

end Catalog

end HomeCatalog
