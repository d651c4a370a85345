import HomeCatalog.Metadata.Relationships
import HomeCatalog.Proofs.Entries

/-!
# The order of records in a metadata document

Records of characteristics are entered into tables one after the other, and a later record takes the
place of an earlier one.  Where no two records contradict each other, their order shows only in the
order of the tables: every look-up gives the same answer.
-/

namespace HomeCatalog.Metadata

open Document

/-! ## Results up to order -/

/-- Whether two attempts to make a list fail alike, or make lists of the same values. -/
inductive SameUpToOrder {ε α : Type} : Except ε (List α) → Except ε (List α) → Prop where
  | error (problem : ε) : SameUpToOrder (.error problem) (.error problem)
  | ok {left right : List α} (perm : left.Perm right) : SameUpToOrder (.ok left) (.ok right)

namespace SameUpToOrder

variable {ε α β : Type}

theorem refl (result : Except ε (List α)) : SameUpToOrder result result := by
  cases result with
  | error problem => exact .error problem
  | ok values => exact .ok (.refl values)

theorem trans {first second third : Except ε (List α)} (before : SameUpToOrder first second)
    (after : SameUpToOrder second third) : SameUpToOrder first third := by
  cases before with
  | error problem => exact after
  | ok perm =>
      cases after with
      | ok perm' => exact .ok (perm.trans perm')

/-- Changing values one by one, the order does not matter if there is only one way to fail. -/
theorem mapM {change : α → Except ε β} (problem : ε)
    (only : ∀ value reason, change value = .error reason → reason = problem)
    {left right : List α} (perm : left.Perm right) :
    SameUpToOrder (left.mapM change) (right.mapM change) := by
  induction perm with
  | nil => exact refl _
  | @cons value lefts rights _ ih =>
      rw [List.mapM_cons, List.mapM_cons]
      cases change value with
      | error reason => exact .error reason
      | ok image =>
          generalize lefts.mapM change = before at ih ⊢
          generalize rights.mapM change = after at ih ⊢
          cases ih with
          | error reason => exact .error reason
          | ok perm => exact .ok (perm.cons image)
  | swap first second rest =>
      simp only [List.mapM_cons]
      cases firstResult : change first with
      | error reason =>
          cases secondResult : change second with
          | error other =>
              rw [only _ _ firstResult, only _ _ secondResult]
              exact .error problem
          | ok image => exact .error reason
      | ok image =>
          cases change second with
          | error reason => exact .error reason
          | ok other =>
              cases rest.mapM change with
              | error reason => exact .error reason
              | ok images => exact .ok (.swap image other images)
  | trans _ _ before after => exact before.trans after

end SameUpToOrder

/-! ## Records of characteristics -/

/-- Whether no two records of characteristics contradict each other: none claim one identifier under
different names, or state different formats for one name. -/
structure AreUnambiguous (records : List KeyedRecord) : Prop where
  names : ∀ left ∈ records, ∀ right ∈ records,
    ∀ identifier ∈ left.claimedIds, identifier ∈ right.claimedIds → left.name = right.name
  formats : ∀ left ∈ records, ∀ right ∈ records, left.name = right.name →
    ∀ one ∈ left.record.format, ∀ other ∈ right.record.format, one.lower = other.lower

instance (records : List KeyedRecord) : Decidable (AreUnambiguous records) :=
  decidable_of_iff
    ((∀ left ∈ records, ∀ right ∈ records,
        ∀ identifier ∈ left.claimedIds, identifier ∈ right.claimedIds → left.name = right.name) ∧
      ∀ left ∈ records, ∀ right ∈ records, left.name = right.name →
        ∀ one ∈ left.record.format, ∀ other ∈ right.record.format, one.lower = other.lower)
    ⟨fun ⟨names, formats⟩ => ⟨names, formats⟩,
      fun unambiguous => ⟨unambiguous.names, unambiguous.formats⟩⟩

/-- Records in another order have the same keys in writing, or one of them has none. -/
theorem keyedRecords_perm {left right : List (Scalar × Value)} (perm : left.Perm right) :
    SameUpToOrder (keyedRecords left) (keyedRecords right) := by
  refine SameUpToOrder.mapM .integerTooLong ?_ (perm.filterMap _)
  rintro ⟨key, record⟩ reason failed
  cases written : key.written? with
  | some text =>
      simp only [written] at failed
      cases failed
  | none =>
      simp only [written] at failed
      cases failed
      rfl

variable {left right : List KeyedRecord}

theorem AreUnambiguous.consistent_aliases (unambiguous : AreUnambiguous left) :
    Entries.AreConsistent (left.flatMap fun entry =>
      entry.claimedIds.map fun identifier => (identifier, entry.name)) := by
  intro one inOne other inOther same
  obtain ⟨first, inFirst, claimed⟩ := List.mem_flatMap.mp inOne
  obtain ⟨second, inSecond, claimed'⟩ := List.mem_flatMap.mp inOther
  obtain ⟨identifier, byFirst, rfl⟩ := List.mem_map.mp claimed
  obtain ⟨identifier', bySecond, rfl⟩ := List.mem_map.mp claimed'
  obtain rfl : identifier = identifier' := same
  exact unambiguous.names first inFirst second inSecond identifier byFirst bySecond

theorem AreUnambiguous.consistent_formats (unambiguous : AreUnambiguous left) :
    Entries.AreConsistent (left.filterMap fun entry =>
      entry.record.format.map fun format => (entry.name, format.lower)) := by
  intro one inOne other inOther same
  obtain ⟨first, inFirst, stated⟩ := List.mem_filterMap.mp inOne
  obtain ⟨second, inSecond, stated'⟩ := List.mem_filterMap.mp inOther
  obtain ⟨format, ofFirst, rfl⟩ := Option.map_eq_some_iff.mp stated
  obtain ⟨format', ofSecond, rfl⟩ := Option.map_eq_some_iff.mp stated'
  exact unambiguous.formats first inFirst second inSecond same format ofFirst format' ofSecond

/-- Identifiers lead to the same names in whatever order the records stand. -/
theorem AreUnambiguous.lookup_aliasesOf (unambiguous : AreUnambiguous left)
    (perm : left.Perm right) (identifier : Text.Wide) :
    (aliasesOf left).lookup identifier = (aliasesOf right).lookup identifier :=
  unambiguous.consistent_aliases.lookup_ofPairs_eq_of_perm (perm.flatMap_right _) identifier

/-- Names have the same formats in whatever order the records stand. -/
theorem AreUnambiguous.lookup_formatsOf (unambiguous : AreUnambiguous left)
    (perm : left.Perm right) (name : String) :
    (formatsOf left).lookup name = (formatsOf right).lookup name :=
  unambiguous.consistent_formats.lookup_ofPairs_eq_of_perm (perm.filterMap _) name

theorem keys_formatsOf_perm (perm : left.Perm right) :
    ((formatsOf left).map Prod.fst).Perm ((formatsOf right).map Prod.fst) := by
  rw [formatsOf, formatsOf,
    List.perm_ext_iff_of_nodup (Entries.nodup_keys_ofPairs _) (Entries.nodup_keys_ofPairs _)]
  intro name
  rw [Entries.mem_keys_ofPairs, Entries.mem_keys_ofPairs]
  exact ((perm.filterMap _).map Prod.fst).mem_iff

/-! ## Relationships -/

/-- Whether what two documents say differs only in its order. -/
structure Relationships.AgreesWith (left right : Relationships) : Prop where
  services : left.services.Perm right.services
  formats : ∀ name, left.formats.lookup name = right.formats.lookup name
  formatNames : (left.formats.map Prod.fst).Perm (right.formats.map Prod.fst)

/-- What a record of a service states depends only on which names identifiers lead to. -/
theorem relationshipOf_congr {aliases others : List (Text.Wide × String)}
    (same : ∀ identifier, aliases.lookup identifier = others.lookup identifier)
    (record : ServiceRecord) : relationshipOf aliases record = relationshipOf others record := by
  simp only [relationshipOf, resolveIds, same]

/-- The canonical names of the valid records in a section of services. -/
def serviceNames (services : List (Scalar × Value)) : List String :=
  (services.filterMap fun entry => ServiceRecord.ofValue? entry.2).map fun record =>
    canonicalNameOf record.description

@[simp] theorem serviceNames_ofRecords (services : List (Scalar × Value))
    (records : List KeyedRecord) :
    (Relationships.ofRecords services records).services.map Relationship.serviceName =
      serviceNames services := by
  rw [Relationships.ofRecords, List.map_map]
  rfl

theorem AreUnambiguous.agreesWith (unambiguous : AreUnambiguous left) (perm : left.Perm right)
    {services others : List (Scalar × Value)} (sameServices : services.Perm others) :
    (Relationships.ofRecords services left).AgreesWith
      (Relationships.ofRecords others right) := by
  refine ⟨?_, unambiguous.lookup_formatsOf perm, keys_formatsOf_perm perm⟩
  have same : relationshipOf (aliasesOf left) = relationshipOf (aliasesOf right) :=
    funext (relationshipOf_congr (unambiguous.lookup_aliasesOf perm))
  simp only [Relationships.ofRecords, same]
  exact (sameServices.filterMap _).map _

end HomeCatalog.Metadata
