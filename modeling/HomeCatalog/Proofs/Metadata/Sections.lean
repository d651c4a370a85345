import HomeCatalog.Proofs.Metadata.LetterCase
import HomeCatalog.Proofs.Metadata.Loading
import HomeCatalog.Proofs.Reconciliation.Staging

/-!
# What the sections of a document say

Several records may claim one identifier, and several may state a format for one name.  The last
one in the order of the document counts, whatever the records before it say.  Every valid record of
a service states one relationship, with the names that its identifiers lead to.
-/

namespace HomeCatalog.Metadata

open Document
open Reconciliation (IsSelection isSelection_distinctNames)

/-! ## Names and formats -/

/-- Whether a record claims an identifier: as its key, its short or its long identifier, in any
letter case. -/
def Claims (entry : Scalar × CharacteristicRecord) (identifier : Text.Wide) : Prop :=
  entry.1.written?.map foldedId = some identifier ∨
    entry.2.shortId.map foldedId = some identifier ∨
    entry.2.longId.map foldedId = some identifier

instance (entry : Scalar × CharacteristicRecord) (identifier : Text.Wide) :
    Decidable (Claims entry identifier) :=
  inferInstanceAs (Decidable (_ ∨ _ ∨ _))

variable (records : List (Scalar × CharacteristicRecord))

/-- The canonical name of the last record that claims an identifier. -/
def nameOf? (identifier : Text.Wide) : Option String :=
  records.reverse.findSome? fun entry =>
    if Claims entry identifier then some (canonicalNameOf entry.2.description) else none

/-- The format of the last record of a name that states one, in lower case. -/
def formatOf? (name : String) : Option Text.Wide :=
  records.reverse.findSome? fun entry =>
    if canonicalNameOf entry.2.description = name then entry.2.format.map Text.Wide.lower else none

/-- The names that identifiers lead to, as long as a record claims them. -/
def namesOf (identifiers : List Text.Wide) : List String :=
  identifiers.filterMap fun identifier => nameOf? records (foldedId identifier)

/-! ## What a document says -/

/-- The valid records of a section of services. -/
def validServices (services : List (Scalar × Value)) : List ServiceRecord :=
  services.filterMap fun entry => ServiceRecord.ofValue? entry.2

/-- Whether a relationship is the one that a service record states: with the names that its
identifiers lead to, each once and in the order in which they first occur. -/
structure IsStatedBy (record : ServiceRecord) (relationship : Relationship) : Prop where
  serviceName : relationship.serviceName = canonicalNameOf record.description
  description : relationship.description = record.description
  required : IsSelection (namesOf records record.required) (· ≠ "") relationship.required
  optional : IsSelection (namesOf records record.optional) (· ≠ "") relationship.optional

/-- Whether relationships are what two sections say. -/
structure AreSaidBy (services characteristics : List (Scalar × Value))
    (said : Relationships) : Prop where
  services : List.Forall₂ (IsStatedBy (validRecords characteristics)) (validServices services)
    said.services
  aliases : Entries.IsTableOf (nameOf? (validRecords characteristics)) said.aliases
  formats : Entries.IsTableOf (formatOf? (validRecords characteristics)) said.formats

/-! ## Records with their keys in writing -/

/-- Whether an entry is a valid record with its key in writing. -/
def IsKeyed (entry : Scalar × CharacteristicRecord) (keyed : KeyedRecord) : Prop :=
  entry.1.written? = some keyed.key ∧ entry.2 = keyed.record

theorem forall₂_of_mapM_eq_ok {ε α β : Type} {read : α → Except ε β} {values : List α}
    {images : List β} (done : values.mapM read = .ok images) :
    List.Forall₂ (fun value image => read value = .ok image) values images := by
  induction values generalizing images with
  | nil =>
      cases done
      exact .nil
  | cons value rest ih =>
      rw [List.mapM_cons] at done
      cases first : read value with
      | error reason =>
          rw [first] at done
          cases done
      | ok image =>
          cases later : rest.mapM read with
          | error reason =>
              rw [first, later] at done
              cases done
          | ok others =>
              rw [first, later] at done
              cases done
              exact .cons first (ih later)

theorem forall₂_keyedRecords {characteristics : List (Scalar × Value)}
    {keyed : List KeyedRecord} (read : keyedRecords characteristics = .ok keyed) :
    List.Forall₂ IsKeyed (validRecords characteristics) keyed := by
  rw [keyedRecords] at read
  refine (forall₂_of_mapM_eq_ok read).imp ?_
  rintro ⟨key, record⟩ entry made
  dsimp only at made
  split at made
  · next written =>
      cases made
      exact ⟨written, rfl⟩
  · cases made

theorem findSome?_eq_of_forall₂ {α β γ : Type} {R : α → β → Prop} {image : α → Option γ}
    {image' : β → Option γ} (same : ∀ one other, R one other → image one = image' other)
    {left : List α} {right : List β} (related : List.Forall₂ R left right) :
    left.findSome? image = right.findSome? image' := by
  induction related with
  | nil => rfl
  | cons first _ ih => rw [List.findSome?_cons, List.findSome?_cons, same _ _ first, ih]

theorem mem_claimedIds_iff {entry : Scalar × CharacteristicRecord} {keyed : KeyedRecord}
    (isKeyed : IsKeyed entry keyed) {identifier : Text.Wide} :
    identifier ∈ keyed.claimedIds ↔ Claims entry identifier := by
  obtain ⟨written, record⟩ := isKeyed
  rw [Claims, written, record, KeyedRecord.claimedIds]
  simp only [List.map_append, List.mem_append, List.map_singleton, List.mem_singleton,
    ← Option.toList_map, Option.mem_toList, Option.map_some, Option.some.injEq]
  rw [eq_comm (a := identifier)]
  tauto

/-! ## The tables -/

variable {records} {keyed : List KeyedRecord}

theorem lookup_aliasesOf (related : List.Forall₂ IsKeyed records keyed)
    (identifier : Text.Wide) :
    (aliasesOf keyed).lookup identifier = nameOf? records identifier := by
  rw [aliasesOf, Entries.lookup_ofPairs_flatMap, nameOf?, eq_comm]
  refine findSome?_eq_of_forall₂ ?_ (List.forall₂_reverse_iff.mpr related)
  intro entry other isKeyed
  rw [← List.map_reverse, Entries.lookup_map_const, KeyedRecord.name, isKeyed.2]
  exact if_congr (by rw [List.mem_reverse, mem_claimedIds_iff isKeyed]) rfl rfl

theorem lookup_formatsOf (related : List.Forall₂ IsKeyed records keyed) (name : String) :
    (formatsOf keyed).lookup name = formatOf? records name := by
  rw [formatsOf, List.filterMap_eq_flatMap_toList, Entries.lookup_ofPairs_flatMap, formatOf?,
    eq_comm]
  refine findSome?_eq_of_forall₂ ?_ (List.forall₂_reverse_iff.mpr related)
  intro entry other isKeyed
  rw [isKeyed.2]
  cases other.record.format with
  | none => simp
  | some format =>
      by_cases named : canonicalNameOf other.record.description = name
      · simp [KeyedRecord.name, named]
      · have apart : (name == canonicalNameOf other.record.description) = false :=
          beq_eq_false_iff_ne.mpr fun same => named same.symm
        simp [KeyedRecord.name, named, List.lookup_cons, apart]

theorem isSelection_resolveIds (related : List.Forall₂ IsKeyed records keyed)
    (identifiers : List Text.Wide) :
    IsSelection (namesOf records identifiers) (· ≠ "")
      (resolveIds (aliasesOf keyed) identifiers) := by
  have selection : IsSelection (namesOf records identifiers) (· ≠ "")
      (distinctNames ((namesOf records identifiers).filter fun _ => true)) :=
    isSelection_distinctNames (by simp)
  rw [List.filter_eq_self.mpr (by simp)] at selection
  simp only [resolveIds, lookup_aliasesOf related]
  exact selection

theorem areSaidBy_ofRecords {services characteristics : List (Scalar × Value)}
    (read : keyedRecords characteristics = .ok keyed) :
    AreSaidBy services characteristics (Relationships.ofRecords services keyed) := by
  have related := forall₂_keyedRecords read
  constructor
  case services =>
    rw [Relationships.ofRecords, List.forall₂_map_right_iff, validServices, List.forall₂_same]
    intro record _
    exact ⟨rfl, rfl, isSelection_resolveIds related record.required,
      isSelection_resolveIds related record.optional⟩
  case aliases => exact Entries.isTableOf_ofPairs (lookup_aliasesOf related)
  case formats => exact Entries.isTableOf_ofPairs (lookup_formatsOf related)

/-- Sections are read exactly if no valid record of a characteristic has a key that is too long.
What is read then is what they say, in whatever letter case their identifiers are written. -/
theorem areSaidBy_ofSections_iff (services characteristics : List (Scalar × Value)) :
    (∃ said, Relationships.ofSections services characteristics = .ok said ∧
        AreSaidBy services characteristics said ∧
        ∀ others otherCharacteristics, SameSection SameService services others →
          SameSection SameCharacteristic characteristics otherCharacteristics →
          Relationships.ofSections others otherCharacteristics = .ok said) ↔
      ∀ entry ∈ validRecords characteristics, ¬IsTooLong entry.1 := by
  rcases keyedRecords_cases characteristics with ⟨keyed, read, short⟩ | ⟨broken, entry, valid, long⟩
  · have done : Relationships.ofSections services characteristics =
        .ok (Relationships.ofRecords services keyed) := by
      rw [Relationships.ofSections, read]
      rfl
    refine iff_of_true ⟨_, done, areSaidBy_ofRecords read, ?_⟩ short
    intro others otherCharacteristics sameServices sameCharacteristics
    rw [← ofSections_congr sameServices sameCharacteristics, done]
  · refine iff_of_false ?_ fun short => short entry valid long
    rintro ⟨said, done, _⟩
    rw [Relationships.ofSections, broken] at done
    cases done

/-- A section with one service, which requires one characteristic. -/
def fanSection : List (Scalar × Value) :=
  [(.text (.ofString "fan"), .mapping [
    (.text (.ofString "DefaultDescription"), .scalar (.text (.ofString "Fan"))),
    (.text (.ofString "Characteristics"), .mapping
      [(.text (.ofString "Required"), .list [.scalar (.text (.ofString "B0"))])])])]

/-- A section with this characteristic, whose record has an integer of 4301 digits for its key. -/
def longKeySection : List (Scalar × Value) :=
  [(.integer (.ofNat (Nat.pow 10 4300)), .mapping [
    (.text (.ofString "DefaultDescription"), .scalar (.text (.ofString "Active"))),
    (.text (.ofString "ShortUUID"), .scalar (.text (.ofString "B0")))])]

/-- The record of the service is valid and requires an identifier that a valid record claims, but
the long key of that record keeps all relationships from being read. -/
theorem ofSections_longKeySection :
    validServices fanSection = [⟨.ofString "Fan", [.ofString "B0"], []⟩] ∧
    nameOf? (validRecords longKeySection) (.ofString "B0") = some "Active" ∧
    ¬∃ said, Relationships.ofSections fanSection longKeySection = .ok said := by
  have service : validServices fanSection = [⟨.ofString "Fan", [.ofString "B0"], []⟩] := by
    decide +kernel
  have claimed : nameOf? (validRecords longKeySection) (.ofString "B0") = some "Active" := by
    decide +kernel
  have broken : Relationships.ofSections fanSection longKeySection = .error .integerTooLong := by
    decide +kernel
  refine ⟨service, claimed, ?_⟩
  rw [broken]
  exact nofun

end HomeCatalog.Metadata
