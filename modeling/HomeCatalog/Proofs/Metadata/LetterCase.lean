import HomeCatalog.Metadata.Relationships
import HomeCatalog.Proofs.Entries
import Mathlib.Data.List.Forall2
import Mathlib.Data.Option.Basic

/-!
# The letter case of identifiers

Identifiers stand in five places of a metadata document.  A record of a characteristic has one for
its key, a short one and a long one, and the two lists of a service record are made up of them.  A
document whose identifiers are written in another letter case says the same.
-/

namespace HomeCatalog.Metadata

open Document

/-! ## Documents that differ in letter case -/

/-- Whether two values are the same, or texts that differ in letter case only. -/
inductive SameId : Value → Value → Prop where
  | refl (value : Value) : SameId value value
  | text {left right : Text.Wide} (same : foldedId left = foldedId right) :
      SameId (.scalar (.text left)) (.scalar (.text right))

/-- Whether two values are the same, or lists of identifiers that differ in letter case only. -/
inductive SameIds : Value → Value → Prop where
  | refl (value : Value) : SameIds value value
  | list {left right : List Value} (items : List.Forall₂ SameId left right) :
      SameIds (.list left) (.list right)

/-- Whether two fields have one key and values that are alike.  Under a key that is none of `names`
they have one value. -/
structure SameField (names : List String) (alike : Value → Value → Prop)
    (left right : Scalar × Value) : Prop where
  key : left.1 = right.1
  alike : alike left.2 right.2
  value : left.2 = right.2 ∨ ∃ name ∈ names, left.1 = .text (.ofString name)

/-- Whether two values are the same, or mappings with the same fields but for those under `names`,
whose values are alike. -/
inductive SameFields (names : List String) (alike : Value → Value → Prop) :
    Value → Value → Prop where
  | refl (value : Value) : SameFields names alike value value
  | mapping {left right : List (Scalar × Value)}
      (fields : List.Forall₂ (SameField names alike) left right) :
      SameFields names alike (.mapping left) (.mapping right)

/-- Whether two values differ at most in the letter case of a characteristic's identifiers. -/
def SameCharacteristic : Value → Value → Prop :=
  SameFields ["ShortUUID", "short_uuid", "UUID", "uuid"] SameId

/-- Whether two values differ at most in the letter case of the identifiers that a service lists. -/
def SameService : Value → Value → Prop :=
  SameFields ["Characteristics", "characteristics"]
    (SameFields ["Required", "required", "Optional", "optional"] SameIds)

/-- Whether two sections have records that are alike under keys that differ at most in letter
case. -/
def SameSection (alike : Value → Value → Prop) (left right : List (Scalar × Value)) : Prop :=
  List.Forall₂ (fun one other => SameId (.scalar one.1) (.scalar other.1) ∧ alike one.2 other.2)
    left right

/-! ## Fields -/

theorem ofString_injective : Function.Injective Text.Wide.ofString := by
  intro left right same
  have plain := congrArg Text.Wide.plain same
  rw [Text.Wide.ofString, Text.Wide.ofString, Text.Wide.plain_ofList,
    Text.Wide.plain_ofList] at plain
  exact String.toList_inj.mp plain

variable {names : List String} {alike : Value → Value → Prop} {left right : List (Scalar × Value)}

/-- Fields of one name have values that are alike. -/
theorem rel_valueField? (fields : List.Forall₂ (SameField names alike) left right)
    (name : String) : Option.Rel alike (Value.field? name left) (Value.field? name right) := by
  induction fields with
  | nil => exact .none
  | @cons one other lefts rights first _ ih =>
      obtain ⟨key, value⟩ := one
      obtain ⟨_, value'⟩ := other
      obtain rfl := first.key
      cases key with
      | text title =>
          rw [Value.field?, Value.field?]
          split
          · exact .some first.alike
          · exact ih
      | _ => exact ih

/-- Fields of a name that is none of the listed ones have one value. -/
theorem valueField?_eq (fields : List.Forall₂ (SameField names alike) left right) {name : String}
    (other : name ∉ names) : Value.field? name left = Value.field? name right := by
  induction fields with
  | nil => rfl
  | @cons one other lefts rights first _ ih =>
      obtain ⟨key, value⟩ := one
      obtain ⟨_, value'⟩ := other
      obtain rfl := first.key
      cases key with
      | text title =>
          rw [Value.field?, Value.field?, ih]
          split
          · next named =>
              rcases first.value with same | ⟨listed, member, titled⟩
              · exact congrArg some same
              · have equal : Text.Wide.ofString name = Text.Wide.ofString listed :=
                  named.symm.trans (Scalar.text.inj titled)
                exact absurd (ofString_injective equal ▸ member) other
          · rfl
      | _ => exact ih

theorem rel_field? (fields : List.Forall₂ (SameField names alike) left right)
    (name plain : String) :
    Option.Rel alike (field? left name plain) (field? right name plain) := by
  have first := rel_valueField? fields name
  rw [field?, field?]
  generalize Value.field? name left = one at first ⊢
  generalize Value.field? name right = other at first ⊢
  cases first with
  | some alike => exact .some alike
  | none => exact rel_valueField? fields plain

theorem field?_eq (fields : List.Forall₂ (SameField names alike) left right)
    {name plain : String} (other : name ∉ names) (otherPlain : plain ∉ names) :
    field? left name plain = field? right name plain := by
  rw [field?, field?, valueField?_eq fields other, valueField?_eq fields otherPlain]

/-- Records with one value under the keys of a description are described alike. -/
theorem description?_eq (fields : List.Forall₂ (SameField names alike) left right)
    (other : "DefaultDescription" ∉ names) (otherPlain : "default_description" ∉ names) :
    description? left = description? right := by
  rw [description?, description?, field?_eq fields other otherPlain]

/-! ## Records -/

/-- Values with one image are both there or both absent. -/
theorem rel_of_map_eq {α β : Type} {image : α → β} {one other : Option α}
    (same : one.map image = other.map image) :
    Option.Rel (fun left right => image left = image right) one other := by
  cases one with
  | none =>
      rw [Option.map_none, eq_comm, Option.map_eq_none_iff] at same
      rw [same]
      exact .none
  | some left =>
      rw [Option.map_some, eq_comm, Option.map_eq_some_iff] at same
      obtain ⟨right, rfl, equal⟩ := same
      exact .some equal.symm

/-- A record with its identifiers in the letter case in which they are compared. -/
def CharacteristicRecord.folded (record : CharacteristicRecord) : CharacteristicRecord :=
  { record with
    shortId := record.shortId.map foldedId
    longId := record.longId.map foldedId }

/-- A record with its identifiers in the letter case in which they are compared. -/
def ServiceRecord.folded (record : ServiceRecord) : ServiceRecord :=
  { record with
    required := record.required.map foldedId
    optional := record.optional.map foldedId }

/-- Values that are alike are read as the same identifier. -/
theorem map_foldedId_textOrNone {one other : Option Value} (same : Option.Rel SameId one other) :
    (one.bind textOrNone).map foldedId = (other.bind textOrNone).map foldedId := by
  cases same with
  | none => rfl
  | some same =>
      cases same with
      | refl value => rfl
      | text same => exact congrArg some same

theorem folded_characteristic {one other : Value} (same : SameCharacteristic one other) :
    (CharacteristicRecord.ofValue? one).map CharacteristicRecord.folded =
      (CharacteristicRecord.ofValue? other).map CharacteristicRecord.folded := by
  cases same with
  | refl value => rfl
  | @mapping left right fields =>
      have described := description?_eq fields (by decide) (by decide)
      have formatted : field? left "Format" "format" = field? right "Format" "format" :=
        field?_eq fields (by decide) (by decide)
      have short := map_foldedId_textOrNone (rel_field? fields "ShortUUID" "short_uuid")
      have long := map_foldedId_textOrNone (rel_field? fields "UUID" "uuid")
      simp only [CharacteristicRecord.ofValue?, Value.entries?, Option.bind_eq_bind,
        Option.bind_some, described, formatted]
      cases description? right with
      | none => rfl
      | some description =>
          simp only [Option.bind_some, Option.map_some, CharacteristicRecord.folded, short, long]

/-! ## Lists that correspond -/

section

variable {α β γ : Type} {R : α → α → Prop} {left right : List α}

theorem filterMap_eq_of_forall₂ {image : α → Option β}
    (same : ∀ one other, R one other → image one = image other)
    (related : List.Forall₂ R left right) : left.filterMap image = right.filterMap image := by
  induction related with
  | nil => rfl
  | cons first _ ih => rw [List.filterMap_cons, List.filterMap_cons, same _ _ first, ih]

variable {m : Type → Type} [Monad m] [LawfulMonad m]

/-- Reading what is selected from two lists comes to the same if it does entry by entry. -/
theorem mapM_filterMap_eq_of_forall₂ {select : α → Option β} {read : β → m γ}
    (same : ∀ one other, R one other → (select one).map read = (select other).map read)
    (related : List.Forall₂ R left right) :
    (left.filterMap select).mapM read = (right.filterMap select).mapM read := by
  have actions := filterMap_eq_of_forall₂ same related
  rw [← List.map_filterMap, ← List.map_filterMap] at actions
  have run := congrArg (List.mapM id) actions
  rwa [List.mapM_map, List.mapM_map] at run

theorem map_mapM (read : α → m β) (image : β → γ) (values : List α) :
    List.map image <$> values.mapM read = values.mapM fun value => image <$> read value := by
  induction values with
  | nil => simp
  | cons value rest ih => simp [← ih]

end

/-- Lists of identifiers that are alike are read as the same identifiers. -/
theorem map_foldedId_identifierList? {one other : Value} (same : SameIds one other) :
    (identifierList? one).map (List.map foldedId) =
      (identifierList? other).map (List.map foldedId) := by
  cases same with
  | refl value => rfl
  | list items =>
      simp only [identifierList?, ← Option.map_eq_map, map_mapM, ← List.filterMap_eq_filter]
      refine mapM_filterMap_eq_of_forall₂ ?_ items
      intro item other same
      cases same with
      | refl value => rfl
      | text same => exact congrArg (some ∘ some) same

/-- Fields that are alike are read as the same identifiers. -/
theorem map_foldedId_field {one other : Option Value} (same : Option.Rel SameIds one other) :
    ((one.map identifierList?).getD (some [])).map (List.map foldedId) =
      ((other.map identifierList?).getD (some [])).map (List.map foldedId) := by
  cases same with
  | none => rfl
  | some same => exact map_foldedId_identifierList? same

theorem folded_service {one other : Value} (same : SameService one other) :
    (ServiceRecord.ofValue? one).map ServiceRecord.folded =
      (ServiceRecord.ofValue? other).map ServiceRecord.folded := by
  cases same with
  | refl value => rfl
  | @mapping left right fields =>
      have described := description?_eq fields (by decide) (by decide)
      have blocks := rel_field? fields "Characteristics" "characteristics"
      simp only [ServiceRecord.ofValue?, Value.entries?, Option.bind_eq_bind, Option.bind_some,
        described]
      cases description? right with
      | none => rfl
      | some description =>
          generalize field? left "Characteristics" "characteristics" = block at blocks ⊢
          generalize field? right "Characteristics" "characteristics" = otherBlock at blocks ⊢
          cases blocks with
          | none => rfl
          | some same =>
              cases same with
              | refl value => rfl
              | mapping lists =>
                  have required := map_foldedId_field (rel_field? lists "Required" "required")
                  have optional := map_foldedId_field (rel_field? lists "Optional" "optional")
                  -- What is made of the two lists depends only on their folded identifiers.
                  have folded : ∀ required optional : Option (List Text.Wide),
                      (required.bind fun required => optional.bind fun optional =>
                          some (ServiceRecord.mk description required optional)).map
                            ServiceRecord.folded =
                        (required.map (List.map foldedId)).bind fun required =>
                          (optional.map (List.map foldedId)).map fun optional =>
                            ServiceRecord.mk description required optional := by
                    intro required optional
                    cases required <;> cases optional <;> rfl
                  simp only [Option.bind_some]
                  rw [folded, folded, required, optional]

/-! ## Sections -/

/-- What a record of a characteristic says: the identifiers that it claims, its name and its
format. -/
def KeyedRecord.statement (entry : KeyedRecord) : List Text.Wide × String × Option Text.Wide :=
  (entry.claimedIds, entry.name, entry.record.format)

theorem aliasesOf_congr {records others : List KeyedRecord}
    (same : records.map KeyedRecord.statement = others.map KeyedRecord.statement) :
    aliasesOf records = aliasesOf others := by
  have pairs := congrArg (List.flatMap fun statement : List Text.Wide × String × Option Text.Wide =>
    statement.1.map fun identifier => (identifier, statement.2.1)) same
  rw [List.flatMap_map, List.flatMap_map] at pairs
  exact congrArg Entries.ofPairs pairs

theorem formatsOf_congr {records others : List KeyedRecord}
    (same : records.map KeyedRecord.statement = others.map KeyedRecord.statement) :
    formatsOf records = formatsOf others := by
  have pairs := congrArg (List.filterMap
    fun statement : List Text.Wide × String × Option Text.Wide =>
      statement.2.2.map fun format => (statement.2.1, format.lower)) same
  rw [List.filterMap_map, List.filterMap_map] at pairs
  exact congrArg Entries.ofPairs pairs

theorem resolveIds_congr (aliases : List (Text.Wide × String)) {identifiers others : List Text.Wide}
    (same : identifiers.map foldedId = others.map foldedId) :
    resolveIds aliases identifiers = resolveIds aliases others := by
  have found := congrArg (List.filterMap fun identifier => aliases.lookup identifier) same
  rw [List.filterMap_map, List.filterMap_map] at found
  exact congrArg distinctNames found

/-- What a service record states depends only on its folded identifiers. -/
theorem relationshipOf_congr_folded (aliases : List (Text.Wide × String))
    {record other : ServiceRecord} (same : record.folded = other.folded) :
    relationshipOf aliases record = relationshipOf aliases other := by
  obtain ⟨described, required, optional⟩ := ServiceRecord.mk.inj same
  rw [relationshipOf, relationshipOf, described, resolveIds_congr aliases required,
    resolveIds_congr aliases optional]

theorem statement_congr {key otherKey : Text.Wide} {record other : CharacteristicRecord}
    (sameKey : foldedId key = foldedId otherKey) (same : record.folded = other.folded) :
    KeyedRecord.statement ⟨key, record⟩ = KeyedRecord.statement ⟨otherKey, other⟩ := by
  obtain ⟨described, short, long, formatted⟩ := CharacteristicRecord.mk.inj same
  simp only [KeyedRecord.statement, KeyedRecord.claimedIds, KeyedRecord.name, List.map_append,
    List.map_singleton, ← Option.toList_map, sameKey, described, short, long, formatted]

theorem map_foldedId_written? {key other : Scalar} (same : SameId (.scalar key) (.scalar other)) :
    key.written?.map foldedId = other.written?.map foldedId := by
  cases same with
  | refl => rfl
  | text same => exact congrArg some same

/-- The letter case of identifiers does not matter to what the records of characteristics say. -/
theorem map_statement_keyedRecords {left right : List (Scalar × Value)}
    (same : SameSection SameCharacteristic left right) :
    List.map KeyedRecord.statement <$> keyedRecords left =
      List.map KeyedRecord.statement <$> keyedRecords right := by
  rw [keyedRecords, keyedRecords, map_mapM, map_mapM, validRecords, validRecords]
  refine mapM_filterMap_eq_of_forall₂ ?_ same
  rintro ⟨key, value⟩ ⟨otherKey, otherValue⟩ ⟨sameKey, sameRecord⟩
  have records := rel_of_map_eq (folded_characteristic sameRecord)
  have keys := rel_of_map_eq (map_foldedId_written? sameKey)
  dsimp only
  generalize CharacteristicRecord.ofValue? value = valid at records ⊢
  generalize CharacteristicRecord.ofValue? otherValue = otherValid at records ⊢
  cases records with
  | none => rfl
  | some folded =>
      simp only [Option.map_some]
      generalize key.written? = written at keys ⊢
      generalize otherKey.written? = otherWritten at keys ⊢
      cases keys with
      | none => rfl
      | some sameText => exact congrArg (some ∘ Except.ok) (statement_congr sameText folded)

/-- Documents that differ at most in the letter case of their identifiers say the same. -/
theorem ofSections_congr {services others characteristics otherCharacteristics :
      List (Scalar × Value)}
    (sameServices : SameSection SameService services others)
    (sameCharacteristics : SameSection SameCharacteristic characteristics otherCharacteristics) :
    Relationships.ofSections services characteristics =
      Relationships.ofSections others otherCharacteristics := by
  have read := map_statement_keyedRecords sameCharacteristics
  have stated : ∀ aliases : List (Text.Wide × String),
      (services.filterMap fun entry => ServiceRecord.ofValue? entry.2).map
          (relationshipOf aliases) =
        (others.filterMap fun entry => ServiceRecord.ofValue? entry.2).map
          (relationshipOf aliases) := by
    intro aliases
    rw [List.map_filterMap, List.map_filterMap]
    refine filterMap_eq_of_forall₂ ?_ sameServices
    rintro ⟨_, value⟩ ⟨_, otherValue⟩ ⟨_, same⟩
    have records := rel_of_map_eq (folded_service same)
    dsimp only
    generalize ServiceRecord.ofValue? value = valid at records ⊢
    generalize ServiceRecord.ofValue? otherValue = otherValid at records ⊢
    cases records with
    | none => rfl
    | some folded => exact congrArg some (relationshipOf_congr_folded aliases folded)
  rw [Relationships.ofSections, Relationships.ofSections]
  cases left : keyedRecords characteristics with
  | error reason =>
      cases right : keyedRecords otherCharacteristics with
      | error other =>
          rw [left, right] at read
          exact congrArg Except.error (Except.error.inj read)
      | ok _ =>
          rw [left, right] at read
          cases read
  | ok records =>
      cases right : keyedRecords otherCharacteristics with
      | error _ =>
          rw [left, right] at read
          cases read
      | ok others =>
          rw [left, right] at read
          have statements := Except.ok.inj read
          simp only [Except.map, Relationships.ofRecords, aliasesOf_congr statements,
            formatsOf_congr statements, stated]

end HomeCatalog.Metadata
