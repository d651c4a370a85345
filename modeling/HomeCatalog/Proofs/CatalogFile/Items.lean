import HomeCatalog.Proofs.Catalog.Texts
import HomeCatalog.Proofs.CatalogFile.Writing

/-!
# What is read as an item of a list

An item stands on a trimmed line without a colon behind a dash.  So whatever file is read, the
references of its services are not empty, have no white space at their ends, and hold no colon.
-/

namespace HomeCatalog.CatalogFile

/-- Whether a name can be an item of a list: it is not empty, has no white space at its ends, and
holds no colon. -/
structure IsItem (name : String) : Prop where
  filled : name.toList ≠ []
  trimmed : Text.IsTrimmed name.toList
  colonless : ':' ∉ name.toList

instance (name : String) : Decidable (IsItem name) :=
  decidable_of_iff (name.toList ≠ [] ∧ Text.IsTrimmed name.toList ∧ ':' ∉ name.toList)
    ⟨fun ⟨filled, trimmed, colonless⟩ => ⟨filled, trimmed, colonless⟩,
      fun isItem => ⟨isItem.filled, isItem.trimmed, isItem.colonless⟩⟩

/-- A trimmed line says nothing else as an item than what can be one. -/
theorem isItem_of_lineContent {line : List Char} {value : String}
    (trimmed : Text.IsTrimmed line) (item : lineContent line = .item value) : IsItem value := by
  have colonless : ':' ∉ line := no_colon_of_item item
  rw [lineContent_of_no_colon colonless] at item
  split at item
  · next dashed =>
      rw [LineContent.item.injEq] at item
      subst item
      obtain ⟨rest, rfl⟩ := List.isPrefixOf_iff_prefix.mp dashed
      have after : List.drop 2 ("- ".toList ++ rest) = rest := rfl
      rw [after]
      have sublist := Text.strip_sublist rest
      constructor
      · rw [String.toList_ofList, ne_eq, Text.strip_eq_nil_iff]
        intro blank
        -- Were the item blank, so would be the end of the line.
        have ended := trimmed.solid_getLast (by simp)
        have blankEnd : ∀ c ∈ ' ' :: rest, Text.isBlank c = true := by
          simpa using ⟨by decide, blank⟩
        have last := blankEnd _ (List.getLast_mem (List.cons_ne_nil ' ' rest))
        simp [last] at ended
      · rw [String.toList_ofList]
        exact Text.isTrimmed_strip rest
      · rw [String.toList_ofList]
        exact fun member => colonless (List.mem_append_right _ (sublist.subset member))
  · cases item

/-! ## What a reader collects in lists -/

variable {holds : String → Prop}

/-- Whether something holds of all items in the lists of a record. -/
def Record.ItemsHold (holds : String → Prop) (record : Record) : Prop :=
  ∀ key, ∀ name ∈ record.items key, holds name

/-- Whether something holds of all references of the services in some contents. -/
def Contents.ReferencesHold (holds : String → Prop) (contents : Contents) : Prop :=
  ∀ name ∈ contents.catalog.references, holds name

theorem Record.itemsHold_empty : Record.empty.ItemsHold holds := by
  intro key name member
  cases member

theorem Record.ItemsHold.addItem {record : Record} (collected : record.ItemsHold holds)
    (key : String) {name : String} (sound : holds name) :
    (record.addItem key name).ItemsHold holds := by
  intro other item member
  rw [items_addItem] at member
  split at member
  · rcases List.mem_append.mp member with old | new
    · exact collected key item old
    · rw [List.mem_singleton.mp new]
      exact sound
  · exact collected other item member

theorem Record.ItemsHold.contents {record : Record} (collected : record.ItemsHold holds)
    (fileSection : FileSection) : (record.contents fileSection).ReferencesHold holds := by
  refine Catalog.forall_mem_references.mpr ?_
  intro service member
  cases fileSection with
  | characteristics =>
      rw [Record.contents] at member
      split at member <;> cases member
  | services =>
      rw [Record.contents] at member
      split at member
      · next described =>
          cases List.mem_singleton.mp member
          have lists : service.required = record.items "requiredCharacteristics" ∧
              service.optional = record.items "optionalCharacteristics" := by
            simp only [Record.service?, Option.bind_eq_bind, Option.bind_eq_some_iff,
              Option.some.injEq] at described
            obtain ⟨_, _, _, _, _, _, rfl⟩ := described
            exact ⟨rfl, rfl⟩
          intro name inLists
          rw [Service.references, lists.1, lists.2, List.mem_append] at inLists
          exact inLists.elim (collected _ name) (collected _ name)
      · cases member

/-- Whether something holds of all items that have been read so far. -/
structure Progress.ItemsHold (holds : String → Prop) (progress : Progress) : Prop where
  record : progress.record.ItemsHold holds
  contents : progress.contents.ReferencesHold holds

variable {progress : Progress}

theorem itemsHold_flush (collected : progress.ItemsHold holds) :
    progress.flush.ItemsHold holds := by
  constructor
  · rw [Progress.flush_eq]
    exact Record.itemsHold_empty
  · rw [Progress.flush]
    split
    · split
      · exact collected.contents
      · intro name member
        rw [Catalog.references, Contents.services_append, List.flatMap_append,
          List.mem_append] at member
        exact member.elim (collected.contents name) (collected.record.contents _ name)
    · exact collected.contents

theorem itemsHold_takeUp (collected : progress.ItemsHold holds) {content : LineContent}
    (sound : ∀ value, content = .item value → holds value) :
    (takeUp progress content).ItemsHold holds := by
  constructor
  · cases content with
    | item value =>
        rw [takeUp]
        split
        · exact collected.record.addItem _ (sound value rfl)
        · exact collected.record
    | listKey key =>
        intro other name member
        exact collected.record other name
          (by simpa [takeUp, Record.items_openList] using member)
    | field key value =>
        rw [takeUp]
        split <;> exact collected.record
    | other => exact collected.record
  · rw [contents_takeUp]
    exact collected.contents

/-- What holds of the item on a line goes on to hold of all items. -/
theorem itemsHold_readLine (collected : progress.ItemsHold holds) {line : List Char}
    (sound : ∀ value, lineContent line = .item value → holds value) :
    (readLine progress line).ItemsHold holds := by
  rw [readLine]
  split
  · exact ⟨(itemsHold_flush collected).record, (itemsHold_flush collected).contents⟩
  · split
    · exact itemsHold_takeUp (itemsHold_flush collected) sound
    · exact itemsHold_takeUp collected sound

theorem itemsHold_foldl {lines : List (List Char)}
    (sound : ∀ line ∈ lines, ∀ value, lineContent line = .item value → holds value)
    (collected : progress.ItemsHold holds) :
    (lines.foldl readLine progress).ItemsHold holds := by
  induction lines generalizing progress with
  | nil => exact collected
  | cons line rest ih =>
      exact ih (fun line member => sound line (List.mem_cons_of_mem _ member))
        (itemsHold_readLine collected (sound line (by simp)))

/-- What holds of the items on all lines that count holds of every reference that is read. -/
theorem referencesHold_read (holds : String → Prop) {text : String}
    (sound : ∀ line ∈ significantLines text, ∀ value,
      lineContent line = .item value → holds value) : (read text).ReferencesHold holds := by
  have start : Progress.start.ItemsHold holds :=
    ⟨Record.itemsHold_empty, fun name member => by cases member⟩
  exact (itemsHold_flush (itemsHold_foldl sound start)).contents

/-- Every reference of a service that any file yields is an item. -/
theorem isItem_of_mem_references_read (text : String) {name : String}
    (member : name ∈ (read text).catalog.references) : IsItem name :=
  referencesHold_read IsItem
    (fun _ seen _ item => isItem_of_lineContent (isSeen_of_mem_significantLines seen).trimmed item)
    name member

end HomeCatalog.CatalogFile
