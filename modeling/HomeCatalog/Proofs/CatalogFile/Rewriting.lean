import HomeCatalog.Proofs.Catalog.Sorting
import HomeCatalog.Proofs.CatalogFile.Pieces
import HomeCatalog.Proofs.CatalogFile.RoundTrip

/-!
# Rewriting a catalog file

Whatever a file says, what the reader makes of it can be written, and writing it once brings the
file into a form that reading and writing leave as it is.  Only quoted names are left out: inside
quotes a name may have white space or further quotes at its ends.
-/

namespace HomeCatalog.CatalogFile

/-! ## Settings -/

/-- The key and the value on a line that sets a field, the value as it is written. -/
def setting? (line : List Char) : Option (String × String) :=
  match Text.cut ':' line with
  | (_, none) => none
  | (key, some value) =>
      if (Text.strip value).isEmpty then none
      else some (String.ofList (bareKey (Text.strip key)), String.ofList (Text.strip value))

/-- The value that some lines set last for a key. -/
def lastSetting? (lines : List (List Char)) (key : String) : Option String :=
  (lines.filterMap setting?).reverse.lookup key

/-- A line that sets a field says its key and what its value stands for. -/
theorem lineContent_of_setting {line : List Char} {setting : String × String}
    (set : setting? line = some setting) :
    lineContent line = .field setting.1 (unquote setting.2) := by
  rw [setting?] at set
  rw [lineContent]
  cases cut : Text.cut ':' line with
  | mk key value =>
      rw [cut] at set
      cases value with
      | none => cases set
      | some value =>
          simp only at set ⊢
          split at set
          · cases set
          · next filled =>
              cases set
              simp only [if_neg filled]

/-- A line that sets no field says none. -/
theorem lineContent_ne_field {line : List Char} (unset : setting? line = none)
    (key value : String) : lineContent line ≠ .field key value := by
  intro field
  rw [setting?] at unset
  rw [lineContent] at field
  cases cut : Text.cut ':' line with
  | mk before after =>
      rw [cut] at unset field
      cases after with
      | none =>
          simp only at field
          split at field <;> cases field
      | some after =>
          simp only at unset field
          split at unset
          · next blank => simp [blank] at field
          · cases unset

/-- A value that is set has no white space at its ends, is not empty, and stands on one line. -/
theorem isTrimmed_of_setting {line : List Char} {key value : String} (seen : IsSeen line)
    (set : setting? line = some (key, value)) :
    Text.IsTrimmed value.toList ∧ value ≠ "" ∧ '\n' ∉ value.toList := by
  by_cases colon : ':' ∈ line
  · obtain ⟨before, after, rfl, absent⟩ := List.eq_append_cons_of_mem colon
    rw [setting?, Text.cut_append_cons absent] at set
    simp only at set
    split at set
    · cases set
    · next filled =>
        cases set
        rw [String.toList_ofList]
        refine ⟨Text.isTrimmed_strip after, ?_, ?_⟩
        · intro empty
          rw [← String.toList_eq_nil_iff, String.toList_ofList] at empty
          simp [empty] at filled
        · intro feed
          have inAfter := (Text.strip_sublist after).subset feed
          exact seen.oneLine (List.mem_append_right _ (List.mem_cons_of_mem _ inAfter))
  · rw [setting?, Text.cut_of_absent colon] at set
    cases set

/-! ## What the record of a piece holds -/

/-- In a section a line enters its setting, and no other line changes a field. -/
theorem fields_takeUp {progress : Progress} {fileSection : FileSection}
    (inSection : progress.fileSection = some fileSection) (line : List Char) :
    (takeUp progress (lineContent line)).record.fields =
      (setting? line).toList.foldl (fun fields setting =>
        Entries.put setting.1 (unquote setting.2) fields) progress.record.fields := by
  obtain ⟨current, record, activeList, contents⟩ := progress
  cases inSection
  cases set : setting? line with
  | some setting =>
      rw [lineContent_of_setting set]
      rfl
  | none =>
      cases content : lineContent line with
      | item value => cases activeList <;> rfl
      | listKey key => rfl
      | field key value => exact absurd content (lineContent_ne_field set key value)
      | other => rfl

theorem fields_foldl_takeUpLine {progress : Progress} {fileSection : FileSection}
    (inSection : progress.fileSection = some fileSection) (lines : List (List Char)) :
    (lines.foldl takeUpLine progress).record.fields =
      (lines.filterMap setting?).foldl (fun fields setting =>
        Entries.put setting.1 (unquote setting.2) fields) progress.record.fields := by
  induction lines generalizing progress with
  | nil => rfl
  | cons line rest ih =>
      have stays : (takeUpLine progress line).fileSection = some fileSection :=
        (fileSection_takeUp progress _).trans inSection
      rw [List.foldl_cons, ih stays, takeUpLine, fields_takeUp inSection, List.filterMap_cons]
      cases setting? line <;> rfl

/-- The fields of the record of a piece are those that its lines set, one after the other. -/
theorem fields_foldl_fresh {body : List (List Char)} (fileSection : FileSection)
    (unmarked : ∀ line ∈ body, sectionMarker? line = none)
    (inside : ∀ line ∈ body.tail, startsPiece line = false) :
    (body.foldl readLine (.fresh (some fileSection))).record.fields =
      Entries.ofPairs ((body.filterMap setting?).map fun setting =>
        (setting.1, unquote setting.2)) := by
  rw [foldl_readLine_fresh _ unmarked inside, fields_foldl_takeUpLine rfl, Entries.ofPairs,
    List.foldl_map]
  rfl

namespace Piece

/-- The record that the lines of a piece make. -/
def record (piece : Piece) : Record :=
  (piece.body.foldl readLine (.fresh piece.fileSection)).record

variable {text : String} {piece : Piece} {fileSection : FileSection}

/-- The field of a key is what the lines of a piece set last for it. -/
theorem lookup_fields_record (member : piece ∈ pieces text)
    (inSection : piece.fileSection = some fileSection) (key : String) :
    piece.record.fields.lookup key = (lastSetting? piece.body key).map unquote := by
  obtain ⟨before, lines, part, rfl⟩ := exists_ofLines_of_mem_ofCuttings member
  obtain ⟨unmarked, inside⟩ := inside_body_ofLines (inside_of_mem_cuttings part) before
  have unquoted : ∀ settings : List (String × String),
      (settings.map fun setting => (setting.1, unquote setting.2)).lookup key =
        (settings.lookup key).map unquote := by
    intro settings
    induction settings with
    | nil => rfl
    | cons setting rest ih =>
        rw [List.map_cons, List.lookup_cons, List.lookup_cons, ih]
        cases key == setting.1 <;> rfl
  rw [record, inSection, fields_foldl_fresh fileSection unmarked inside, Entries.lookup_ofPairs,
    ← List.map_reverse, unquoted]
  rfl

/-- A piece yields nothing, or what its record contributes to its section. -/
theorem contents_eq_record (member : piece ∈ pieces text)
    (inSection : piece.fileSection = some fileSection) :
    piece.contents = .empty ∨ piece.contents = piece.record.contents fileSection := by
  obtain ⟨before, lines, part, rfl⟩ := exists_ofLines_of_mem_ofCuttings member
  obtain ⟨unmarked, inside⟩ := inside_body_ofLines (inside_of_mem_cuttings part) before
  have seen : ∀ line ∈ (Piece.ofLines before lines).body, IsSeen line := fun line member =>
    isSeen_of_mem_cuttings part line (body_ofLines_subset _ _ member)
  have unread := (foldl_readLine_of_inside fileSection unmarked inside).1
  have stays : ((Piece.ofLines before lines).body.foldl readLine
      (.fresh (some fileSection))).fileSection = some fileSection := fileSection_foldl unmarked _
  rw [Piece.contents_eq_readLines seen, record, inSection, readLines, Progress.flush, stays]
  simp only [unread, Contents.empty_append]
  split
  · exact .inl unread
  · exact .inr rfl

end Piece

/-! ## What the reader makes of any file -/

/-- The keys of the names of an entry. -/
def nameKeys : List String :=
  ["identifier", "name", "swiftName"]

/-- Whether no record of a file takes one of its names from a quoted value. -/
def TakesNamesUnquoted (text : String) : Prop :=
  ∀ piece ∈ pieces text, piece.fileSection.isSome = true →
    ∀ key ∈ nameKeys, ∀ value ∈ lastSetting? piece.body key, ¬IsQuoted value

instance (text : String) : Decidable (TakesNamesUnquoted text) :=
  inferInstanceAs (Decidable (∀ piece ∈ pieces text, piece.fileSection.isSome = true →
    ∀ key ∈ nameKeys, ∀ value ∈ lastSetting? piece.body key, ¬IsQuoted value))

/-- What the names of entries have in common that are not quoted in a file. -/
structure IsUnquotedName (name : String) : Prop where
  filled : name ≠ ""
  plain : IsPlainName name
  oneLine : '\n' ∉ name.toList

variable {text : String}

theorem isUnquotedName_of_needed {piece : Piece} {fileSection : FileSection}
    (unquoted : TakesNamesUnquoted text) (member : piece ∈ pieces text)
    (inSection : piece.fileSection = some fileSection) {key name : String}
    (isNameKey : key ∈ nameKeys) (needed : piece.record.needed? key = some name) :
    IsUnquotedName name := by
  rw [Record.needed?, Option.filter_eq_some_iff,
    Piece.lookup_fields_record member inSection] at needed
  obtain ⟨value, last, rfl⟩ := Option.map_eq_some_iff.mp needed.1
  have apart : ¬IsQuoted value :=
    unquoted piece member (by rw [inSection]; rfl) key isNameKey value last
  have set := Entries.mem_of_lookup last
  rw [List.mem_reverse, List.mem_filterMap] at set
  obtain ⟨line, inBody, set⟩ := set
  obtain ⟨before, lines, part, rfl⟩ := exists_ofLines_of_mem_ofCuttings member
  have seen : IsSeen line :=
    isSeen_of_mem_cuttings part line (body_ofLines_subset _ _ inBody)
  obtain ⟨trimmed, filled, oneLine⟩ := isTrimmed_of_setting seen set
  rw [unquote_eq_self apart]
  exact ⟨filled, ⟨trimmed, apart⟩, oneLine⟩

/-- The names of a service are fields of the record that describes it. -/
theorem exists_needed_of_service {record : Record} {service : Service}
    (described : record.service? = some service) :
    ∀ name ∈ service.names, ∃ key ∈ nameKeys, record.needed? key = some name := by
  simp only [Record.service?, Option.bind_eq_bind, Option.bind_eq_some_iff,
    Option.some.injEq] at described
  obtain ⟨identifier, first, name, second, swiftName, third, rfl⟩ := described
  simp only [Service.names, nameKeys, List.forall_mem_cons, List.exists_mem_cons_iff]
  exact ⟨.inl first, .inr (.inl second), .inr (.inr (.inl third)), by simp⟩

theorem exists_needed_of_characteristic {record : Record} {characteristic : Characteristic}
    (described : record.characteristic? = some characteristic) :
    ∀ name ∈ characteristic.names, ∃ key ∈ nameKeys, record.needed? key = some name := by
  simp only [Record.characteristic?, Option.bind_eq_bind, Option.bind_eq_some_iff,
    Option.some.injEq] at described
  obtain ⟨identifier, first, name, second, swiftName, third, _, _, rfl⟩ := described
  simp only [Characteristic.names, nameKeys, List.forall_mem_cons, List.exists_mem_cons_iff]
  exact ⟨.inl first, .inr (.inl second), .inr (.inr (.inl third)), by simp⟩

/-- The names of what a record contributes are fields of the record. -/
theorem exists_needed_of_contents {record : Record} {fileSection : FileSection} {name : String}
    (member : name ∈ (record.contents fileSection).catalog.names) :
    ∃ key ∈ nameKeys, record.needed? key = some name := by
  cases fileSection with
  | services =>
      rw [Record.contents] at member
      split at member
      · next service described =>
          exact exists_needed_of_service described name (by simpa [Catalog.names] using member)
      · cases member
  | characteristics =>
      rw [Record.contents] at member
      split at member
      · next characteristic described =>
          exact exists_needed_of_characteristic described name
            (by simpa [Catalog.names] using member)
      · cases member

theorem isUnquotedName_of_mem_contents {piece : Piece} (unquoted : TakesNamesUnquoted text)
    (member : piece ∈ pieces text) :
    ∀ name ∈ piece.contents.catalog.names, IsUnquotedName name := by
  intro name inPiece
  cases inSection : piece.fileSection with
  | none =>
      rw [(total_contents_of_mem_pieces member).1 inSection] at inPiece
      cases inPiece
  | some fileSection =>
      rcases Piece.contents_eq_record member inSection with nothing | something
      · rw [nothing] at inPiece
        cases inPiece
      · rw [something] at inPiece
        obtain ⟨key, isNameKey, needed⟩ := exists_needed_of_contents inPiece
        exact isUnquotedName_of_needed unquoted member inSection isNameKey needed

/-- The names of all entries that are read are plain if none of them is quoted. -/
theorem isUnquotedName_of_mem_read (unquoted : TakesNamesUnquoted text) :
    ∀ name ∈ (read text).catalog.names, IsUnquotedName name := by
  have alone : ∀ piece ∈ pieces text, _ :=
    fun piece member => Catalog.forall_mem_names.mp (isUnquotedName_of_mem_contents unquoted member)
  rw [Catalog.forall_mem_names, read_eq_concat_pieces, Contents.services_concat,
    Contents.characteristics_concat, List.flatMap_map, List.flatMap_map, List.forall_mem_flatMap,
    List.forall_mem_flatMap]
  exact ⟨fun piece member => (alone piece member).1, fun piece member => (alone piece member).2⟩

/-- No reference that is read holds a line feed. -/
theorem feed_notMem_references_read : IsAbsent '\n' (read text).catalog.references := by
  refine referencesHold_read (fun name => '\n' ∉ name.toList) ?_
  intro line seen value item feed
  have colonless := no_colon_of_item item
  rw [lineContent_of_no_colon colonless] at item
  split at item
  · cases item
    rw [String.toList_ofList] at feed
    have inLine := List.mem_of_mem_drop ((Text.strip_sublist _).subset feed)
    exact (isSeen_of_mem_significantLines seen).oneLine inLine
  · cases item

/-! ## Rewriting -/

/-- Sorting changes nothing that is written. -/
theorem write_sorted (moment : Calendar.Moment) (catalog : Catalog) :
    write moment catalog.sorted = write moment catalog := by
  simp only [write, textOf, failure?, linesOf, Catalog.sortedServices_sorted,
    Catalog.sortedCharacteristics_sorted]

/-- Whatever a file without quoted names says, the catalog that is read of it can be written at
every moment that has a stamp.  What is written is read as the same catalog in sorted order, no
record of it is skipped, and writing that again makes the same text. -/
theorem write_read_isStable (moment : Calendar.Moment) (text : String)
    (unquoted : TakesNamesUnquoted text) :
    match write moment (read text).catalog with
    | .error problem => problem = .timeOutOfRange ∧ moment.stamp? = none
    | .ok written =>
        read written = ⟨(read text).catalog.sorted, 0⟩ ∧
          write moment (read written).catalog = .ok written := by
  have names := isUnquotedName_of_mem_read unquoted
  cases stamped : moment.stamp? with
  | none => simp [write, stamped]
  | some stamp =>
      have written := write_of_stamp stamped fun name member => (names name member).filled
      have plain : IsAbsent '\n' (linesOf stamp (read text).catalog) := by
        apply isAbsent_linesOf (.inl rfl) stamped _ fun text _ => feed_notMem_quote text
        exact isAbsent_append.mpr
          ⟨fun name member => (names name member).oneLine, feed_notMem_references_read⟩
      have restorable : IsRestorable (read text).catalog :=
        ⟨fun name member => (names name member).plain,
          fun name member => isItem_of_mem_references_read text member⟩
      have whole := (read_eq_sorted_iff plain fun name member => (names name member).filled).mpr
        restorable
      simp only [written]
      rw [whole, write_sorted, written]
      exact ⟨rfl, rfl⟩

/-- A file in which a list is opened again, a key is set twice and is not known, an item stands in
no list, an escape is not known, and a record lacks a field. -/
def untidyFile : String :=
  "- identifier: early\nservices:\n- identifier: B\noptionalCharacteristics:\n - On\n" ++
    "name: \"x\"\n- Stray\nname: b\ncolour: red\noptionalCharacteristics:\n- Hue\n" ++
    "swiftName: b\ndocumentation: \"a\\q\\n\"\n- identifier: lost\n" ++
    "characteristics:\n- identifier: A\nname: a\nswiftName: a\nvalueType: Odd\n"

/-- Of such a file a service and a characteristic are read, and rewriting it keeps both. -/
theorem write_read_untidyFile :
    (read untidyFile).skipped = 1 ∧
      ∃ written, write (.ofUnixSeconds 0) (read untidyFile).catalog = .ok written ∧
        read written = ⟨⟨
          [⟨"B", "b", "b", some "a\\q\n", false, [], ["On", "Hue"]⟩],
          [⟨"A", "a", "a", .text, none, false⟩]⟩, 0⟩ := by
  have skipped : read untidyFile = ⟨⟨
      [⟨"B", "b", "b", some "a\\q\n", false, [], ["On", "Hue"]⟩],
      [⟨"A", "a", "a", .text, none, false⟩]⟩, 1⟩ := by decide +kernel
  have stable := write_read_isStable (.ofUnixSeconds 0) untidyFile (by decide +kernel)
  refine ⟨by rw [skipped], ?_⟩
  cases written : write (.ofUnixSeconds 0) (read untidyFile).catalog with
  | error problem =>
      rw [written] at stable
      exact absurd stable.2 (by decide)
  | ok text =>
      rw [written, skipped] at stable
      refine ⟨text, rfl, stable.1.trans ?_⟩
      simp [Catalog.sorted, Catalog.sortedServices, Catalog.sortedCharacteristics]

end HomeCatalog.CatalogFile
