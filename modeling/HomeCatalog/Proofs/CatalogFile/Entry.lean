import HomeCatalog.Proofs.CatalogFile.Items

/-!
# Reading a written catalog file entry by entry

The lines of every written entry lead the reader to the record of that entry, whatever was read
before.  So the text of a catalog is read as its records one after the other, and nothing is left
over between them.
-/

namespace HomeCatalog.CatalogFile

/-! ## Items -/

/-- The line of an item is read as that item. -/
theorem foldl_itemLine {name : String} (isItem : IsItem name) (progress : Progress) :
    (seenLines ["      - " ++ name]).foldl readLine progress =
      takeUp progress (.item name) := by
  have trimmed : Text.IsTrimmed ('-' :: ' ' :: name.toList) := by
    apply Text.isTrimmed_of_ends
    · intro c first
      rw [List.head?_cons, Option.some.injEq] at first
      rw [← first]
      decide
    · intro c last
      have shape : '-' :: ' ' :: name.toList = ['-', ' '] ++ name.toList := rfl
      rw [shape, List.getLast?_append_of_ne_nil _ isItem.filled,
        List.getLast?_eq_some_getLast isItem.filled, Option.some.injEq] at last
      rw [← last]
      exact isItem.trimmed.solid_getLast isItem.filled
  have line_eq : Text.strip ("      - " ++ name).toList = '-' :: ' ' :: name.toList := by
    have shape : ("      - " ++ name).toList =
        "      ".toList ++ '-' :: ' ' :: name.toList := by simp
    rw [shape, Text.strip_append_of_blank (by decide)]
    exact trimmed
  have colonless : ':' ∉ '-' :: ' ' :: name.toList := by simpa using isItem.colonless
  have outside : startsPiece ('-' :: ' ' :: name.toList) = false := by
    by_contra starts
    exact colonless (colon_of_startsPiece (by simpa using starts))
  obtain ⟨unmarked, inside⟩ := startsPiece_eq_false_iff.mp outside
  have name_eq : Text.strip name.toList = name.toList := isItem.trimmed
  have content : lineContent ('-' :: ' ' :: name.toList) = .item name := by
    rw [lineContent_of_no_colon colonless]
    simp [name_eq]
  rw [seenLines, List.map_singleton, line_eq]
  exact (readLine_of_inside unmarked (.inl inside)).trans (congrArg _ content)

/-- The lines of items add them to the open list. -/
theorem foldl_itemLines {names : List String} (items : ∀ name ∈ names, IsItem name)
    {progress : Progress} {key : String} (active : progress.activeList = some key) :
    (seenLines (names.map fun name => "      - " ++ name)).foldl readLine progress =
      { progress with
        record := names.foldl (fun filled name => filled.addItem key name)
          progress.record } := by
  induction names generalizing progress with
  | nil => rfl
  | cons name rest ih =>
      have step : takeUp progress (.item name) =
          { progress with record := progress.record.addItem key name } := by
        rw [takeUp, active]
      rw [List.map_cons, seenLines_cons, List.foldl_append,
        foldl_itemLine (items name (by simp)), step, List.foldl_cons]
      exact ih (fun name member => items name (List.mem_cons_of_mem _ member)) active

/-! ## What a state holds -/

namespace Progress

/-- Whether a state is that of a section in which only one record has been read. -/
structure Holds (progress : Progress) (fileSection : FileSection) (record : Record) : Prop where
  inSection : progress.fileSection = some fileSection
  record_eq : progress.record = record
  contents_eq : progress.contents = .empty

variable {progress : Progress} {fileSection : FileSection} {record : Record}

theorem holds_fresh (fileSection : FileSection) :
    (fresh (some fileSection)).Holds fileSection .empty :=
  ⟨rfl, rfl, rfl⟩

theorem Holds.takeUp_scalar (holds : progress.Holds fileSection record) (key : String)
    (scalar : Option String) :
    (takeUp progress (scalarContent key scalar)).Holds fileSection
      (record.note key scalar) := by
  obtain ⟨current, pending, active, contents⟩ := progress
  obtain ⟨rfl, rfl, rfl⟩ := holds
  cases scalar <;> exact ⟨rfl, rfl, rfl⟩

/-- The record that is held at the end of a section is all that the section yields. -/
theorem Holds.flush_contents (holds : progress.Holds fileSection record)
    (filled : record.isEmpty = false) :
    progress.flush.contents = record.contents fileSection := by
  obtain ⟨current, pending, active, contents⟩ := progress
  obtain ⟨rfl, rfl, rfl⟩ := holds
  simp [flush, filled]

end Progress

variable {progress : Progress} {fileSection : FileSection} {record : Record}

/-- A line with a key and a scalar notes the scalar in the record. -/
theorem holds_scalarLine (line scalar name : String) {indent key : List Char}
    (holds : progress.Holds fileSection record)
    (shape : line.toList = indent ++ (key ++ ':' :: ' ' :: scalar.toList))
    (isKey : IsKey indent key)
    (inside : key ≠ "- identifier".toList ∨ progress.record = .empty)
    (name_eq : bareKey key = name.toList) :
    ((seenLines [line]).foldl readLine progress).Holds fileSection
      (record.note name (restored? scalar)) := by
  rw [foldl_keyLine shape isKey inside, keyContent_scalar, name_eq, String.ofList_toList]
  exact holds.takeUp_scalar name (restored? scalar)

/-- The lines of a list put the list into the record. -/
theorem holds_listLines (key : String) {names : List String}
    (holds : progress.Holds fileSection record) (items : ∀ name ∈ names, IsItem name)
    (isKey : IsKey "    ".toList key.toList) (inside : key ≠ "- identifier")
    (bare : bareKey key.toList = key.toList) :
    ((seenLines (listLines key names)).foldl readLine progress).Holds fileSection
      (record.putList key names) := by
  rw [listLines, Record.putList]
  split
  · exact holds
  · have shape : ("    " ++ key ++ ":").toList =
        "    ".toList ++ (key.toList ++ ':' :: []) := by simp
    have outside : key.toList ≠ "- identifier".toList := fun same =>
      inside (String.toList_inj.mp same)
    rw [seenLines_cons, List.foldl_append, foldl_keyLine shape isKey (.inl outside),
      keyContent, bare, String.ofList_toList]
    obtain ⟨current, pending, active, contents⟩ := progress
    obtain ⟨rfl, rfl, rfl⟩ := holds
    rw [foldl_itemLines items rfl]
    exact ⟨rfl, rfl, rfl⟩

/-- The lines of documentation and deprecation put both into the record. -/
theorem holds_remarkLines (holds : progress.Holds fileSection record)
    (documentation : Option String) (deprecated : Bool) :
    ((seenLines (remarkLines documentation deprecated)).foldl readLine progress).Holds
      fileSection (record.remark documentation deprecated) := by
  have lines_eq : remarkLines documentation deprecated =
      (documentation.map fun text => "    documentation: " ++ quote text).toList ++
        if deprecated then ["    deprecated: true"] else [] := by
    cases documentation <;> rfl
  have documented : ((seenLines
      (documentation.map fun text => "    documentation: " ++ quote text).toList).foldl
        readLine progress).Holds fileSection (record.set? "documentation" documentation) := by
    cases documentation with
    | none => exact holds
    | some text =>
        have isKey : IsKey "    ".toList "documentation".toList := by decide
        have noted := holds_scalarLine ("    documentation: " ++ quote text) (quote text)
          "documentation" holds (by simp) isKey (.inl (by decide)) rfl
        rw [restored?_quote] at noted
        exact noted
  rw [lines_eq, seenLines_append, List.foldl_append, Record.remark]
  cases deprecated with
  | false => exact documented
  | true =>
      have isKey : IsKey "    ".toList "deprecated".toList := by decide
      exact holds_scalarLine _ "true" "deprecated" documented (by decide) isKey
        (.inl (by decide)) rfl

/-- The key of the line with which every entry starts. -/
theorem isKey_identifier : IsKey "  ".toList "- identifier".toList := by
  decide

/-- The lines that every entry starts with note its names in a new record. -/
theorem holds_namingLines (holds : progress.Holds fileSection .empty)
    (identifier name swiftName : String) :
    ((seenLines (namingLines identifier name swiftName)).foldl readLine progress).Holds
      fileSection (namingRecord identifier name swiftName) := by
  have nameKey : IsKey "    ".toList "name".toList := by decide
  have swiftNameKey : IsKey "    ".toList "swiftName".toList := by decide
  have first := holds_scalarLine ("  - identifier: " ++ identifier) identifier "identifier"
    holds (by simp) isKey_identifier (.inr holds.record_eq) rfl
  have second := holds_scalarLine ("    name: " ++ name) name "name" first (by simp) nameKey
    (.inl (by decide)) rfl
  have third := holds_scalarLine ("    swiftName: " ++ swiftName) swiftName "swiftName" second
    (by simp) swiftNameKey (.inl (by decide)) rfl
  rw [namingLines, seenLines_cons, seenLines_cons ("    name: " ++ name),
    List.foldl_append, List.foldl_append]
  exact third

/-! ## Entries -/

/-- Whether some lines start a record of a section and are read as it. -/
structure ReadsAs (fileSection : FileSection) (lines : List String) (record : Record) : Prop where
  holds : ((seenLines lines).foldl readLine (.fresh (some fileSection))).Holds fileSection record
  filled : record.isEmpty = false
  starts : ∀ rest line, (seenLines lines ++ rest).head? = some line → startsPiece line = true

/-- Lines that name an entry start a record. -/
theorem starts_namingLines (identifier name swiftName : String) (more : List String) :
    ∀ rest line,
      (seenLines (namingLines identifier name swiftName ++ more) ++ rest).head? = some line →
        startsPiece line = true := by
  intro rest line first
  have shape : ("  - identifier: " ++ identifier).toList =
      "  ".toList ++ ("- identifier".toList ++ ':' :: ' ' :: identifier.toList) := by simp
  have seen := seenLines_keyLine shape isKey_identifier
  rw [namingLines, List.cons_append, seenLines_cons, seen, List.append_assoc,
    List.singleton_append, List.head?_cons, Option.some.injEq] at first
  have record : startsRecord line = true := by
    rw [startsRecord, List.isPrefixOf_iff_prefix, ← first]
    exact ⟨_, rfl⟩
  simp [startsPiece, record]

theorem seenLines_blank : seenLines [""] = [] := rfl

/-- The lines of a service are read as its record. -/
theorem readsAs_serviceLines {service : Service}
    (required : ∀ name ∈ service.required, IsItem name)
    (optional : ∀ name ∈ service.optional, IsItem name) :
    ReadsAs .services (serviceLines service) (serviceRecord service) := by
  constructor
  · have named := holds_namingLines (Progress.holds_fresh .services) service.identifier
      service.name service.swiftName
    have remarked := holds_remarkLines named service.documentation service.deprecated
    have first := holds_listLines "requiredCharacteristics" remarked required (by decide)
      (by decide) (by decide)
    have second := holds_listLines "optionalCharacteristics" first optional (by decide)
      (by decide) (by decide)
    simp only [serviceLines, seenLines_append, List.foldl_append, seenLines_blank, List.foldl_nil]
    exact second
  · exact Record.isEmpty_putList _
      (Record.isEmpty_putList _ (Record.isEmpty_remark (Record.isEmpty_note _ _ _) _ _) _) _
  · simp only [serviceLines, List.append_assoc]
    exact starts_namingLines _ _ _ _

/-- The lines of a characteristic are read as its record. -/
theorem readsAs_characteristicLines (characteristic : Characteristic) :
    ReadsAs .characteristics (characteristicLines characteristic)
      (characteristicRecord characteristic) := by
  constructor
  · have named := holds_namingLines (Progress.holds_fresh .characteristics)
      characteristic.identifier characteristic.name characteristic.swiftName
    have isKey : IsKey "    ".toList "valueType".toList := by decide
    have typed := holds_scalarLine ("    valueType: " ++ characteristic.valueKind.token)
      characteristic.valueKind.token "valueType" named (by simp) isKey (.inl (by decide)) rfl
    rw [restored?_token] at typed
    have remarked := holds_remarkLines typed characteristic.documentation
      characteristic.deprecated
    simp only [characteristicLines, seenLines_append, List.foldl_append, seenLines_blank,
      List.foldl_nil]
    exact remarked
  · exact Record.isEmpty_remark (Record.isEmpty_note _ _ _) _ _
  · simp only [characteristicLines, List.append_assoc]
    exact starts_namingLines _ _ _ _

/-- Entries are read one after the other, each as its record. -/
theorem readLines_entries {α : Type} {fileSection : FileSection} {linesOf : α → List String}
    {recordOf : α → Record} {entries : List α}
    (reads : ∀ entry ∈ entries, ReadsAs fileSection (linesOf entry) (recordOf entry))
    {rest : List (List Char)}
    (restStarts : ∀ line, rest.head? = some line → startsPiece line = true) :
    readLines (.fresh (some fileSection)) (seenLines (entries.flatMap linesOf) ++ rest) =
      .concat (entries.map fun entry => (recordOf entry).contents fileSection) ++
        readLines (.fresh (some fileSection)) rest := by
  induction entries with
  | nil => simp
  | cons entry others ih =>
      have read := reads entry (by simp)
      have othersRead : ∀ entry ∈ others,
          ReadsAs fileSection (linesOf entry) (recordOf entry) :=
        fun entry member => reads entry (List.mem_cons_of_mem _ member)
      have nextStarts : ∀ line, (seenLines (others.flatMap linesOf) ++ rest).head? = some line →
          startsPiece line = true := by
        cases others with
        | nil => simpa using restStarts
        | cons next more =>
            intro line first
            rw [List.flatMap_cons, seenLines_append, List.append_assoc] at first
            exact (othersRead next (by simp)).starts _ line first
      rw [List.flatMap_cons, seenLines_append, List.append_assoc, readLines_append _ _ nextStarts,
        read.holds.inSection, ih othersRead, readLines, read.holds.flush_contents read.filled,
        List.map_cons, Contents.concat_cons, Contents.append_assoc]

/-! ## The whole file -/

/-- The reader passes over the first lines of a file. -/
theorem seenLines_headerLines (stamp : String) : seenLines (headerLines stamp) = [] := by
  have comment : ∀ rest : List Char, isSignificant (Text.strip ('#' :: rest)) = false := by
    intro rest
    have solid : Text.isBlank '#' = false := by decide
    have kept := Text.rdropWhile_append_cons solid [] rest
    rw [List.nil_append, List.nil_append] at kept
    rw [Text.strip_of_solid_head solid, kept]
    rfl
  have shape : ("# Generated: " ++ stamp).toList = '#' :: (" Generated: " ++ stamp).toList := by
    simp
  simp only [seenLines, headerLines, List.map_cons, List.map_nil, List.filter_eq_nil_iff,
    List.mem_cons, List.not_mem_nil, or_false, shape]
  rintro line (rfl | rfl | rfl)
  · simpa using comment " HomeKit Services and Characteristics Catalog".toList
  · simpa using comment " Auto-generated from iOS SDK headers".toList
  · simp [comment]

/-- A written catalog is read as the records of its entries, if the references of its services can
be items of lists and its lines are lines. -/
theorem read_unlines_linesOf {stamp : String} {catalog : Catalog}
    (plain : ∀ line ∈ linesOf stamp catalog, '\n' ∉ line.toList)
    (items : ∀ name ∈ catalog.references, IsItem name) :
    read (unlines (linesOf stamp catalog)) =
      .concat (catalog.sortedServices.map fun service =>
        (serviceRecord service).contents .services) ++
      .concat (catalog.sortedCharacteristics.map fun characteristic =>
        (characteristicRecord characteristic).contents .characteristics) := by
  have services : ∀ service ∈ catalog.sortedServices,
      ReadsAs .services (serviceLines service) (serviceRecord service) := by
    intro service member
    have sound := Catalog.forall_mem_references.mp items service
      (Catalog.mem_sortedServices.mp member)
    exact readsAs_serviceLines
      (fun name inRequired => sound name (List.mem_append_left _ inRequired))
      (fun name inOptional => sound name (List.mem_append_right _ inOptional))
  have characteristics : ∀ characteristic ∈ catalog.sortedCharacteristics,
      ReadsAs .characteristics (characteristicLines characteristic)
        (characteristicRecord characteristic) :=
    fun characteristic _ => readsAs_characteristicLines characteristic
  have seen : seenLines (linesOf stamp catalog) = "services:".toList ::
      (seenLines (catalog.sortedServices.flatMap serviceLines) ++ "characteristics:".toList ::
        (seenLines (catalog.sortedCharacteristics.flatMap characteristicLines) ++ [])) := by
    have firstMarker : seenLines ["", "services:"] = ["services:".toList] := by decide
    have secondMarker : seenLines ["characteristics:"] = ["characteristics:".toList] := by
      decide
    rw [linesOf, seenLines_append, seenLines_append, seenLines_append, seenLines_append,
      seenLines_headerLines, firstMarker, secondMarker]
    simp only [List.nil_append, List.append_assoc, List.cons_append, List.append_nil]
  have firstStep : readLine .start "services:".toList = .fresh (some .services) := by decide
  have secondStep : readLine (.fresh (some .services)) "characteristics:".toList =
      .fresh (some .characteristics) := by decide
  rw [read, significantLines_unlines plain]
  change readLines .start (seenLines (linesOf stamp catalog)) = _
  rw [seen, readLines, List.foldl_cons, firstStep]
  change readLines (.fresh (some .services)) _ = _
  rw [readLines_entries services (by simp; decide)]
  congr 1
  rw [readLines, List.foldl_cons, secondStep]
  change readLines (.fresh (some .characteristics)) _ = _
  rw [readLines_entries characteristics (by simp)]
  exact Contents.append_empty _

end HomeCatalog.CatalogFile
