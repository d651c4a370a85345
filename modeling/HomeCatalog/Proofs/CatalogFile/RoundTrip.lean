import HomeCatalog.CatalogFile.Storage
import HomeCatalog.Proofs.CatalogFile.Entry
import HomeCatalog.Proofs.CatalogFile.LineEnds
import HomeCatalog.Proofs.CatalogFile.Names
import HomeCatalog.Proofs.Files.Storing

/-!
# What a catalog file gives back

The catalogs that come back whole from the text that is written for them are exactly those whose
names are plain and whose references can be items of lists.  Documentation texts, marks of
deprecation and value kinds always come back.  In a file nothing else is lost, as long as no text
holds a carriage return.
-/

namespace HomeCatalog.CatalogFile

/-- Whether a catalog comes back whole from the text that is written for it. -/
structure IsRestorable (catalog : Catalog) : Prop where
  names : ∀ name ∈ catalog.names, IsPlainName name
  references : ∀ name ∈ catalog.references, IsItem name

instance (catalog : Catalog) : Decidable (IsRestorable catalog) :=
  decidable_of_iff
    ((∀ name ∈ catalog.names, IsPlainName name) ∧ ∀ name ∈ catalog.references, IsItem name)
    ⟨fun ⟨names, references⟩ => ⟨names, references⟩,
      fun restorable => ⟨restorable.names, restorable.references⟩⟩

/-! ## What is read of written entries -/

/-- A service comes back as it was exactly if each of its names does. -/
theorem restoredService?_eq_self_iff {service : Service} :
    restoredService? service = some service ↔
      ∀ name ∈ service.names, restoredName? name = some name := by
  obtain ⟨identifier, name, swiftName, documentation, deprecated, required, optional⟩ := service
  simp only [restoredService?, Service.names, Option.bind_eq_bind, Option.bind_eq_some_iff,
    Option.some.injEq, Service.mk.injEq, List.forall_mem_cons, List.not_mem_nil,
    false_implies, implies_true, and_true]
  constructor
  · rintro ⟨_, first, _, second, _, third, rfl, rfl, rfl⟩
    exact ⟨first, second, third⟩
  · rintro ⟨first, second, third⟩
    exact ⟨_, first, _, second, _, third, rfl, rfl, rfl⟩

theorem restoredCharacteristic?_eq_self_iff {characteristic : Characteristic} :
    restoredCharacteristic? characteristic = some characteristic ↔
      ∀ name ∈ characteristic.names, restoredName? name = some name := by
  obtain ⟨identifier, name, swiftName, kind, documentation, deprecated⟩ := characteristic
  simp only [restoredCharacteristic?, Characteristic.names, Option.bind_eq_bind,
    Option.bind_eq_some_iff, Option.some.injEq, Characteristic.mk.injEq, List.forall_mem_cons,
    List.not_mem_nil, false_implies, implies_true, and_true]
  constructor
  · rintro ⟨_, first, _, second, _, third, rfl, rfl, rfl⟩
    exact ⟨first, second, third⟩
  · rintro ⟨first, second, third⟩
    exact ⟨_, first, _, second, _, third, rfl, rfl, rfl⟩

theorem concat_serviceRecords (services : List Service) :
    Contents.concat (services.map fun service => (serviceRecord service).contents .services) =
      ⟨⟨services.filterMap restoredService?, []⟩,
        services.countP fun service => (restoredService? service).isNone⟩ := by
  induction services with
  | nil => rfl
  | cons service rest ih =>
      rw [List.map_cons, Contents.concat_cons, ih, Record.contents, service?_serviceRecord]
      cases back : restoredService? service <;>
        apply Contents.eq_of_parts <;> simp [back, Catalog.empty, Nat.add_comm]

theorem concat_characteristicRecords (characteristics : List Characteristic) :
    Contents.concat (characteristics.map fun characteristic =>
        (characteristicRecord characteristic).contents .characteristics) =
      ⟨⟨[], characteristics.filterMap restoredCharacteristic?⟩,
        characteristics.countP fun characteristic =>
          (restoredCharacteristic? characteristic).isNone⟩ := by
  induction characteristics with
  | nil => rfl
  | cons characteristic rest ih =>
      rw [List.map_cons, Contents.concat_cons, ih, Record.contents,
        characteristic?_characteristicRecord]
      cases back : restoredCharacteristic? characteristic <;>
        apply Contents.eq_of_parts <;> simp [back, Catalog.empty, Nat.add_comm]

/-- Entries of which some may be lost are all there only if each came back as it was. -/
theorem filterMap_eq_self_iff {α : Type} {back? : α → Option α} {entries : List α} :
    entries.filterMap back? = entries ↔ ∀ entry ∈ entries, back? entry = some entry := by
  induction entries with
  | nil => simp
  | cons entry rest ih =>
      rw [List.forall_mem_cons, ← ih, List.filterMap_cons]
      cases back : back? entry with
      | none =>
          have short := List.length_filterMap_le back? rest
          constructor
          · intro same
            have length_eq := congrArg List.length same
            simp only [List.length_cons] at length_eq
            omega
          · rintro ⟨found, _⟩
            cases found
      | some other => rw [List.cons.injEq, Option.some.injEq]

/-- What is read of a written catalog whose references are items: the entries whose names come
back, with these names. -/
theorem read_unlines_linesOf_eq {stamp : String} {catalog : Catalog}
    (plain : IsAbsent '\n' (linesOf stamp catalog))
    (items : ∀ name ∈ catalog.references, IsItem name) :
    read (unlines (linesOf stamp catalog)) =
      ⟨⟨catalog.sortedServices.filterMap restoredService?,
        catalog.sortedCharacteristics.filterMap restoredCharacteristic?⟩,
        (catalog.sortedServices.countP fun service => (restoredService? service).isNone) +
        catalog.sortedCharacteristics.countP fun characteristic =>
          (restoredCharacteristic? characteristic).isNone⟩ := by
  rw [read_unlines_linesOf plain items, concat_serviceRecords, concat_characteristicRecords]
  apply Contents.eq_of_parts <;> simp

/-- A catalog comes back whole from its text exactly if it is restorable. -/
theorem read_eq_sorted_iff {stamp : String} {catalog : Catalog}
    (plain : IsAbsent '\n' (linesOf stamp catalog)) (named : ∀ name ∈ catalog.names, name ≠ "") :
    read (unlines (linesOf stamp catalog)) = ⟨catalog.sorted, 0⟩ ↔ IsRestorable catalog := by
  have names_iff : (∀ service ∈ catalog.sortedServices, restoredService? service = some service) ∧
      (∀ characteristic ∈ catalog.sortedCharacteristics,
        restoredCharacteristic? characteristic = some characteristic) ↔
      ∀ name ∈ catalog.names, IsPlainName name := by
    simp only [restoredService?_eq_self_iff, restoredCharacteristic?_eq_self_iff,
      Catalog.mem_sortedServices, Catalog.mem_sortedCharacteristics]
    rw [← Catalog.forall_mem_names]
    constructor
    · intro back name member
      exact (restoredName?_eq_self_iff.mp (back name member)).2
    · intro isPlain name member
      exact restoredName?_eq_self_iff.mpr ⟨named name member, isPlain name member⟩
  constructor
  · intro whole
    have references : ∀ name ∈ catalog.references, IsItem name := by
      have readItems : ∀ name ∈ catalog.sorted.references, IsItem name := by
        intro name member
        apply isItem_of_mem_references_read (unlines (linesOf stamp catalog))
        rw [whole]
        exact member
      rw [Catalog.forall_mem_references] at readItems
      exact Catalog.forall_mem_references.mpr fun service member =>
        readItems service (Catalog.mem_sortedServices.mpr member)
    rw [read_unlines_linesOf_eq plain references, Catalog.sorted, Contents.mk.injEq,
      Catalog.mk.injEq, filterMap_eq_self_iff, filterMap_eq_self_iff, names_iff] at whole
    exact ⟨whole.1, references⟩
  · rintro ⟨names, references⟩
    have back := names_iff.mpr names
    rw [read_unlines_linesOf_eq plain references, filterMap_eq_self_iff.mpr back.1,
      filterMap_eq_self_iff.mpr back.2, Contents.mk.injEq]
    refine ⟨rfl, ?_⟩
    have services : (catalog.sortedServices.countP
        fun service => (restoredService? service).isNone) = 0 := by
      rw [List.countP_eq_zero]
      intro service member
      simp [back.1 service member]
    have characteristics : (catalog.sortedCharacteristics.countP
        fun characteristic => (restoredCharacteristic? characteristic).isNone) = 0 := by
      rw [List.countP_eq_zero]
      intro characteristic member
      simp [back.2 characteristic member]
    rw [services, characteristics]

/-! ## Writing and reading -/

theorem emptyField?_eq_none {identifier name swiftName : String}
    (named : ∀ text ∈ [identifier, name, swiftName], text ≠ "") :
    emptyField? identifier name swiftName = none := by
  obtain ⟨first, second, third⟩ : identifier ≠ "" ∧ name ≠ "" ∧ swiftName ≠ "" := by
    simpa using named
  simp [emptyField?, first, second, third]

/-- A catalog without empty names can be written. -/
theorem failure?_eq_none {catalog : Catalog} (named : ∀ name ∈ catalog.names, name ≠ "") :
    failure? catalog = none := by
  obtain ⟨services, characteristics⟩ := Catalog.forall_mem_names.mp named
  rw [failure?, Option.or_eq_none_iff, List.findSome?_eq_none_iff, List.findSome?_eq_none_iff]
  constructor
  · intro service member
    rw [serviceFailure?, emptyField?_eq_none (services service (by simpa using member))]
    rfl
  · intro characteristic member
    rw [characteristicFailure?,
      emptyField?_eq_none (characteristics characteristic (by simpa using member))]
    rfl

theorem write_of_stamp {moment : Calendar.Moment} {stamp : String} {catalog : Catalog}
    (stamped : moment.stamp? = some stamp) (named : ∀ name ∈ catalog.names, name ≠ "") :
    write moment catalog = .ok (unlines (linesOf stamp catalog)) := by
  simp only [write, stamped, textOf, failure?_eq_none named]

/-- What storing a catalog comes to once its text is made. -/
theorem store_of_write {moment : Calendar.Moment} {catalog : Catalog} {text : String}
    (written : write moment catalog = .ok text) (tree : FileTree) (path : Path) :
    store moment catalog tree path =
      match (tree.writeFile path text).error with
      | none => ⟨(tree.writeFile path text).tree, .ok text⟩
      | some error => ⟨(tree.writeFile path text).tree, .error (.file error)⟩ := by
  rw [store, storeIn, written]
  rfl

/-- Storing a text in a file and loading it is reading it, unless the file system refuses it. -/
theorem load_store {moment : Calendar.Moment} {catalog : Catalog} {text : String}
    (written : write moment catalog = .ok text) (plain : '\r' ∉ text.toList)
    (tree : FileTree) (path : Path) :
    match (tree.writeFile path text).error with
    | some error => (store moment catalog tree path).result = .error (.file error)
    | none =>
        (store moment catalog tree path).result = .ok text ∧
          load (store moment catalog tree path).tree path = .ok (read text) := by
  rw [store_of_write written]
  cases outcome : (tree.writeFile path text).error with
  | some error => rfl
  | none =>
      have found := FileTree.readText_writeFile outcome plain
      simp only [load, found, and_self]

/-- The lines of a catalog without carriage returns make a text without them. -/
theorem return_notMem_unlines {moment : Calendar.Moment} {stamp : String} {catalog : Catalog}
    (stamped : moment.stamp? = some stamp)
    (plain : IsAbsent '\r' (catalog.names ++ catalog.references ++ catalog.documentations)) :
    '\r' ∉ (unlines (linesOf stamp catalog)).toList := by
  obtain ⟨names, documented⟩ := isAbsent_append.mp plain
  have lines : IsAbsent '\r' (linesOf stamp catalog) :=
    isAbsent_linesOf (.inr rfl) stamped names
      fun text member => return_notMem_quote (documented text member)
  rw [toList_unlines, List.mem_flatMap]
  rintro ⟨line, member, inLine⟩
  rcases List.mem_append.mp inLine with inText | atEnd
  · exact lines line member inText
  · exact absurd atEnd (by decide)

/-- A catalog without empty names and without line feeds in its names and references is written at
every moment that has a stamp.  It comes back whole from the text exactly if it is restorable, and
then also from a file, unless a text holds a carriage return or the file system refuses the
file. -/
theorem write_read_roundTrip (moment : Calendar.Moment) (catalog : Catalog)
    (named : ∀ name ∈ catalog.names, name ≠ "")
    (oneLine : IsAbsent '\n' (catalog.names ++ catalog.references)) :
    match write moment catalog with
    | .error problem => problem = .timeOutOfRange ∧ moment.stamp? = none
    | .ok text =>
        (read text = ⟨catalog.sorted, 0⟩ ↔ IsRestorable catalog) ∧
        (IsRestorable catalog →
          IsAbsent '\r' (catalog.names ++ catalog.references ++ catalog.documentations) →
          ∀ (tree : FileTree) (path : Path),
            match (tree.writeFile path text).error with
            | some error => (store moment catalog tree path).result = .error (.file error)
            | none =>
                (store moment catalog tree path).result = .ok text ∧
                  load (store moment catalog tree path).tree path =
                    .ok ⟨catalog.sorted, 0⟩) := by
  cases stamped : moment.stamp? with
  | none => simp [write, stamped]
  | some stamp =>
      have written := write_of_stamp stamped named
      have plain : IsAbsent '\n' (linesOf stamp catalog) :=
        isAbsent_linesOf (.inl rfl) stamped oneLine fun text _ => feed_notMem_quote text
      have whole := read_eq_sorted_iff plain named
      simp only [written]
      constructor
      · exact whole
      · intro restorable noReturn tree path
        rw [← whole.mpr restorable]
        exact load_store written (return_notMem_unlines stamped noReturn) tree path

/-- A catalog with one service, whose documentation holds what means something elsewhere in a
file, and with the characteristic to which it refers. -/
def lightbulbCatalog : Catalog where
  services := [{
    identifier := "HMServiceTypeLightbulb", name := "Lightbulb", swiftName := "lightbulb"
    documentation := some "# Say \"on\":\n- identifier: \\", deprecated := true
    required := ["Power State"], optional := [] }]
  characteristics := [{
    identifier := "HMCharacteristicTypePowerState", name := "Power State"
    swiftName := "powerState", valueKind := .boolean, documentation := some ""
    deprecated := false }]

/-- It comes back whole, also from a file in an empty working directory. -/
theorem write_read_lightbulbCatalog :
    ∃ text, write (.ofUnixSeconds 0) lightbulbCatalog = .ok text ∧
      read text = ⟨lightbulbCatalog.sorted, 0⟩ ∧
      load (store (.ofUnixSeconds 0) lightbulbCatalog (.empty ["home"])
        ⟨.relative, ["out", "catalog.yaml"]⟩).tree ⟨.relative, ["out", "catalog.yaml"]⟩ =
          .ok ⟨lightbulbCatalog.sorted, 0⟩ := by
  have roundTrip := write_read_roundTrip (.ofUnixSeconds 0) lightbulbCatalog (by decide) (by decide)
  have restorable : IsRestorable lightbulbCatalog := by decide
  have noReturn : IsAbsent '\r' (lightbulbCatalog.names ++ lightbulbCatalog.references ++
      lightbulbCatalog.documentations) := by decide
  cases written : write (.ofUnixSeconds 0) lightbulbCatalog with
  | error problem =>
      rw [written] at roundTrip
      exact absurd roundTrip.2 (by decide)
  | ok text =>
      rw [written] at roundTrip
      obtain ⟨whole, filed⟩ := roundTrip
      have loaded : ∀ (tree : FileTree) (path : Path), (tree.writeFile path text).error = none →
          load (store (.ofUnixSeconds 0) lightbulbCatalog tree path).tree path =
            .ok ⟨lightbulbCatalog.sorted, 0⟩ := by
        intro tree path accepted
        have stored := filed restorable noReturn tree path
        rw [accepted] at stored
        exact stored.2
      exact ⟨text, rfl, whole.mpr restorable, loaded _ _ rfl⟩

end HomeCatalog.CatalogFile
