import HomeCatalog.Proofs.Bindings.TypeScript.Closed

/-!
# TypeScript bindings that can be read

Comments show documentation and names, and literals hold identifiers.  Nothing in a comment is
escaped, and in a literal nothing but quotes and backslashes.  So as TypeScript the tree of a
catalog is complete and closed exactly if no text that a comment shows closes it, and no identifier
goes over more than one line.
-/

namespace HomeCatalog.Bindings.TypeScript

open Identifier

/-- Whether the texts of an entry end neither the comment nor the literal in which they stand. -/
def IsContained (documentation : Option String) (name identifier : String) : Prop :=
  ¬Closes (shownText documentation name) ∧
    '\n' ∉ identifier.toList ∧ '\r' ∉ identifier.toList

instance (documentation : Option String) (name identifier : String) :
    Decidable (IsContained documentation name identifier) :=
  inferInstanceAs (Decidable (¬_ ∧ _))

/-- Whether no text of a catalog ends the comment or the literal in which it stands. -/
structure IsLegible (catalog : Catalog) : Prop where
  services : ∀ entry ∈ catalog.services,
    IsContained entry.documentation entry.name entry.identifier
  characteristics : ∀ entry ∈ catalog.characteristics,
    IsContained entry.documentation entry.name entry.identifier
  references : ∀ entry ∈ catalog.services,
    ∀ reference ∈ references catalog.characteristicsByName entry,
      ¬Closes reference.characteristic.name

/-- A comment about an entry is closed by its label only with what it shows. -/
theorem closes_commentText_append_iff {label name : String} {documentation : Option String}
    (space : label.toList.getLast? = some ' ') (plain : ¬Closes label) :
    Closes (commentText documentation (label ++ name)) ↔
      Closes (shownText documentation name) := by
  rw [closes_commentText]
  cases documentation with
  | none => exact closes_append_iff space plain
  | some text =>
      rw [shownText, shownText]
      split
      · exact closes_append_iff space plain
      · rfl

/-- The comment of a property closes itself exactly if the name of its characteristic does. -/
theorem closes_referenceWord_append_iff (isRequired : Bool) {name : String} :
    Closes (referenceWord isRequired ++ " characteristic: " ++ name) ↔ Closes name := by
  cases isRequired with
  | false => exact closes_append_iff (by decide) (by decide)
  | true => exact closes_append_iff (by decide) (by decide)

variable {catalog : Catalog}

/-! ## Which files can be read -/

/-- What shows of an entry in a comment and in a literal can be read exactly if it ends neither. -/
theorem isKept_and_spells_iff {label name identifier : String} {documentation : Option String}
    (space : label.toList.getLast? = some ' ') (plain : ¬Closes label) :
    Reading.asTypeScript.isKept (commentText documentation (label ++ name)) ∧
        Reading.asTypeScript.Spells identifier ↔ IsContained documentation name identifier :=
  and_congr (not_congr (closes_commentText_append_iff space plain))
    Reading.spells_asTypeScript_iff

theorem takes_serviceEnum_iff (names : Names) :
    Reading.asTypeScript.Takes (.members (serviceEnum catalog names)) ↔
      ∀ entry ∈ catalog.services,
        IsContained entry.documentation entry.name entry.identifier := by
  simp only [Reading.Takes, serviceEnum, List.forall_mem_map, Catalog.mem_sortedServices]
  exact forall₂_congr fun _ _ => isKept_and_spells_iff (by decide) (by decide)

theorem takes_characteristicEnum_iff (names : Names) :
    Reading.asTypeScript.Takes (.members (characteristicEnum catalog names)) ↔
      ∀ entry ∈ catalog.characteristics,
        IsContained entry.documentation entry.name entry.identifier := by
  simp only [Reading.Takes, characteristicEnum, List.forall_mem_map,
    Catalog.mem_sortedCharacteristics]
  exact forall₂_congr fun _ _ => isKept_and_spells_iff (by decide) (by decide)

theorem takes_aliasFile_iff (names : Names) (entry : Characteristic) :
    Reading.asTypeScript.Takes (.characteristic (aliasFile names entry)) ↔
      ¬Closes (shownText entry.documentation entry.name) :=
  not_congr (closes_commentText_append_iff (by decide) (by decide))

theorem takes_interfaceFile_iff (names : Names) (byName : List (String × Characteristic))
    (entry : Service) :
    Reading.asTypeScript.Takes (.service (interfaceFile names byName entry)) ↔
      IsContained entry.documentation entry.name entry.identifier ∧
        ∀ reference ∈ references byName entry, ¬Closes reference.characteristic.name := by
  have comments : (∀ property ∈ properties names (references byName entry),
        ¬Closes property.comment) ↔
      ∀ reference ∈ references byName entry, ¬Closes reference.characteristic.name := by
    rw [← List.forall_mem_map (f := Property.comment) (P := fun text => ¬Closes text),
      map_comment_properties, List.forall_mem_map]
    simp only [closes_referenceWord_append_iff]
  exact and_congr (isKept_and_spells_iff (by decide) (by decide)) comments

/-- All files of a catalog can be read as TypeScript exactly if its texts are legible. -/
theorem takes_sources_iff :
    (∀ file ∈ sources catalog, Reading.asTypeScript.Takes file.2) ↔ IsLegible catalog := by
  rw [forall_mem_sources fun source => Reading.asTypeScript.Takes source, takes_serviceEnum_iff,
    takes_characteristicEnum_iff]
  simp only [takes_aliasFile_iff, takes_interfaceFile_iff]
  constructor
  · rintro ⟨⟨services, characteristics⟩, _, interfaces, _⟩
    exact ⟨services, characteristics, fun entry member => (interfaces entry member).2⟩
  · rintro ⟨services, characteristics, references⟩
    exact ⟨⟨services, characteristics⟩, fun entry member => (characteristics entry member).1,
      fun entry member => ⟨services entry member, references entry member⟩, trivial⟩

/-! ## The whole tree -/

/-- Rendering a catalog with distinct identifiers fails only where the moment has no stamp.  Else it
gives the texts of files that are a complete and closed tree as they were written, and as TypeScript
exactly if the texts of the catalog are legible. -/
theorem render_typeScript_isClosed_iff (distinct : catalog.HasDistinctIdentifiers)
    (moment : Calendar.Moment) :
    match render .typeScript moment catalog with
    | .error problem => problem = .timeOutOfRange ∧ moment.stamp? = none
    | .ok rendering => ∃ stamp, moment.stamp? = some stamp ∧
        rendering.files =
          (sources catalog).map (fun file => (file.1, header stamp ++ file.2.body)) ∧
        IsClosed .asWritten catalog (sources catalog) ∧
        (IsClosed .asTypeScript catalog (sources catalog) ↔ IsLegible catalog) := by
  rw [render]
  cases moment.stamp? with
  | none => exact ⟨rfl, rfl⟩
  | some stamp =>
      refine ⟨stamp, rfl, tree_eq distinct stamp, ?_, ?_⟩
      · exact isClosed_of_takes distinct fun file _ => takes_asWritten file.2
      · rw [isClosed_sources_iff distinct, takes_sources_iff]

/-- The files of entries that meet are told apart, and so are the members of their enums. -/
theorem render_typeScript_meetingCatalog :
    ∃ rendering, render .typeScript (.ofUnixSeconds 0) meetingCatalog = .ok rendering ∧
      IsClosed .asTypeScript meetingCatalog (sources meetingCatalog) ∧
      rendering.files.map Prod.fst =
        [ "serviceTypes.ts", "characteristicTypes.ts", "characteristics/_.ts",
          "characteristics/_9livesCharacteristic.ts", "characteristics/DefaultCharacteristic.ts",
          "characteristics/LevelCharacteristic.ts", "characteristics/LevelCharacteristic2.ts",
          "characteristics/Level2Characteristic.ts", "services/FanService.ts",
          "services/FanService2.ts", "index.ts" ] := by
  have stamped : Calendar.Moment.stamp? (.ofUnixSeconds 0) ≠ none := by decide +kernel
  have legible : IsLegible meetingCatalog :=
    ⟨by decide +kernel, by decide +kernel, by decide +kernel⟩
  have closed := render_typeScript_isClosed_iff hasDistinctIdentifiers_meetingCatalog
    (.ofUnixSeconds 0)
  cases rendered : render .typeScript (.ofUnixSeconds 0) meetingCatalog with
  | error problem =>
      rw [rendered] at closed
      exact absurd closed.2 stamped
  | ok rendering =>
      rw [rendered] at closed
      obtain ⟨stamp, _, files, _, closed⟩ := closed
      refine ⟨rendering, rfl, closed.mpr legible, ?_⟩
      rw [files, List.map_map]
      change (sources meetingCatalog).map Prod.fst = _
      simp only [sources, Names.ofCatalog, sortedServices_meetingCatalog,
        sortedCharacteristics_meetingCatalog]
      decide +kernel

/-- A catalog with a documentation that closes its comment and goes on as a member of an enum. -/
def closingCatalog : Catalog where
  services := [⟨"HMServiceTypeFan", "Fan", "fan", some "*/ Extra = 'x', /*", false, [], []⟩]
  characteristics := []

/-- A catalog with an identifier of two lines. -/
def brokenCatalog : Catalog where
  services := [⟨"HMServiceType\nFan", "Fan", "fan", none, false, [], []⟩]
  characteristics := []

/-- As TypeScript neither tree is complete and closed.  The comment of the first one's enum ends
before the member that its documentation adds. -/
theorem not_isClosed_closingCatalog_brokenCatalog :
    (closingCatalog.HasDistinctIdentifiers ∧ brokenCatalog.HasDistinctIdentifiers) ∧
      (∃ rendering text, render .typeScript (.ofUnixSeconds 0) closingCatalog = .ok rendering ∧
        ("serviceTypes.ts", text) ∈ rendering.files ∧
        blockComments text =
          [ "*\n * HomeKit Service Type identifiers\n * Auto-generated from HomeKit catalog\n ",
            "* ", " " ]) ∧
      ¬IsClosed .asTypeScript closingCatalog (sources closingCatalog) ∧
      ¬IsClosed .asTypeScript brokenCatalog (sources brokenCatalog) := by
  have distinct : closingCatalog.HasDistinctIdentifiers := by decide
  have distinct' : brokenCatalog.HasDistinctIdentifiers := by decide
  refine ⟨⟨distinct, distinct'⟩, ?_, ?_, ?_⟩
  · have stamped : Calendar.Moment.stamp? (.ofUnixSeconds 0) = some "1970-01-01T00:00:00Z" := by
      decide +kernel
    have stored := lookup_tree_members (stored_serviceEnum closingCatalog) "1970-01-01T00:00:00Z"
    rw [render, stamped]
    refine ⟨_, _, rfl, Entries.mem_of_lookup stored, ?_⟩
    decide +kernel
  · rw [isClosed_sources_iff distinct, takes_sources_iff]
    intro legible
    exact absurd legible.services (by decide +kernel)
  · rw [isClosed_sources_iff distinct', takes_sources_iff]
    intro legible
    exact absurd legible.services (by decide +kernel)

end HomeCatalog.Bindings.TypeScript
