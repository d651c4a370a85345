import HomeCatalog.Extraction.Basic
import HomeCatalog.Proofs.Catalog.Sorting
import HomeCatalog.Proofs.CatalogFile.RoundTrip
import HomeCatalog.Proofs.Header.Declared
import HomeCatalog.Proofs.Reconciliation.Preservation

/-!
# What an extracted catalog holds

Every entry of an extracted catalog stands for a declaration of a header, and reconciling has only
set its references or its kind.  So its names are made of words, identifiers follow names, and
references are the names of characteristics or stand in the specification.
-/

namespace HomeCatalog.Extraction

open Header Reconciliation

/-! ## Names of declarations -/

/-- The names that an entry has whose declaration names a constant with a given stem. -/
def namesOf (stem : String) (declaration : Declaration) : List String :=
  [stem ++ declaration.name, declaration.name, Identifier.lowerFirst declaration.name]

theorem isSolidText_of_mem_namesOf {stem : String} {declaration : Declaration}
    (stemWord : Text.IsWord stem.toList) (word : Text.IsWord declaration.name.toList) :
    ∀ name ∈ namesOf stem declaration, Text.IsSolidText name.toList := by
  simp only [namesOf, List.forall_mem_cons, List.not_mem_nil, false_implies, implies_true,
    and_true]
  refine ⟨?_, word.isSolidText, ?_⟩
  · rw [String.toList_append]
    exact (stemWord.append word).isSolidText
  · rw [Identifier.toList_lowerFirst]
    exact Text.isSolidText_lowerHead word.isSolidText

/-- Solid names are not empty, plain, and a single line. -/
theorem isPlainName_of_isSolidText {name : String} (solid : Text.IsSolidText name.toList) :
    CatalogFile.IsPlainName name := by
  constructor
  · exact solid.isTrimmed
  · intro quoted
    exact solid.absent (by decide) (List.mem_of_mem_head? quoted.2.1)

theorem isItem_of_isWord {name : String} (word : Text.IsWord name.toList) :
    CatalogFile.IsItem name := by
  constructor
  · exact word.filled
  · exact word.isSolidText.isTrimmed
  · intro colon
    exact absurd (word.chars ':' colon) (by decide)

/-! ## Entries and their declarations -/

/-- Whether a service is what a declaration of a header stands for, but for its references. -/
def IsDeclaredService (header : String) (service : Service) : Prop :=
  ∃ declaration ∈ declarations serviceStem header, service.heading = declaration.service.heading

/-- Whether a characteristic is what a declaration of a header stands for, but for its kind. -/
def IsDeclaredCharacteristic (header : String) (characteristic : Characteristic) : Prop :=
  ∃ declaration ∈ declarations characteristicStem header,
    characteristic.heading = declaration.characteristic.heading

variable (sources : Sources)

theorem catalog_extract : (extract sources).catalog =
    (reconcile sources.declared (sources.metadata.bind MetadataSource.relationships?)).catalog :=
  rfl

/-- What of services does not depend on their references is as the header declares it, in order. -/
theorem map_services_extract {β : Type} {image : Service → β}
    (plain : ∀ service, image service.heading = image service) :
    (extract sources).catalog.services.map image =
      (declarations serviceStem sources.serviceHeader).map fun declaration =>
        image declaration.service := by
  have keeps : ∀ before after, ServiceStep sources.declared before after →
      image after = image before := by
    intro before after step
    rw [← plain after, step.heading_eq, plain before]
  rw [catalog_extract, map_eq_of_forall₂ keeps (forall₂_services_reconcile sources.declared _)]
  exact List.map_map

/-- What of characteristics does not depend on their kinds is as the header declares it, in order. -/
theorem map_characteristics_extract {β : Type} {image : Characteristic → β}
    (plain : ∀ characteristic, image characteristic.heading = image characteristic) :
    (extract sources).catalog.characteristics.map image =
      (declarations characteristicStem sources.characteristicHeader).map fun declaration =>
        image declaration.characteristic := by
  have keeps : ∀ before after,
      CharacteristicStep (sources.metadata.bind MetadataSource.relationships?) before after →
        image after = image before := by
    intro before after step
    rw [← plain after, step.1, plain before]
  rw [catalog_extract,
    map_eq_of_forall₂ keeps (forall₂_characteristics_reconcile sources.declared _)]
  exact List.map_map

theorem isDeclaredService_of_mem_extract :
    ∀ service ∈ (extract sources).catalog.services,
      IsDeclaredService sources.serviceHeader service := by
  rw [catalog_extract]
  refine forall_of_forall₂ ?_ (forall₂_services_reconcile sources.declared _) ?_
  · rintro before after step ⟨declaration, member, same⟩
    exact ⟨declaration, member, step.heading_eq.trans same⟩
  · intro service declared
    obtain ⟨declaration, member, rfl⟩ := List.mem_map.mp declared
    exact ⟨declaration, member, rfl⟩

theorem isDeclaredCharacteristic_of_mem_extract :
    ∀ characteristic ∈ (extract sources).catalog.characteristics,
      IsDeclaredCharacteristic sources.characteristicHeader characteristic := by
  rw [catalog_extract]
  refine forall_of_forall₂ ?_ (forall₂_characteristics_reconcile sources.declared _) ?_
  · rintro before after step ⟨declaration, member, same⟩
    exact ⟨declaration, member, step.1.trans same⟩
  · intro characteristic declared
    obtain ⟨declaration, member, rfl⟩ := List.mem_map.mp declared
    exact ⟨declaration, member, rfl⟩

/-- What holds of the names of all declarations holds of all names of an extracted catalog. -/
theorem forall_mem_names_extract {holds : String → Prop}
    (named : ∀ (stem : String) (declaration : Declaration), Text.IsWord stem.toList →
      Text.IsWord declaration.name.toList → ∀ name ∈ namesOf stem declaration, holds name) :
    ∀ name ∈ (extract sources).catalog.names, holds name := by
  refine Catalog.forall_mem_names.mpr ?_
  constructor
  · intro service member
    obtain ⟨declaration, declared, same⟩ := isDeclaredService_of_mem_extract sources service member
    have names : service.names = namesOf serviceStem declaration := congrArg Service.names same
    rw [names]
    exact named _ _ isWord_serviceStem (isWord_of_mem_declarations declared)
  · intro characteristic member
    obtain ⟨declaration, declared, same⟩ :=
      isDeclaredCharacteristic_of_mem_extract sources characteristic member
    have names : characteristic.names = namesOf characteristicStem declaration :=
      congrArg Characteristic.names same
    rw [names]
    exact named _ _ isWord_characteristicStem (isWord_of_mem_declarations declared)

/-- All names of an extracted catalog are solid. -/
theorem isSolidText_of_mem_names :
    ∀ name ∈ (extract sources).catalog.names, Text.IsSolidText name.toList :=
  forall_mem_names_extract sources fun _ _ => isSolidText_of_mem_namesOf

theorem ne_empty_of_mem_names : ∀ name ∈ (extract sources).catalog.names, name ≠ "" := by
  rintro name member rfl
  exact (isSolidText_of_mem_names sources "" member).filled rfl

/-- Characteristics of one name have one identifier, since both come from one declared name. -/
theorem identifiersFollowNames_extract : (extract sources).catalog.IdentifiersFollowNames := by
  intro left inLeft right inRight sameName
  have identifier_eq : ∀ characteristic ∈ (extract sources).catalog.characteristics,
      characteristic.identifier = characteristicStem ++ characteristic.name := by
    intro characteristic member
    obtain ⟨declaration, _, same⟩ :=
      isDeclaredCharacteristic_of_mem_extract sources characteristic member
    have identifier := congrArg Characteristic.identifier same
    have name := congrArg Characteristic.name same
    exact identifier.trans (congrArg (characteristicStem ++ ·) name.symm)
  rw [identifier_eq left inLeft, identifier_eq right inRight, sameName]

/-- All references of an extracted catalog are words. -/
theorem isWord_of_mem_references :
    ∀ name ∈ (extract sources).catalog.references, Text.IsWord name.toList := by
  refine Catalog.forall_mem_references.mpr ?_
  rw [catalog_extract]
  refine forall_of_forall₂ ?_ (forall₂_services_reconcile sources.declared _) ?_
  · intro before after step words
    cases step with
    | stay => exact words
    | refer source =>
        intro name member
        rcases source.known name member with known | ⟨entry, specified, inEntry⟩
        · obtain ⟨characteristic, declared, rfl⟩ := List.mem_map.mp known
          obtain ⟨declaration, found, rfl⟩ := List.mem_map.mp declared
          exact isWord_of_mem_declarations found
        · have sound : ∀ entry ∈ specification, ∀ name ∈ entry.2.1 ++ entry.2.2,
              name.toList ≠ [] ∧ name.toList.all Text.isWordChar = true := by
            decide +kernel
          obtain ⟨filled, chars⟩ := sound entry specified name inEntry
          exact ⟨filled, List.all_eq_true.mp chars⟩
  · intro service declared
    obtain ⟨declaration, _, rfl⟩ := List.mem_map.mp declared
    intro name member
    cases member

/-- Documentation of an extracted catalog holds nothing but characters of the headers and
spaces. -/
theorem notMem_documentations {c : Char} (inked : c ≠ ' ')
    (services : c ∉ sources.serviceHeader.toList)
    (characteristics : c ∉ sources.characteristicHeader.toList) :
    CatalogFile.IsAbsent c (extract sources).catalog.documentations := by
  refine List.forall_mem_append.mpr ?_
  constructor
  · intro text member inText
    obtain ⟨service, known, documented⟩ := List.mem_filterMap.mp member
    obtain ⟨declaration, declared, same⟩ := isDeclaredService_of_mem_extract sources service known
    have documentation := (congrArg Service.documentation same).symm.trans documented
    rcases mem_of_mem_declarations declared documentation c inText with inHeader | space
    · exact services inHeader
    · exact inked space
  · intro text member inText
    obtain ⟨characteristic, known, documented⟩ := List.mem_filterMap.mp member
    obtain ⟨declaration, declared, same⟩ :=
      isDeclaredCharacteristic_of_mem_extract sources characteristic known
    have documentation := (congrArg Characteristic.documentation same).symm.trans documented
    rcases mem_of_mem_declarations declared documentation c inText with inHeader | space
    · exact characteristics inHeader
    · exact inked space

/-- An extracted catalog comes back whole from a catalog file. -/
theorem isRestorable_extract : CatalogFile.IsRestorable (extract sources).catalog := by
  constructor
  · intro name member
    apply isPlainName_of_isSolidText
    exact isSolidText_of_mem_names sources name member
  · intro name member
    apply isItem_of_isWord
    exact isWord_of_mem_references sources name member

/-- No name or reference of an extracted catalog holds a character that ends lines. -/
theorem isAbsent_extract {ending : Char} (isEnding : CatalogFile.IsLineEnd ending) :
    CatalogFile.IsAbsent ending
      ((extract sources).catalog.names ++ (extract sources).catalog.references) := by
  have unsolid : Text.isSolid ending = false := by
    rcases isEnding with rfl | rfl <;> decide
  refine CatalogFile.isAbsent_append.mpr ?_
  constructor
  · intro name member
    exact (isSolidText_of_mem_names sources name member).absent unsolid
  · intro name member
    exact (isWord_of_mem_references sources name member).isSolidText.absent unsolid

end HomeCatalog.Extraction
