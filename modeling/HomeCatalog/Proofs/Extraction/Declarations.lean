import HomeCatalog.Proofs.Bindings.Repeats
import HomeCatalog.Proofs.Extraction.Extracted
import HomeCatalog.Proofs.Extraction.Sources

/-!
# What the bindings of a framework declare twice

The names that headers declare decide what the bindings of a framework declare twice.  A header may
declare a constant in two branches for its preprocessor, and every declaration is an entry.
-/

namespace HomeCatalog.Extraction

open Bindings Header

/-! ## Identifiers and requests for types -/

variable (sources : Sources)

theorem map_identifier_services :
    (extract sources).catalog.services.map Service.identifier =
      (declaredNames serviceStem sources.serviceHeader).map (serviceStem ++ ·) := by
  rw [map_services_extract sources fun _ => rfl, declaredNames, List.map_map]
  rfl

theorem map_identifier_characteristics :
    (extract sources).catalog.characteristics.map Characteristic.identifier =
      (declaredNames characteristicStem sources.characteristicHeader).map
        (characteristicStem ++ ·) := by
  rw [map_characteristics_extract sources fun _ => rfl, declaredNames, List.map_map]
  rfl

theorem map_typeRequest_services :
    (extract sources).catalog.services.map typeRequest =
      (declaredNames serviceStem sources.serviceHeader).map fun name =>
        (name, Identifier.lowerFirst name) := by
  rw [map_services_extract sources fun _ => rfl, declaredNames, List.map_map]
  rfl

theorem map_aliasRequest_characteristics :
    (extract sources).catalog.characteristics.map aliasRequest =
      (declaredNames characteristicStem sources.characteristicHeader).map fun name =>
        (Identifier.lowerFirst name, name) := by
  rw [map_characteristics_extract sources fun _ => rfl, declaredNames, List.map_map]
  rfl

/-- A stem in front of names keeps them apart. -/
theorem stem_injective (stem : String) : Function.Injective (stem ++ ·) := by
  intro left right same
  have texts := congrArg String.toList same
  simp only [String.toList_append] at texts
  exact String.toList_inj.mp (List.append_cancel_left texts)

/-- No identifier repeats exactly if no header declares a name twice. -/
theorem hasDistinctIdentifiers_extract_iff :
    (extract sources).catalog.HasDistinctIdentifiers ↔
      (declaredNames serviceStem sources.serviceHeader).Nodup ∧
        (declaredNames characteristicStem sources.characteristicHeader).Nodup := by
  have services := List.nodup_map_iff (l := declaredNames serviceStem sources.serviceHeader)
    (stem_injective serviceStem)
  have characteristics := List.nodup_map_iff
    (l := declaredNames characteristicStem sources.characteristicHeader)
    (stem_injective characteristicStem)
  rw [← services, ← characteristics, ← map_identifier_services, ← map_identifier_characteristics]
  constructor
  · exact fun distinct => ⟨distinct.services, distinct.characteristics⟩
  · exact fun ⟨services, characteristics⟩ => ⟨services, characteristics⟩

/-- Types can be made for all entries of one sort exactly if they can for all declared names. -/
theorem hasTypesOfOneSort_extract_iff :
    HasTypesOfOneSort (extract sources).catalog ↔
      (∀ name ∈ declaredNames serviceStem sources.serviceHeader,
          IsNameable "Service" (name, Identifier.lowerFirst name)) ∨
        ∀ name ∈ declaredNames characteristicStem sources.characteristicHeader,
          IsNameable "Characteristic" (Identifier.lowerFirst name, name) := by
  have services : (∀ service ∈ (extract sources).catalog.services,
      IsNameable "Service" (typeRequest service)) ↔
        ∀ name ∈ declaredNames serviceStem sources.serviceHeader,
          IsNameable "Service" (name, Identifier.lowerFirst name) := by
    have requests := map_typeRequest_services sources
    rw [← List.forall_mem_map (f := typeRequest), requests, List.forall_mem_map]
  have characteristics : (∀ characteristic ∈ (extract sources).catalog.characteristics,
      IsNameable "Characteristic" (aliasRequest characteristic)) ↔
        ∀ name ∈ declaredNames characteristicStem sources.characteristicHeader,
          IsNameable "Characteristic" (Identifier.lowerFirst name, name) := by
    have requests := map_aliasRequest_characteristics sources
    rw [← List.forall_mem_map (f := aliasRequest), requests, List.forall_mem_map]
  rw [HasTypesOfOneSort, services, characteristics]

/-- The bindings of a framework declare nothing twice exactly if neither header declares a name
twice, and types can be made for all services or for all characteristics that are declared. -/
theorem run_declaresOnce_iff {tree : FileTree} {layout : Layout} {metadata : Option Path}
    {outcome : Outcome} (extracted : run tree layout metadata = .ok outcome) :
    ∃ serviceHeader characteristicHeader,
      readHeader tree layout.serviceHeader = .ok serviceHeader ∧
      readHeader tree layout.characteristicHeader = .ok characteristicHeader ∧
      (DeclaresOnce outcome.catalog ↔
        (declaredNames serviceStem serviceHeader).Nodup ∧
        (declaredNames characteristicStem characteristicHeader).Nodup ∧
        ((∀ name ∈ declaredNames serviceStem serviceHeader,
            IsNameable "Service" (name, Identifier.lowerFirst name)) ∨
          ∀ name ∈ declaredNames characteristicStem characteristicHeader,
            IsNameable "Characteristic" (Identifier.lowerFirst name, name))) ∧
      ∀ moment : Calendar.Moment, ∀ stamp ∈ moment.stamp?, ∃ swift typeScript,
        render .swift moment outcome.catalog = .ok swift ∧
        render .typeScript moment outcome.catalog = .ok typeScript ∧
        AreRendered stamp outcome.catalog swift.files typeScript.files := by
  obtain ⟨sources, read, rfl⟩ := run_eq_ok_iff.mp extracted
  refine ⟨_, _, read.serviceHeader, read.characteristicHeader, ?_, ?_⟩
  · rw [declaresOnce_iff, hasDistinctIdentifiers_extract_iff, hasTypesOfOneSort_extract_iff,
      and_assoc]
  · intro moment stamp stamped
    have rendered : ∀ target, render target moment (extract sources).catalog =
        .ok ⟨files target stamp (extract sources).catalog,
          unresolvedReferences (extract sources).catalog⟩ := by
      intro target
      rw [render, Option.mem_def.mp stamped]
    exact ⟨_, _, rendered .swift, rendered .typeScript, areRendered_files stamp _⟩

/-- A characteristic without a type of its own does no harm where every service has one. -/
theorem run_chimeHeader_declaresOnce :
    ∃ outcome, run (frameworkTree chimeHeader bareHeader []) frameworkLayout none = .ok outcome ∧
      DeclaresOnce outcome.catalog := by
  have plain : '\r' ∉ chimeHeader.toList := by decide +kernel
  have plain' : '\r' ∉ bareHeader.toList := by decide +kernel
  have extracted : run (frameworkTree chimeHeader bareHeader []) frameworkLayout none = _ :=
    run_frameworkTree plain plain' rfl
  obtain ⟨services, characteristics, readServices, readCharacteristics, once, _⟩ :=
    run_declaresOnce_iff extracted
  obtain ⟨chimes, bare⟩ := readHeaders_frameworkTree plain plain' []
  obtain rfl : chimeHeader = services := Except.ok.inj (chimes.symm.trans readServices)
  obtain rfl : bareHeader = characteristics := Except.ok.inj (bare.symm.trans readCharacteristics)
  have serviceNames : declaredNames serviceStem chimeHeader = ["Chime", "Siren"] := by
    decide +kernel
  have characteristicNames : declaredNames characteristicStem bareHeader = ["Characteristic"] := by
    decide +kernel
  refine ⟨_, extracted, once.mpr ?_⟩
  rw [serviceNames, characteristicNames]
  decide +kernel

/-- A header that declares one constant in two branches, and a service for which no type can be
made. -/
def branchedHeader : String :=
  "#if TARGET_OS_IOS\nHM_EXTERN NSString * const HMServiceTypeChime;\n" ++
    "#else\nHM_EXTERN NSString * const HMServiceTypeChime;\n#endif\n" ++
    "HM_EXTERN NSString * const HMServiceTypeService;\n"

/-- What it declares. -/
def branchedCatalog : Catalog where
  services := [
    ⟨"HMServiceTypeChime", "Chime", "chime", none, false, [], []⟩,
    ⟨"HMServiceTypeChime", "Chime", "chime", none, false, [], []⟩,
    ⟨"HMServiceTypeService", "Service", "service", none, false, [], []⟩]
  characteristics := [
    ⟨"HMCharacteristicTypeCharacteristic", "Characteristic", "characteristic", .text, none, false⟩]

/-- The constant of both branches is declared twice under the name of the second, and the index
exports an underscore for either sort. -/
theorem run_branchedHeader_declares_twice :
    ∃ outcome, run (frameworkTree branchedHeader bareHeader []) frameworkLayout none =
        .ok outcome ∧
      ¬DeclaresOnce outcome.catalog ∧
      (Swift.serviceConstants outcome.catalog
        (Swift.Names.ofCatalog outcome.catalog)).constants.map Swift.Constant.name =
          ["chime2", "chime2", "service"] ∧
      (TypeScript.serviceEnum outcome.catalog
        (TypeScript.Names.ofCatalog outcome.catalog)).members.map TypeScript.Member.key =
          ["CHIME2", "CHIME2", "SERVICE"] ∧
      (TypeScript.indexFile outcome.catalog
        (TypeScript.Names.ofCatalog outcome.catalog)).exports =
          ["ServiceTypes", "CharacteristicTypes", "_", "ChimeService2", "ChimeService2", "_"] := by
  have catalog :
      (extract ⟨branchedHeader, bareHeader, ⟨frameworkStub, none⟩, none⟩).catalog =
        branchedCatalog := by
    decide +kernel
  have services : branchedCatalog.sortedServices = branchedCatalog.services :=
    List.mergeSort_of_pairwise (by decide)
  have characteristics :
      branchedCatalog.sortedCharacteristics = branchedCatalog.characteristics :=
    List.mergeSort_of_pairwise (by decide)
  refine ⟨_, run_frameworkTree (by decide +kernel) (by decide +kernel) rfl, ?_⟩
  rw [catalog]
  refine ⟨?_, ?_, ?_, ?_⟩
  · rw [declaresOnce_iff]
    exact fun once => absurd once.1 (by decide)
  · simp only [Swift.serviceConstants, Swift.Names.ofCatalog, services, characteristics]
    decide +kernel
  · simp only [TypeScript.serviceEnum, TypeScript.Names.ofCatalog, services, characteristics]
    decide +kernel
  · simp only [TypeScript.indexFile, TypeScript.Names.ofCatalog, services, characteristics]
    decide +kernel

end HomeCatalog.Extraction
