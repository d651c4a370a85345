import HomeCatalog.Proofs.Extraction.Extracted
import HomeCatalog.Proofs.Extraction.Sources
import HomeCatalog.Proofs.Metadata.Loading

/-!
# What the optional sources of a catalog can change

Two runs over the same headers fail alike or extract the same entries, which then differ in their
references and in their kinds at most.  A stub shows in the findings only, and metadata that cannot
be loaded shows as one further finding.

Metadata on which the reader breaks down ends the run.  A reader breaks down on some well-formed
documents too, where collections lie too deep inside each other or a number in base sixty has too
many places.  This module sets such documents aside.  Among the others there is one exception left:
a valid record under a key that is too long.
-/

namespace HomeCatalog.Extraction

open Metadata

/-! ## Runs that agree -/

/-- Whether two runs fail with one problem, or succeed with outcomes that fit each other. -/
inductive Agree (fits : Outcome → Outcome → Prop) :
    Except Problem Outcome → Except Problem Outcome → Prop where
  | failed (problem : Problem) : Agree fits (.error problem) (.error problem)
  | succeeded {left right : Outcome} (fit : fits left right) : Agree fits (.ok left) (.ok right)

/-- Whether two outcomes have the same entries, but for references and kinds. -/
structure HasSameHeadings (left right : Outcome) : Prop where
  services :
    left.catalog.services.map Service.heading = right.catalog.services.map Service.heading
  characteristics :
    left.catalog.characteristics.map Characteristic.heading =
      right.catalog.characteristics.map Characteristic.heading

/-- Whether two outcomes differ in their findings only. -/
structure HasSameCatalog (left right : Outcome) : Prop where
  catalog : left.catalog = right.catalog
  summary : left.summary = right.summary

/-- Whether two outcomes differ by one finding only, about metadata that cannot be loaded, which
stands in front of the last finding. -/
structure AddsUnavailable (path : Path) (problem : Problem) (left right : Outcome) : Prop
    extends HasSameCatalog left right where
  findings : ∃ before applied,
    right.findings = before ++ [.fallbackApplied applied] ∧
      left.findings =
        before ++ [.metadataUnavailable path problem.message, .fallbackApplied applied]

/-- The headings of entries come from the headers alone. -/
theorem hasSameHeadings_extract (sources others : Sources)
    (services : sources.serviceHeader = others.serviceHeader)
    (characteristics : sources.characteristicHeader = others.characteristicHeader) :
    HasSameHeadings (extract sources) (extract others) := by
  constructor
  · rw [map_services_extract sources fun _ => rfl, map_services_extract others fun _ => rfl, services]
  · rw [map_characteristics_extract sources fun _ => rfl,
      map_characteristics_extract others fun _ => rfl, characteristics]

/-- A stub does not show in the catalog, and neither in the summary. -/
theorem hasSameCatalog_extract (serviceHeader characteristicHeader : String)
    (stub other : StubSource) (metadata : Option MetadataSource) :
    HasSameCatalog (extract ⟨serviceHeader, characteristicHeader, stub, metadata⟩)
      (extract ⟨serviceHeader, characteristicHeader, other, metadata⟩) :=
  ⟨rfl, rfl⟩

/-- Metadata that cannot be loaded counts as none, and is reported. -/
theorem addsUnavailable_extract (serviceHeader characteristicHeader : String) (stub : StubSource)
    (path : Path) (problem : Problem) :
    AddsUnavailable path problem
      (extract ⟨serviceHeader, characteristicHeader, stub,
        some ⟨path, .error problem.message⟩⟩)
      (extract ⟨serviceHeader, characteristicHeader, stub, none⟩) := by
  refine ⟨⟨rfl, rfl⟩, ?_⟩
  -- Findings about the stub come first, then those about metadata, then the strategy.
  let services := Header.services serviceHeader
  let before := stub.findings ++
    Stub.check services (Header.characteristics characteristicHeader) stub.symbols
  refine ⟨before, services.countP Reconciliation.isSpecified, ?_, ?_⟩
  · change before ++ [] ++ [_] = _
    rw [List.append_nil]
    rfl
  · change before ++ [_] ++ [_] = _
    rw [List.append_assoc]
    rfl

/-! ## Headers and stubs -/

variable {tree left right : FileTree} {layout : Layout} {metadata metadata' : Option Path}

/-- Read what a framework holds: its headers, and its stub if there is one. -/
def readFramework (tree : FileTree) (layout : Layout) :
    Except Problem (String × String × StubSource) := do
  let serviceHeader ← readHeader tree layout.serviceHeader
  let characteristicHeader ← readHeader tree layout.characteristicHeader
  return (serviceHeader, characteristicHeader, ← readStub tree layout)

/-- Behind the framework only the metadata is read. -/
theorem run_eq :
    run tree layout metadata =
      readFramework tree layout >>= fun (serviceHeader, characteristicHeader, stub) =>
        (metadata.mapM (readMetadata tree)).map fun loaded =>
          extract ⟨serviceHeader, characteristicHeader, stub, loaded⟩ := by
  rw [run, readSources, readFramework]
  cases readHeader tree layout.serviceHeader with
  | error _ => rfl
  | ok serviceHeader =>
      cases readHeader tree layout.characteristicHeader with
      | error _ => rfl
      | ok characteristicHeader =>
          cases readStub tree layout with
          | error _ => rfl
          | ok stub =>
              cases metadata.mapM (readMetadata tree) with
              | error _ => rfl
              | ok loaded => rfl

theorem run_of_framework_error {problem : Problem}
    (failed : readFramework tree layout = .error problem) (metadata : Option Path) :
    run tree layout metadata = .error problem := by
  rw [run_eq, failed]
  rfl

theorem run_of_framework_ok {serviceHeader characteristicHeader : String} {stub : StubSource}
    (read : readFramework tree layout = .ok (serviceHeader, characteristicHeader, stub))
    (metadata : Option Path) :
    run tree layout metadata =
      (metadata.mapM (readMetadata tree)).map fun loaded =>
        extract ⟨serviceHeader, characteristicHeader, stub, loaded⟩ := by
  rw [run_eq, read]
  rfl

/-- Whether two trees hold the same headers of a framework. -/
structure SharesHeaders (layout : Layout) (left right : FileTree) : Prop where
  services : left.find layout.serviceHeader = right.find layout.serviceHeader
  characteristics : left.find layout.characteristicHeader = right.find layout.characteristicHeader

/-- Whether the stub of a framework is missing, or a text. -/
def HasProperStub (layout : Layout) (tree : FileTree) : Prop :=
  ∀ path ∈ layout.stub?, tree.isFile path = .ok false ∨
    ∃ text, tree.isFile path = .ok true ∧ tree.readText path = .ok text

/-- What is read of a file depends on what lies at its path only. -/
theorem readHeader_congr {path : Path} (same : left.find path = right.find path) :
    readHeader left path = readHeader right path := by
  simp only [readHeader, FileTree.isFile, FileTree.readText, FileTree.readBytes, same]

theorem readMetadata_congr {path : Path} (same : left.find path = right.find path) :
    readMetadata left path = readMetadata right path := by
  simp only [readMetadata, Metadata.load, FileTree.isFile, FileTree.readBytes, same]

/-- A proper stub is read, unless the framework has no name for one. -/
theorem readStub_of_proper (proper : HasProperStub layout tree) :
    match layout.stub? with
    | none => readStub tree layout = .error (.unnamedPath layout.framework)
    | some _ => ∃ stub, readStub tree layout = .ok stub := by
  rw [HasProperStub] at proper
  cases named : layout.stub? with
  | none => simp only [readStub, named]
  | some path =>
      rcases proper path (by simp [named]) with missing | ⟨text, isFile, read⟩
      · exact ⟨⟨path, none⟩, by simp only [readStub, named, missing]⟩
      · exact ⟨⟨path, some text⟩, by simp only [readStub, named, isFile, read]; rfl⟩

/-- Trees with the same headers and proper stubs fail alike, or differ in their stubs at most. -/
theorem readFramework_cases (shares : SharesHeaders layout left right)
    (proper : HasProperStub layout left) (proper' : HasProperStub layout right) :
    (∃ problem, readFramework left layout = .error problem ∧
        readFramework right layout = .error problem) ∨
      ∃ serviceHeader characteristicHeader stub stub',
        readFramework left layout = .ok (serviceHeader, characteristicHeader, stub) ∧
        readFramework right layout = .ok (serviceHeader, characteristicHeader, stub') := by
  have services := readHeader_congr shares.services
  have characteristics := readHeader_congr shares.characteristics
  rw [readFramework, readFramework, services, characteristics]
  cases readHeader right layout.serviceHeader with
  | error problem => exact Or.inl ⟨problem, rfl, rfl⟩
  | ok serviceHeader =>
      cases readHeader right layout.characteristicHeader with
      | error problem => exact Or.inl ⟨problem, rfl, rfl⟩
      | ok characteristicHeader =>
          have stub := readStub_of_proper proper
          have stub' := readStub_of_proper proper'
          cases named : layout.stub? with
          | none =>
              rw [named] at stub stub'
              left
              refine ⟨.unnamedPath layout.framework, ?_, ?_⟩
              · rw [stub]
                rfl
              · rw [stub']
                rfl
          | some path =>
              rw [named] at stub stub'
              obtain ⟨stub, read⟩ := stub
              obtain ⟨stub', read'⟩ := stub'
              right
              refine ⟨serviceHeader, characteristicHeader, stub, stub', ?_, ?_⟩
              · rw [read]
                rfl
              · rw [read']
                rfl

/-! ## Metadata -/

/-- Whether the metadata of a run has a key that is too long. -/
def HasLongKeys (tree : FileTree) (metadata : Option Path) : Prop :=
  ∃ path ∈ metadata, HasLongKey tree path

/-- Where documents are read without a breakdown, metadata is read, whether it can be loaded or not,
unless one of its keys is too long. -/
theorem readMetadata_cases (sound : ∀ path ∈ metadata, IsReadOrRefused tree path) :
    (∃ loaded, metadata.mapM (readMetadata tree) = .ok loaded ∧ ¬HasLongKeys tree metadata) ∨
      metadata.mapM (readMetadata tree) = .error (.breakdown .integerTooLong) ∧
        HasLongKeys tree metadata := by
  cases metadata with
  | none =>
      left
      refine ⟨none, rfl, ?_⟩
      rintro ⟨path, member, _⟩
      cases member
  | some path =>
      have given : HasLongKeys tree (some path) ↔ HasLongKey tree path := by
        simp [HasLongKeys]
      rw [given, Option.mapM_some, readMetadata]
      by_cases long : HasLongKey tree path
      · right
        rw [long.load_eq]
        exact ⟨rfl, long⟩
      · left
        cases loaded : Metadata.load tree path with
        | ok relationships => exact ⟨_, rfl, long⟩
        | error problem =>
            have dispensable := (isDispensable_of_load (sound path rfl) loaded).resolve_right long
            simp only [dispensable]
            exact ⟨_, rfl, long⟩

/-! ## Two runs -/

/-- Runs over the same headers fail alike or extract the same headings, unless just one of them has
metadata with a key that is too long. -/
theorem agree_headings_iff (shares : SharesHeaders layout left right)
    (proper : HasProperStub layout left) (proper' : HasProperStub layout right)
    (sound : ∀ path ∈ metadata, IsReadOrRefused left path)
    (sound' : ∀ path ∈ metadata', IsReadOrRefused right path) :
    Agree HasSameHeadings (run left layout metadata) (run right layout metadata') ↔
      (∃ problem, run left layout none = .error problem) ∨
        (HasLongKeys left metadata ↔ HasLongKeys right metadata') := by
  rcases readFramework_cases shares proper proper' with
    ⟨problem, failed, failed'⟩ | ⟨serviceHeader, characteristicHeader, stub, stub', read, read'⟩
  · rw [run_of_framework_error failed, run_of_framework_error failed',
      run_of_framework_error failed]
    exact iff_of_true (.failed problem) (Or.inl ⟨problem, rfl⟩)
  · have extracts : ¬∃ problem, run left layout none = .error problem := by
      rintro ⟨problem, failed⟩
      rw [run_of_framework_ok read] at failed
      cases failed
    rw [run_of_framework_ok read, run_of_framework_ok read', or_iff_right extracts]
    -- Either metadata is read, whatever it says, or it ends its run: the runs agree in the two cases
    -- on the diagonal.
    rcases readMetadata_cases sound with ⟨loaded, loads, short⟩ | ⟨broken, long⟩
    · rcases readMetadata_cases sound' with ⟨loaded', loads', short'⟩ | ⟨broken', long'⟩
      · rw [loads, loads']
        apply iff_of_true
        · exact .succeeded (hasSameHeadings_extract _ _ rfl rfl)
        · exact iff_of_false short short'
      · rw [loads, broken']
        apply iff_of_false
        · exact nofun
        · exact fun same => short (same.mpr long')
    · rcases readMetadata_cases sound' with ⟨loaded', loads', short'⟩ | ⟨broken', long'⟩
      · rw [broken, loads']
        apply iff_of_false
        · exact nofun
        · exact fun same => short' (same.mp long)
      · rw [broken, broken']
        apply iff_of_true
        · exact .failed _
        · exact iff_of_true long long'

/-- Runs with the same headers and metadata differ in their findings at most. -/
theorem agree_catalog (shares : SharesHeaders layout left right)
    (proper : HasProperStub layout left) (proper' : HasProperStub layout right)
    (same : ∀ path ∈ metadata, left.find path = right.find path) :
    Agree HasSameCatalog (run left layout metadata) (run right layout metadata) := by
  have loads : metadata.mapM (readMetadata left) = metadata.mapM (readMetadata right) := by
    cases metadata with
    | none => rfl
    | some path => rw [Option.mapM_some, Option.mapM_some, readMetadata_congr (same path rfl)]
  rcases readFramework_cases shares proper proper' with
    ⟨problem, failed, failed'⟩ | ⟨serviceHeader, characteristicHeader, stub, stub', read, read'⟩
  · rw [run_of_framework_error failed, run_of_framework_error failed']
    exact .failed problem
  · rw [run_of_framework_ok read, run_of_framework_ok read', loads]
    cases metadata.mapM (readMetadata right) with
    | error problem => exact .failed problem
    | ok loaded => exact .succeeded (hasSameCatalog_extract _ _ stub stub' loaded)

/-- A run whose metadata cannot be loaded fails like one without metadata, or differs from it by the
finding about that. -/
theorem agree_unavailable {path : Path} {problem : Problem}
    (failed : Metadata.load tree path = .error problem)
    (dispensable : isDispensable problem = true) :
    Agree (AddsUnavailable path problem) (run tree layout (some path)) (run tree layout none) := by
  have loads : Option.mapM (readMetadata tree) (some path) =
      .ok (some ⟨path, .error problem.message⟩) := by
    rw [Option.mapM_some, readMetadata, failed]
    simp only [dispensable]
    rfl
  cases read : readFramework tree layout with
  | error problem =>
      rw [run_of_framework_error read, run_of_framework_error read]
      exact .failed problem
  | ok framework =>
      obtain ⟨serviceHeader, characteristicHeader, stub⟩ := framework
      rw [run_of_framework_ok read, run_of_framework_ok read, loads]
      exact .succeeded (addsUnavailable_extract _ _ stub path problem)

/-- The optional sources change what they may and no more, unless the metadata of just one of two
runs has a key that is too long: the runs fail alike or extract the same headings, a stub shows in
the findings only, and metadata that cannot be loaded shows as one further finding. -/
theorem run_degrades (shares : SharesHeaders layout left right)
    (proper : HasProperStub layout left) (proper' : HasProperStub layout right)
    (sound : ∀ path ∈ metadata, IsReadOrRefused left path)
    (sound' : ∀ path ∈ metadata', IsReadOrRefused right path) :
    (Agree HasSameHeadings (run left layout metadata) (run right layout metadata') ↔
      (∃ problem, run left layout none = .error problem) ∨
        (HasLongKeys left metadata ↔ HasLongKeys right metadata')) ∧
    ((∀ path ∈ metadata, left.find path = right.find path) →
      Agree HasSameCatalog (run left layout metadata) (run right layout metadata)) ∧
    ∀ path ∈ metadata, ∀ problem, Metadata.load left path = .error problem →
      isDispensable problem = true →
        Agree (AddsUnavailable path problem) (run left layout metadata) (run left layout none) := by
  refine ⟨agree_headings_iff shares proper proper' sound sound', ?_, ?_⟩
  · exact agree_catalog shares proper proper'
  · intro path member problem failed dispensable
    rw [Option.mem_def.mp member]
    exact agree_unavailable failed dispensable

/-! ## Runs with and without optional sources -/

/-- Where no metadata lies. -/
def absentMetadata : Path := ⟨.relative, ["absent.plist"]⟩

/-- Where a file lies that is no property list. -/
def emptyMetadata : Path := ⟨.relative, ["empty.plist"]⟩

/-- A framework that lies alone. -/
def bareTree : FileTree := frameworkTree chimeHeader bareHeader []

/-- The same framework with a stub, and a file that is no property list. -/
def stubbedTree : FileTree :=
  frameworkTree chimeHeader bareHeader [
    (["kit", "HomeKit.framework.tbd"], .file (Text.encode "exports:\n")),
    (["kit", "empty.plist"], .file [])]

/-- Neither the stub nor the metadata that cannot be loaded keeps the catalog from being extracted. -/
theorem run_bareTree_degrades :
    (∃ outcome, run bareTree frameworkLayout none = .ok outcome) ∧
    Agree HasSameHeadings (run bareTree frameworkLayout (some absentMetadata))
      (run stubbedTree frameworkLayout (some emptyMetadata)) ∧
    Agree HasSameCatalog (run bareTree frameworkLayout (some absentMetadata))
      (run stubbedTree frameworkLayout (some absentMetadata)) ∧
    Agree (AddsUnavailable absentMetadata (.failure (.metadataMissing absentMetadata)))
      (run bareTree frameworkLayout (some absentMetadata)) (run bareTree frameworkLayout none) := by
  have shares : SharesHeaders frameworkLayout bareTree stubbedTree := ⟨rfl, rfl⟩
  have proper : HasProperStub frameworkLayout bareTree := by
    rintro path ⟨⟩
    exact Or.inl rfl
  have proper' : HasProperStub frameworkLayout stubbedTree := by
    rintro path ⟨⟩
    exact Or.inr ⟨"exports:\n", rfl, by decide +kernel⟩
  have sound : ∀ path ∈ some absentMetadata, IsReadOrRefused bareTree path := by
    rintro path ⟨⟩ bytes reason read
    cases read
  have sound' : ∀ path ∈ some emptyMetadata, IsReadOrRefused stubbedTree path := by
    rintro path ⟨⟩ bytes reason read parsed
    cases read
    cases parsed
  have short : ¬HasLongKeys bareTree (some absentMetadata) := by
    rintro ⟨path, ⟨⟩, read, _⟩
    cases read
  have short' : ¬HasLongKeys stubbedTree (some emptyMetadata) := by
    rintro ⟨path, ⟨⟩, read, parsed, _⟩
    cases read
    cases parsed
  obtain ⟨headings, catalog, unavailable⟩ := run_degrades shares proper proper' sound sound'
  refine ⟨⟨_, run_frameworkTree (by decide +kernel) (by decide +kernel) rfl⟩, ?_, ?_, ?_⟩
  · exact headings.mpr (Or.inr (iff_of_false short short'))
  · apply catalog
    rintro path ⟨⟩
    rfl
  · exact unavailable _ rfl _ rfl rfl

/-- Metadata without services, and with one characteristic under an integer of 2048 bytes. -/
def longKeyMetadata : List UInt8 :=
  propertyListOf [
    [0xD1, 1, 2], textObject "PlistDictionary",
    [0xD1, 3, 4], textObject "HAP",
    [0xD2, 5, 7, 6, 8], textObject "Services",
    [0xD0], textObject "Characteristics",
    [0xD1, 12, 9], [0xD1, 10, 11], textObject "DefaultDescription", textObject "Active",
    0x1B :: List.replicate 2048 1]

/-- The framework with this metadata beside it. -/
def longKeyTree : FileTree :=
  frameworkTree chimeHeader bareHeader [(["kit", "long.plist"], .file longKeyMetadata)]

/-- Where that metadata lies. -/
def longKeyPath : Path := ⟨.relative, ["long.plist"]⟩

/-- The metadata is a well-formed property list, but its long key ends the run, which succeeds
without metadata. -/
theorem run_longKeyTree_breaks_down :
    HasProperStub frameworkLayout longKeyTree ∧
    (∃ root, Metadata.parse longKeyPath longKeyMetadata = .ok root) ∧
    run longKeyTree frameworkLayout (some longKeyPath) = .error (.breakdown .integerTooLong) ∧
    ¬Agree HasSameHeadings (run longKeyTree frameworkLayout none)
      (run longKeyTree frameworkLayout (some longKeyPath)) := by
  have proper : HasProperStub frameworkLayout longKeyTree := by
    rintro path ⟨⟩
    exact Or.inl rfl
  have parses : (Metadata.parse longKeyPath longKeyMetadata).isOk = true := by
    decide +kernel
  have broken : run longKeyTree frameworkLayout (some longKeyPath) =
      .error (.breakdown .integerTooLong) := by
    decide +kernel
  have extracted : run longKeyTree frameworkLayout none = _ :=
    run_frameworkTree (by decide +kernel) (by decide +kernel) rfl
  refine ⟨proper, ?_, broken, ?_⟩
  · cases parsed : Metadata.parse longKeyPath longKeyMetadata with
    | error flaw =>
        rw [parsed] at parses
        cases parses
    | ok root => exact ⟨root, rfl⟩
  · rw [extracted, broken]
    exact nofun

end HomeCatalog.Extraction
