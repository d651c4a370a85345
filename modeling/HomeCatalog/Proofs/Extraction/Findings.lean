import HomeCatalog.Proofs.Extraction.References
import HomeCatalog.Proofs.Reconciliation.Decision
import HomeCatalog.Proofs.Reconciliation.Hints

/-!
# What a run reports

A run that succeeds first reports about the stub, and then about metadata and references.  What it
reports tells which files it could use, which entries the stub does not know, what the metadata
changed, and where the references come from.
-/

namespace HomeCatalog.Extraction

open Metadata Reconciliation

variable {tree : FileTree} {layout : Layout} {metadata : Option Path} {declared : Catalog}
  {outcome : Outcome} {reported : List Finding}

/-! ## The stub -/

/-- The symbols of entries that are none of some exported ones, in the order of the entries. -/
def unexported {α : Type} (identifier : α → String) (entries : List α)
    (exported : List String) : List String :=
  (entries.map fun entry => "_" ++ identifier entry).filter fun symbol => symbol ∉ exported

/-- What is reported about the stub at a path, for the entries that the headers declare: that it is
missing, nothing if it exports no symbol, and otherwise every entry whose symbol it does not
export. -/
inductive IsStubReport (tree : FileTree) (path : Path) (declared : Catalog)
    (reported : List Finding) : Prop where
  | missing (absent : tree.isFile path = .ok false)
      (codes : reported.map Finding.code = ["I001"])
  | silent {text : String} (found : tree.readText path = .ok text)
      (empty : Stub.exportedSymbols text = []) (codes : reported.map Finding.code = [])
  | checked {text : String} (found : tree.readText path = .ok text)
      (filled : Stub.exportedSymbols text ≠ [])
      (codes : reported.map Finding.code =
        (unexported Service.identifier declared.services (Stub.exportedSymbols text)).map
            (fun _ => "W001") ++
          (unexported Characteristic.identifier declared.characteristics
            (Stub.exportedSymbols text)).map fun _ => "W001")
      (symbols : reported =
        (unexported Service.identifier declared.services (Stub.exportedSymbols text)).map
            (.symbolNotExported .service) ++
          (unexported Characteristic.identifier declared.characteristics
            (Stub.exportedSymbols text)).map (.symbolNotExported .characteristic))

/-- A stub that was read is missing, or a text. -/
theorem readStub_eq_ok {stub : StubSource} (read : readStub tree layout = .ok stub) :
    ∃ path ∈ layout.stub?, tree.isFile path = .ok false ∧ stub = ⟨path, none⟩ ∨
      ∃ text, tree.readText path = .ok text ∧ stub = ⟨path, some text⟩ := by
  rw [readStub] at read
  split at read
  · cases read
  · next path named =>
      refine ⟨path, named, ?_⟩
      split at read
      · cases read
      · next absent =>
          cases read
          exact Or.inl ⟨absent, rfl⟩
      · cases found : tree.readText path with
        | error problem =>
            rw [found] at read
            cases read
        | ok text =>
            rw [found] at read
            cases read
            exact Or.inr ⟨text, rfl, rfl⟩

/-- Checking entries against exported symbols reports those whose symbols are not among them. -/
theorem check_eq_unexported (declared : Catalog) {exported : List String}
    (filled : exported ≠ []) :
    Stub.check declared.services declared.characteristics exported =
      (unexported Service.identifier declared.services exported).map
          (.symbolNotExported .service) ++
        (unexported Characteristic.identifier declared.characteristics exported).map
          (.symbolNotExported .characteristic) := by
  have checks : exported.isEmpty = false := List.isEmpty_eq_false_iff.mpr filled
  simp only [Stub.check, checks, Bool.false_eq_true, if_false, Stub.expectedSymbols, unexported,
    List.filter_append, List.map_append, List.filter_map, List.map_map, Stub.symbolName]
  simp only [Function.comp_def, List.contains_eq_mem, decide_not]

theorem isStubReport_of_readStub {stub : StubSource} (read : readStub tree layout = .ok stub)
    (declared : Catalog) :
    ∃ path ∈ layout.stub?, IsStubReport tree path declared
      (stub.findings ++ Stub.check declared.services declared.characteristics stub.symbols) := by
  obtain ⟨path, named, ⟨absent, rfl⟩ | ⟨text, found, rfl⟩⟩ := readStub_eq_ok read
  · exact ⟨path, named, .missing absent rfl⟩
  · refine ⟨path, named, ?_⟩
    by_cases empty : Stub.exportedSymbols text = []
    · refine .silent found empty ?_
      simp [StubSource.findings, StubSource.symbols, Stub.check, empty]
    · have symbols := check_eq_unexported declared empty
      have checks : StubSource.findings ⟨path, some text⟩ ++
          Stub.check declared.services declared.characteristics
            (StubSource.symbols ⟨path, some text⟩) =
          Stub.check declared.services declared.characteristics (Stub.exportedSymbols text) := rfl
      rw [checks]
      refine .checked found empty ?_ symbols
      rw [symbols, List.map_append, List.map_map, List.map_map]
      rfl

/-! ## Metadata -/

/-- The codes of what is reported about format hints: that they changed a kind, and that one of them
is about a characteristic that is not declared. -/
def hintCodes (declared after : Catalog) (hinted : List String) : List String :=
  (if declared.characteristics.map Characteristic.valueKind ≠
      after.characteristics.map Characteristic.valueKind then ["I004"] else []) ++
    if ∃ name ∈ hinted, name ∉ declared.characteristics.map Characteristic.name then ["W004"]
    else []

/-- What is reported about metadata that was to be loaded, or about its lack, and what became of the
references. -/
inductive IsMetadataReport (declared : Catalog) (outcome : Outcome) (reported : List Finding) :
    Option (Except Problem Relationships) → Prop where
  | absent (specified : outcome.summary.strategy = .specification)
      (codes : reported.map Finding.code = ["I002"]) :
      IsMetadataReport declared outcome reported none
  | unavailable {problem : Problem}
      (reason : (∃ failure : Failure, problem = .failure failure ∧
          .metadata ∈ failure.kind.lineage) ∨ ∃ error, problem = .file error)
      (specified : outcome.summary.strategy = .specification)
      (codes : reported.map Finding.code = ["W005", "I002"]) :
      IsMetadataReport declared outcome reported (some (.error problem))
  | unused {metadata : Relationships} (specified : outcome.summary.strategy = .specification)
      (codes : reported.map Finding.code =
        hintCodes declared outcome.catalog (metadata.formats.map Prod.fst) ++ ["W005", "I002"]) :
      IsMetadataReport declared outcome reported (some (.ok metadata))
  | used {metadata : Relationships} (stated : outcome.summary.strategy = .metadata)
      (codes : reported.map Finding.code =
        hintCodes declared outcome.catalog (metadata.formats.map Prod.fst) ++ ["I003"] ++
          (if outcome.summary.unmatchedServices = [] then [] else ["W002"]) ++
          if outcome.summary.missingCharacteristics = [] then [] else ["W003"]) :
      IsMetadataReport declared outcome reported (some (.ok metadata))

/-- The codes of the findings about format hints. -/
theorem map_code_formatFindings {metadata : Relationships} {after : Catalog}
    (kinds : after.characteristics = (applyFormats metadata.formats declared).characteristics) :
    (formatFindings (changedKinds declared (applyFormats metadata.formats declared))
        (unmatchedHints metadata.formats declared)).map Finding.code =
      hintCodes declared after (metadata.formats.map Prod.fst) := by
  have sameLength : declared.characteristics.length =
      (applyFormats metadata.formats declared).characteristics.length := by
    simpa [Catalog.characteristicNames] using
      (congrArg List.length (characteristicNames_applyFormats metadata.formats declared)).symm
  have changed : changedKinds declared (applyFormats metadata.formats declared) = 0 ↔
      declared.characteristics.map Characteristic.valueKind =
        after.characteristics.map Characteristic.valueKind := by
    rw [kinds]
    exact differingKinds_eq_zero_iff sameLength
  have unmatched : unmatchedHints metadata.formats declared = [] ↔
      ¬ ∃ name ∈ metadata.formats.map Prod.fst,
        name ∉ declared.characteristics.map Characteristic.name := by
    have listed := unmatchedHints_ne_nil_iff metadata.formats declared
    rw [Catalog.characteristicNames] at listed
    rw [← listed, ne_eq, not_not]
  simp only [formatFindings, hintCodes, List.isEmpty_iff, changed, unmatched, ne_eq, ite_not,
    List.map_append, apply_ite (List.map Finding.code)]
  rfl

/-- What is reported about metadata that could be loaded. -/
theorem isMetadataReport_reconcileWith {metadata : Relationships}
    (catalog : outcome.catalog = (reconcileWith declared metadata).catalog)
    (summary : outcome.summary = (reconcileWith declared metadata).summary) :
    IsMetadataReport declared outcome (reconcileWith declared metadata).findings
      (some (.ok metadata)) := by
  have kinds : outcome.catalog.characteristics =
      (applyFormats metadata.formats declared).characteristics := by
    rw [catalog, characteristics_reconcileWith]
  have hints := map_code_formatFindings kinds
  rw [summary_reconcileWith] at summary
  rw [findings_reconcileWith]
  by_cases stated : statedServices declared metadata = 0
  · refine .unused ?_ ?_
    · rw [summary]
      exact if_pos stated
    · rw [if_pos stated, List.map_append, hints]
      rfl
  · refine .used ?_ ?_
    · rw [summary]
      exact if_neg stated
    · rw [if_neg stated, List.map_append, hints, summary]
      simp only [metadataFindings, List.isEmpty_iff, statedSummary, List.map_append,
        apply_ite (List.map Finding.code), ← List.append_assoc]
      rfl

/-- Metadata that was read could be loaded, or could not for a reason that does not matter. -/
theorem readMetadata_eq_ok {path : Path} {source : MetadataSource}
    (read : readMetadata tree path = .ok source) :
    (∃ relationships, load tree path = .ok relationships ∧ source = ⟨path, .ok relationships⟩) ∨
      ∃ problem, load tree path = .error problem ∧ isDispensable problem = true ∧
        source = ⟨path, .error problem.message⟩ := by
  rw [readMetadata] at read
  split at read
  · next relationships loaded =>
      cases read
      exact Or.inl ⟨relationships, loaded, rfl⟩
  · next problem failed =>
      split at read
      · next dispensable =>
          cases read
          exact Or.inr ⟨problem, failed, dispensable, rfl⟩
      · cases read

theorem isDispensable_iff {problem : Problem} :
    isDispensable problem = true ↔
      (∃ failure : Failure, problem = .failure failure ∧ .metadata ∈ failure.kind.lineage) ∨
        ∃ error, problem = .file error := by
  cases problem <;> simp [isDispensable]

/-- What is reported about the metadata that was read, and about the references. -/
theorem isMetadataReport_of_read {loaded : Option MetadataSource}
    (read : metadata.mapM (readMetadata tree) = .ok loaded)
    (catalog : outcome.catalog =
      (reconcile declared (loaded.bind MetadataSource.relationships?)).catalog)
    (summary : outcome.summary =
      (reconcile declared (loaded.bind MetadataSource.relationships?)).summary) :
    IsMetadataReport declared outcome
      ((loaded.map MetadataSource.findings).getD [] ++
        (reconcile declared (loaded.bind MetadataSource.relationships?)).findings)
      (metadata.map (load tree)) := by
  cases metadata with
  | none =>
      cases read
      exact .absent (by rw [summary]; rfl) rfl
  | some path =>
      obtain ⟨source, found, read⟩ := exists_of_bind_eq_ok read
      cases read
      have given : (some path).map (load tree) = some (load tree path) := rfl
      rw [given]
      rcases readMetadata_eq_ok found with ⟨relationships, succeeds, rfl⟩ |
        ⟨problem, fails, dispensable, rfl⟩
      · rw [succeeds]
        exact isMetadataReport_reconcileWith catalog summary
      · rw [fails]
        exact .unavailable (isDispensable_iff.mp dispensable) (by rw [summary]; rfl) rfl

/-! ## Runs -/

section

variable {path : Path} {loaded : Option (Except Problem Relationships)}

/-- Nothing about the stub tells where the references come from. -/
theorem IsStubReport.filter_origins (report : IsStubReport tree path declared reported) :
    (reported.map Finding.code).filter (· ∈ ["I002", "I003"]) = [] := by
  have unmarked : ∀ symbols : List String,
      (symbols.map fun _ => "W001").filter (· ∈ ["I002", "I003"]) = [] := by
    intro symbols
    rw [List.filter_eq_nil_iff, List.forall_mem_map]
    intro symbol _
    decide
  cases report with
  | missing _ codes =>
      rw [codes]
      decide
  | silent _ _ codes =>
      rw [codes]
      rfl
  | checked _ _ codes _ => rw [codes, List.filter_append, unmarked, unmarked, List.append_nil]

theorem filter_hintCodes (declared after : Catalog) (hinted : List String) :
    (hintCodes declared after hinted).filter (· ∈ ["I002", "I003"]) = [] := by
  rw [hintCodes]
  split_ifs <;> decide

/-- One thing about the metadata tells where the references come from. -/
theorem IsMetadataReport.filter_origins
    (report : IsMetadataReport declared outcome reported loaded) :
    (reported.map Finding.code).filter (· ∈ ["I002", "I003"]) =
      [if outcome.summary.strategy = .metadata then "I003" else "I002"] := by
  cases report with
  | absent specified codes =>
      rw [codes, specified]
      decide
  | unavailable _ specified codes =>
      rw [codes, specified]
      decide
  | unused specified codes =>
      rw [codes, specified, List.filter_append, filter_hintCodes]
      decide
  | used stated codes =>
      rw [codes, stated]
      simp only [List.filter_append, filter_hintCodes]
      split_ifs <;> decide

end

/-- Whether the headers of a framework declare the entries of a catalog. -/
structure AreDeclared (tree : FileTree) (layout : Layout) (declared : Catalog) : Prop where
  services : ∃ header, readHeader tree layout.serviceHeader = .ok header ∧
    declared.services = Header.services header
  characteristics : ∃ header, readHeader tree layout.characteristicHeader = .ok header ∧
    declared.characteristics = Header.characteristics header

theorem findings_extract (sources : Sources) :
    (extract sources).findings =
      (sources.stub.findings ++ Stub.check sources.declared.services
        sources.declared.characteristics sources.stub.symbols) ++
      ((sources.metadata.map MetadataSource.findings).getD [] ++
        (reconcile sources.declared
          (sources.metadata.bind MetadataSource.relationships?)).findings) :=
  List.append_assoc _ _ _

/-- A run that succeeds reports about the stub and then about the metadata, each as it was found,
and nothing else.  One finding, and only one, tells where the references come from. -/
theorem run_reports (extracted : run tree layout metadata = .ok outcome) :
    ∃ declared, AreDeclared tree layout declared ∧ ∃ path ∈ layout.stub?,
      ∃ ofStub ofMetadata, outcome.findings = ofStub ++ ofMetadata ∧
        IsStubReport tree path declared ofStub ∧
        IsMetadataReport declared outcome ofMetadata (metadata.map (load tree)) ∧
        (outcome.findings.map Finding.code).filter (· ∈ ["I002", "I003"]) =
          [if outcome.summary.strategy = .metadata then "I003" else "I002"] := by
  obtain ⟨sources, read, rfl⟩ := run_eq_ok_iff.mp extracted
  obtain ⟨path, named, ofStub⟩ := isStubReport_of_readStub read.stub sources.declared
  have ofMetadata :
      IsMetadataReport sources.declared (extract sources) _ (metadata.map (load tree)) :=
    isMetadataReport_of_read read.metadata rfl rfl
  have findings := findings_extract sources
  refine ⟨sources.declared, ⟨⟨_, read.serviceHeader, rfl⟩, ⟨_, read.characteristicHeader, rfl⟩⟩,
    path, named, _, _, findings, ofStub, ofMetadata, ?_⟩
  rw [findings, List.map_append, List.filter_append, ofStub.filter_origins,
    ofMetadata.filter_origins, List.nil_append]

/-- The framework with a switch, beside a stub that exports the switch only. -/
def stubbedSwitchTree : FileTree :=
  frameworkTree oneSwitchHeader onePowerHeader [
    (["kit", "HomeKit.framework.tbd"],
      .file (Text.encode "exports:\n- archs: [ arm64 ]\n  symbols: [ _HMServiceTypeSwitch ]\n")),
    (["kit", "switch.plist"], .file switchMetadata)]

/-- The stub lacks the characteristic, and metadata gives the references. -/
theorem run_stubbedSwitchTree_reports :
    ∃ outcome, run stubbedSwitchTree frameworkLayout (some switchPath) = .ok outcome ∧
      outcome.findings.map Finding.code = ["W001", "I003"] ∧
      ∃ declared, AreDeclared stubbedSwitchTree frameworkLayout declared ∧
        ∃ path ∈ frameworkLayout.stub?, ∃ ofStub ofMetadata,
          outcome.findings = ofStub ++ ofMetadata ∧
          IsStubReport stubbedSwitchTree path declared ofStub ∧
          IsMetadataReport declared outcome ofMetadata
            ((some switchPath).map (load stubbedSwitchTree)) ∧
          (outcome.findings.map Finding.code).filter (· ∈ ["I002", "I003"]) =
            [if outcome.summary.strategy = .metadata then "I003" else "I002"] := by
  have extracted : run stubbedSwitchTree frameworkLayout (some switchPath) =
      .ok ⟨switchCatalog ["PowerState"] [], ⟨.metadata, 1, [], [], 0, []⟩,
        [.symbolNotExported .characteristic "_HMCharacteristicTypePowerState",
          .metadataApplied 1]⟩ := by
    decide +kernel
  exact ⟨_, extracted, rfl, run_reports extracted⟩

end HomeCatalog.Extraction
