import HomeCatalog.Proofs.Extraction.RoundTrip
import HomeCatalog.Proofs.Reconciliation.Strategies

/-!
# The references of an extracted catalog

Metadata only refers to characteristics that the headers declare, so nothing is left to report when
bindings are generated.  The specification refers to characteristics that the headers may lack, and
each of them is reported then.  A catalog file in between changes nothing about that.
-/

namespace HomeCatalog.Extraction

open Bindings Header Reconciliation

/-- Whether a catalog is a given one, or what comes back of it from a catalog file. -/
inductive IsKept (catalog : Catalog) : Catalog → Prop where
  | itself : IsKept catalog catalog
  | stored {moment : Calendar.Moment} {text : String}
      (written : CatalogFile.write moment catalog = .ok text) :
      IsKept catalog (CatalogFile.read text).catalog

variable (sources : Sources)

/-- What comes back of an extracted catalog leads to the same bindings. -/
theorem render_of_isKept {catalog : Catalog} (kept : IsKept (extract sources).catalog catalog)
    (target : Target) (moment : Calendar.Moment) :
    render target moment catalog = render target moment (extract sources).catalog := by
  cases kept with
  | itself => rfl
  | @stored written_at text written =>
      cases stamped : written_at.stamp? with
      | none =>
          rw [CatalogFile.write, stamped] at written
          cases written
      | some stamp =>
          rw [write_extract stamped] at written
          cases written
          rw [read_linesOf_extract stamped]
          exact render_sorted (identifiersFollowNames_extract sources) target moment

/-- The headers declare no references. -/
theorem isBare_of_mem_declared :
    ∀ service ∈ sources.declared.services, service.IsBare := by
  intro service member
  obtain ⟨declaration, _, rfl⟩ := List.mem_map.mp member
  exact ⟨rfl, rfl⟩

theorem isResolved_extract (stated : (extract sources).summary.strategy = .metadata) :
    (extract sources).catalog.IsResolved := by
  apply isResolved_reconcile
  · intro service member
    exact (isBare_of_mem_declared sources service member).refersTo _
  · exact stated

theorem unresolvedReferences_extract
    (specified : (extract sources).summary.strategy = .specification) :
    unresolvedReferences (extract sources).catalog =
      (extract sources).catalog.sortedServices.flatMap
        (missingSpecified (declaredNames characteristicStem sources.characteristicHeader)) := by
  have names : sources.declared.characteristicNames =
      declaredNames characteristicStem sources.characteristicHeader := by
    rw [Catalog.characteristicNames, Sources.declared, Header.characteristics, List.map_map]
    rfl
  rw [← names]
  exact unresolvedReferences_reconcile (isBare_of_mem_declared sources) specified

/-- The catalog of a run can be written whenever there is a stamp, and whenever there is one, its
bindings are rendered, before and after.  Where metadata gave the references, each is the name of a
characteristic, and rendering reports nothing.  Where the specification gave them, rendering reports
those that no characteristic is declared for, and nothing else. -/
theorem run_references {tree : FileTree} {layout : Layout} {metadata : Option Path}
    {outcome : Outcome} (extracted : run tree layout metadata = .ok outcome) :
    (∀ moment : Calendar.Moment, ∀ stamp ∈ moment.stamp?,
      ∃ text, CatalogFile.write moment outcome.catalog = .ok text) ∧
    (outcome.summary.strategy = .metadata →
      (∀ service ∈ outcome.catalog.services, ∀ name ∈ service.required ++ service.optional,
        name ∈ outcome.catalog.characteristicNames) ∧
      outcome.catalog.danglingReferences = [] ∧
      ∀ catalog, IsKept outcome.catalog catalog → ∀ target (later : Calendar.Moment),
        match render target later catalog with
        | .error problem => problem = .timeOutOfRange ∧ later.stamp? = none
        | .ok rendering => rendering.findings = []) ∧
    (outcome.summary.strategy = .specification →
      ∃ header, readHeader tree layout.characteristicHeader = .ok header ∧
      ∀ catalog, IsKept outcome.catalog catalog → ∀ target (later : Calendar.Moment),
        match render target later catalog with
        | .error problem => problem = .timeOutOfRange ∧ later.stamp? = none
        | .ok rendering => rendering.findings =
            outcome.catalog.sortedServices.flatMap
              (missingSpecified (declaredNames characteristicStem header))) := by
  obtain ⟨sources, read, rfl⟩ := run_eq_ok_iff.mp extracted
  have rendered : ∀ catalog, IsKept (extract sources).catalog catalog →
      ∀ target (later : Calendar.Moment),
        match render target later catalog with
        | .error problem => problem = .timeOutOfRange ∧ later.stamp? = none
        | .ok rendering =>
            rendering.findings = unresolvedReferences (extract sources).catalog := by
    intro catalog kept target later
    rw [render_of_isKept sources kept, render]
    cases later.stamp? with
    | none => exact ⟨rfl, rfl⟩
    | some stamp => rfl
  refine ⟨?_, ?_, ?_⟩
  · intro moment stamp stamped
    exact ⟨_, write_extract stamped sources⟩
  · intro stated
    have resolved := isResolved_extract sources stated
    refine ⟨resolved, resolved.danglingReferences_eq_nil, ?_⟩
    rw [unresolvedReferences_eq_nil resolved] at rendered
    exact rendered
  · intro specified
    refine ⟨_, read.characteristicHeader, ?_⟩
    rw [unresolvedReferences_extract sources specified] at rendered
    exact rendered

/-- Metadata that states which characteristic a switch requires. -/
def switchMetadata : List UInt8 :=
  propertyListOf [
    [0xD1, 1, 2], textObject "PlistDictionary",
    [0xD1, 3, 4], textObject "HAP",
    [0xD2, 5, 6, 7, 8], textObject "Services", textObject "Characteristics",
    [0xD1, 9, 10], [0xD1, 9, 11], textObject "9",
    [0xD2, 12, 6, 13, 14], [0xD1, 12, 15], textObject "DefaultDescription", textObject "Switch",
    [0xD1, 16, 17], textObject "Power State", textObject "Required", [0xA1, 9]]

/-- Where this metadata lies. -/
def switchPath : Path := ⟨.relative, ["switch.plist"]⟩

/-- A header that declares a switch. -/
def oneSwitchHeader : String :=
  "HM_EXTERN NSString * const HMServiceTypeSwitch;\n"

/-- A header that declares what a switch requires. -/
def onePowerHeader : String :=
  "HM_EXTERN NSString * const HMCharacteristicTypePowerState;\n"

/-- A framework with these headers, beside this metadata. -/
def switchTree : FileTree :=
  frameworkTree oneSwitchHeader onePowerHeader [(["kit", "switch.plist"], .file switchMetadata)]

/-- Its catalog, if the switch has given references. -/
def switchCatalog (required optional : List String) : Catalog where
  services := [⟨"HMServiceTypeSwitch", "Switch", "switch", none, false, required, optional⟩]
  characteristics := [
    ⟨"HMCharacteristicTypePowerState", "PowerState", "powerState", .text, none, false⟩]

/-- With metadata nothing dangles, and without it the name that a switch may have is missed. -/
theorem run_switchTree_references :
    (∃ outcome, run switchTree frameworkLayout (some switchPath) = .ok outcome ∧
      outcome.catalog = switchCatalog ["PowerState"] [] ∧
      outcome.catalog.danglingReferences = []) ∧
    ∃ outcome, run switchTree frameworkLayout none = .ok outcome ∧
      outcome.catalog = switchCatalog ["PowerState"] ["Name"] ∧
      ∀ target (later : Calendar.Moment) rendering,
        render target later outcome.catalog = .ok rendering →
          rendering.findings = [.unknownCharacteristic "Name" "Switch"] := by
  constructor
  · have extracted : run switchTree frameworkLayout (some switchPath) =
        .ok ⟨switchCatalog ["PowerState"] [], ⟨.metadata, 1, [], [], 0, []⟩,
          [.stubMissing frameworkStub, .metadataApplied 1]⟩ := by
      decide +kernel
    obtain ⟨_, stated, _⟩ := run_references extracted
    exact ⟨_, extracted, rfl, (stated rfl).2.1⟩
  · have extracted : run switchTree frameworkLayout none =
        .ok ⟨switchCatalog ["PowerState"] ["Name"], ⟨.specification, 1, [], [], 0, []⟩,
          [.stubMissing frameworkStub, .fallbackApplied 1]⟩ := by
      decide +kernel
    obtain ⟨_, _, specified⟩ := run_references extracted
    obtain ⟨header, read, reported⟩ := specified rfl
    have plain : readHeader switchTree frameworkLayout.characteristicHeader = .ok onePowerHeader :=
      readHeader_of_encode rfl rfl (by decide +kernel)
    obtain rfl : onePowerHeader = header := Except.ok.inj (plain.symm.trans read)
    have names : declaredNames characteristicStem onePowerHeader = ["PowerState"] := by
      decide +kernel
    refine ⟨_, extracted, rfl, ?_⟩
    intro target later rendering rendered
    have findings := reported _ .itself target later
    rw [rendered, names] at findings
    refine findings.trans ?_
    simp only [Catalog.sortedServices, switchCatalog, List.mergeSort_singleton]
    decide +kernel

end HomeCatalog.Extraction
