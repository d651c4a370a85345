import HomeCatalog.Proofs.Bindings.Sorted
import HomeCatalog.Proofs.Extraction.Extracted
import HomeCatalog.Proofs.Extraction.Sources

/-!
# From the headers to the bindings by way of a catalog file

A catalog that was extracted can be written and comes back whole, in sorted order.  What is
generated from the catalog that was read is what would have been generated from the extracted one.
-/

namespace HomeCatalog.Extraction

section

variable {moment : Calendar.Moment} {stamp : String} (stamped : moment.stamp? = some stamp)
  (sources : Sources)

include stamped

/-- An extracted catalog can be written whenever there is a stamp. -/
theorem write_extract : CatalogFile.write moment (extract sources).catalog =
    .ok (CatalogFile.unlines (CatalogFile.linesOf stamp (extract sources).catalog)) := by
  apply CatalogFile.write_of_stamp stamped
  exact ne_empty_of_mem_names sources

/-- What was written of an extracted catalog is read back in sorted order, with nothing skipped. -/
theorem read_linesOf_extract :
    CatalogFile.read (CatalogFile.unlines (CatalogFile.linesOf stamp (extract sources).catalog)) =
      ⟨(extract sources).catalog.sorted, 0⟩ := by
  have plain : CatalogFile.IsAbsent '\n'
      (CatalogFile.linesOf stamp (extract sources).catalog) :=
    CatalogFile.isAbsent_linesOf (.inl rfl) stamped (isAbsent_extract sources (.inl rfl))
      fun text _ => CatalogFile.feed_notMem_quote text
  rw [CatalogFile.read_eq_sorted_iff plain (ne_empty_of_mem_names sources)]
  exact isRestorable_extract sources

end

/-- Whatever is extracted from headers, a stub and metadata can be written at every moment that has
a stamp, and is read back in sorted order with nothing skipped, from the text and from a file that
is not refused.  The bindings of what was read are those of the extracted catalog, with the same
findings. -/
theorem run_roundTrip {tree : FileTree} {layout : Layout} {metadata : Option Path}
    {outcome : Outcome} (extracted : run tree layout metadata = .ok outcome)
    (moment : Calendar.Moment) :
    match CatalogFile.write moment outcome.catalog with
    | .error problem => problem = .timeOutOfRange ∧ moment.stamp? = none
    | .ok text =>
        CatalogFile.read text = ⟨outcome.catalog.sorted, 0⟩ ∧
        (∀ (target : Target) (later : Calendar.Moment),
          Bindings.render target later (CatalogFile.read text).catalog =
            Bindings.render target later outcome.catalog) ∧
        ∀ (disk : FileTree) (path : Path),
          match (disk.writeFile path text).error with
          | some error =>
              (CatalogFile.store moment outcome.catalog disk path).result = .error (.file error)
          | none =>
              (CatalogFile.store moment outcome.catalog disk path).result = .ok text ∧
                CatalogFile.load (CatalogFile.store moment outcome.catalog disk path).tree path =
                  .ok ⟨outcome.catalog.sorted, 0⟩ := by
  obtain ⟨sources, rfl, serviceReturn, characteristicReturn⟩ := exists_sources_of_run extracted
  cases stamped : moment.stamp? with
  | none => simp [CatalogFile.write, stamped]
  | some stamp =>
      have written := write_extract stamped sources
      have whole := read_linesOf_extract stamped sources
      have noReturn := CatalogFile.return_notMem_unlines stamped
        (CatalogFile.isAbsent_append.mpr ⟨isAbsent_extract sources (.inr rfl),
          notMem_documentations sources (by decide) serviceReturn characteristicReturn⟩)
      simp only [written]
      refine ⟨whole, ?_, ?_⟩
      · intro target later
        rw [whole]
        exact Bindings.render_sorted (identifiersFollowNames_extract sources) target later
      · intro disk path
        rw [← whole]
        exact CatalogFile.load_store written noReturn disk path

/-- A header that declares one constant twice. -/
def switchHeader : String :=
  "// A switch.\nHM_EXTERN NSString * const HMServiceTypeSwitch;\n\n" ++
    "// The same: \"switch\"\nHM_EXTERN NSString*const HMServiceTypeSwitch;\n"

/-- A header that declares the characteristic of a switch. -/
def powerHeader : String :=
  "HM_EXTERN NSString * const HMCharacteristicTypePowerState API_DEPRECATED(ios(8.0));\n"

/-- The framework that holds these headers and nothing else. -/
def switchFramework : FileTree where
  home := ["kit"]
  nodes := [
    (["kit", "HomeKit.framework"], .directory),
    (["kit", "HomeKit.framework", "Headers"], .directory),
    (["kit", "HomeKit.framework", "Headers", "HMServiceTypes.h"],
      .file (Text.encode switchHeader)),
    (["kit", "HomeKit.framework", "Headers", "HMCharacteristicTypes.h"],
      .file (Text.encode powerHeader))]

/-- Where it lies. -/
def switchLayout : Layout := ⟨⟨.relative, ["HomeKit.framework"]⟩⟩

/-- Both declarations of the switch come back from the file, and into the bindings. -/
theorem run_switchFramework_roundTrip :
    ∃ outcome, run switchFramework switchLayout none = .ok outcome ∧
      outcome.catalog.services.map Service.identifier =
        ["HMServiceTypeSwitch", "HMServiceTypeSwitch"] ∧
      ∃ text, CatalogFile.write (.ofUnixSeconds 0) outcome.catalog = .ok text ∧
        CatalogFile.read text = ⟨outcome.catalog.sorted, 0⟩ ∧
        ∀ target moment, Bindings.render target moment (CatalogFile.read text).catalog =
          Bindings.render target moment outcome.catalog := by
  have services : readHeader switchFramework switchLayout.serviceHeader = .ok switchHeader :=
    readHeader_of_encode rfl rfl (by decide +kernel)
  have characteristics :
      readHeader switchFramework switchLayout.characteristicHeader = .ok powerHeader :=
    readHeader_of_encode rfl rfl (by decide +kernel)
  have extracted : run switchFramework switchLayout none =
      .ok (extract ⟨switchHeader, powerHeader,
        ⟨⟨.relative, ["HomeKit.framework.tbd"]⟩, none⟩, none⟩) := by
    rw [run, readSources, services, characteristics]
    rfl
  have roundTrip := run_roundTrip extracted (.ofUnixSeconds 0)
  refine ⟨_, extracted, by decide +kernel, ?_⟩
  cases written : CatalogFile.write (.ofUnixSeconds 0) (extract ⟨switchHeader, powerHeader,
      ⟨⟨.relative, ["HomeKit.framework.tbd"]⟩, none⟩, none⟩).catalog with
  | error problem =>
      rw [written] at roundTrip
      exact absurd roundTrip.2 (by decide)
  | ok text =>
      rw [written] at roundTrip
      exact ⟨text, rfl, roundTrip.1, roundTrip.2.1⟩

end HomeCatalog.Extraction
