import HomeCatalog.Proofs.Bindings.TypeScript.Documentation
import HomeCatalog.Proofs.Extraction.Extracted
import HomeCatalog.Proofs.Extraction.Sources

/-!
# Comments in the bindings of a framework

The documentation of a declaration is what the line comments above it say, and a line comment may
say anything.  In the TypeScript bindings of a framework it stands in block comments, and it stays
there exactly if it does not close them.
-/

namespace HomeCatalog.Extraction

open Header
open Bindings (render)
open Bindings.TypeScript

variable (sources : Sources)

/-- The documentation in an extracted catalog is that of the declarations. -/
theorem documentations_extract :
    (extract sources).catalog.documentations =
      (declarations serviceStem sources.serviceHeader ++
        declarations characteristicStem sources.characteristicHeader).filterMap
          Declaration.documentation := by
  have services : (extract sources).catalog.services.map Service.documentation = _ :=
    map_services_extract sources fun _ => rfl
  have characteristics :
      (extract sources).catalog.characteristics.map Characteristic.documentation = _ :=
    map_characteristics_extract sources fun _ => rfl
  have written := congrArg (List.filterMap id) services
  have written' := congrArg (List.filterMap id) characteristics
  rw [List.filterMap_map, List.filterMap_map] at written written'
  rw [Catalog.documentations, List.filterMap_append]
  exact congrArg₂ (· ++ ·) written written'

/-- Names are made of words, so they hold neither line feeds nor stars. -/
theorem hasQuietNames_extract : HasQuietNames (extract sources).catalog := by
  apply forall_mem_names_extract
  intro stem declaration stemWord word
  have quiet : ∀ c ∈ declaration.name.toList, Text.isQuiet c = true :=
    fun c member => Text.isQuiet_of_isWordChar (word.chars c member)
  simp only [namesOf, List.forall_mem_cons]
  refine ⟨?_, quiet, ?_, by simp⟩
  · have stemQuiet : IsQuiet stem := fun c member =>
      Text.isQuiet_of_isWordChar (stemWord.chars c member)
    exact stemQuiet.append quiet
  · rw [IsQuiet, Identifier.toList_lowerFirst]
    exact Text.isQuiet_lowerHead word.chars

theorem render_of_stamp {moment : Calendar.Moment} {stamp : String} {catalog : Catalog}
    (stamped : moment.stamp? = some stamp) :
    render .typeScript moment catalog =
      .ok ⟨Bindings.TypeScript.tree stamp catalog, Bindings.unresolvedReferences catalog⟩ := by
  rw [render, stamped]
  rfl

/-- In the TypeScript bindings of a framework every text that is inserted into a comment is a single
line.  All comments end where they are closed by what was written to close them exactly if no
documentation above a declaration of either header holds a closing mark. -/
theorem run_keepsComments_iff {tree : FileTree} {layout : Layout} {metadata : Option Path}
    {outcome : Outcome} (extracted : run tree layout metadata = .ok outcome) :
    ∃ serviceHeader characteristicHeader,
      readHeader tree layout.serviceHeader = .ok serviceHeader ∧
      readHeader tree layout.characteristicHeader = .ok characteristicHeader ∧
      ∀ moment : Calendar.Moment, ∀ stamp ∈ moment.stamp?, ∃ rendering,
        render .typeScript moment outcome.catalog = .ok rendering ∧
        (∀ file ∈ rendering.files, IsCommented outcome.catalog stamp file) ∧
        ((∀ file ∈ rendering.files, KeepsComments outcome.catalog stamp file) ↔
          ∀ declaration ∈ declarations serviceStem serviceHeader ++
              declarations characteristicStem characteristicHeader,
            ∀ text ∈ declaration.documentation, ¬Closes text) := by
  obtain ⟨sources, read, rfl⟩ := run_eq_ok_iff.mp extracted
  refine ⟨_, _, read.serviceHeader, read.characteristicHeader, ?_⟩
  intro moment stamp stamped
  have quiet := hasQuietNames_extract sources
  have starless : IsStarless stamp := by
    intro star
    exact absurd (List.all_eq_true.mp (Calendar.all_isStampChar_stamp stamped) _ star) (by decide)
  refine ⟨_, render_of_stamp stamped, isCommented_of_mem_tree quiet, ?_⟩
  rw [keepsComments_iff quiet starless, documentations_extract]
  constructor
  · intro harmless declaration declared text documented
    exact harmless text (List.mem_filterMap.mpr ⟨declaration, declared, documented⟩)
  · intro harmless text documented
    obtain ⟨declaration, declared, documented⟩ := List.mem_filterMap.mp documented
    exact harmless declaration declared text documented

/-- A header in which a comment speaks of both marks of comments, but not of a star before a
slash. -/
def harmlessHeader : String :=
  "// A fan / blower *\n" ++ "HM_EXTERN NSString * const HMServiceTypeFan;\n"

/-- Its documentation stays in its comments. -/
theorem run_harmlessHeader_keepsComments :
    ∃ outcome rendering,
      run (frameworkTree harmlessHeader bareHeader []) frameworkLayout none = .ok outcome ∧
      render .typeScript (.ofUnixSeconds 0) outcome.catalog = .ok rendering ∧
      (declarations serviceStem harmlessHeader).map Declaration.documentation =
        [some "A fan / blower *"] ∧
      ∀ file ∈ rendering.files, KeepsComments outcome.catalog "1970-01-01T00:00:00Z" file := by
  have plain : '\r' ∉ harmlessHeader.toList := by decide +kernel
  have plain' : '\r' ∉ bareHeader.toList := by decide +kernel
  have extracted : run (frameworkTree harmlessHeader bareHeader []) frameworkLayout none = _ :=
    run_frameworkTree plain plain' rfl
  obtain ⟨services, characteristics, readServices, readCharacteristics, rendered⟩ :=
    run_keepsComments_iff extracted
  obtain ⟨fans, bare⟩ := readHeaders_frameworkTree plain plain' []
  obtain rfl : harmlessHeader = services := Except.ok.inj (fans.symm.trans readServices)
  obtain rfl : bareHeader = characteristics := Except.ok.inj (bare.symm.trans readCharacteristics)
  obtain ⟨rendering, isRendering, _, kept⟩ :=
    rendered (.ofUnixSeconds 0) "1970-01-01T00:00:00Z" (by decide +kernel)
  refine ⟨_, rendering, extracted, isRendering, by decide +kernel, kept.mpr ?_⟩
  have declared : declarations serviceStem harmlessHeader ++
      declarations characteristicStem bareHeader =
        [⟨"Fan", some "A fan / blower *", false⟩, ⟨"Characteristic", none, false⟩] := by
    decide +kernel
  rw [declared]
  simp only [List.forall_mem_cons]
  decide +kernel

/-- A header in which a comment speaks of the mark that closes comments. -/
def strayHeader : String :=
  "// ends */ here\n" ++ "HM_EXTERN NSString * const HMServiceTypeChime;\n"

/-- What it declares. -/
def strayCatalog : Catalog where
  services := [⟨"HMServiceTypeChime", "Chime", "chime", some "ends */ here", false, [], []⟩]
  characteristics := [
    ⟨"HMCharacteristicTypeCharacteristic", "Characteristic", "characteristic", .text, none, false⟩]

/-- Its documentation escapes from the comment of the enum that lists it. -/
theorem run_strayHeader_escapes :
    ∃ outcome rendering,
      run (frameworkTree strayHeader bareHeader []) frameworkLayout none = .ok outcome ∧
      render .typeScript (.ofUnixSeconds 0) outcome.catalog = .ok rendering ∧
      ¬(∀ file ∈ rendering.files, KeepsComments outcome.catalog "1970-01-01T00:00:00Z" file) ∧
      ∃ path source, (path, source) ∈ Bindings.TypeScript.sources outcome.catalog ∧
        ∃ comment ∈ commentsOf source.parts, comment.inserted = "ends */ here" := by
  have catalog :
      (extract ⟨strayHeader, bareHeader, ⟨frameworkStub, none⟩, none⟩).catalog = strayCatalog := by
    decide +kernel
  have stamped : Calendar.Moment.stamp? (.ofUnixSeconds 0) = some "1970-01-01T00:00:00Z" := by
    decide +kernel
  have quiet : HasQuietNames strayCatalog := catalog ▸ hasQuietNames_extract _
  have extracted : run (frameworkTree strayHeader bareHeader []) frameworkLayout none = _ :=
    run_frameworkTree (by decide +kernel) (by decide +kernel) rfl
  have rendered : render .typeScript (.ofUnixSeconds 0) strayCatalog = _ := render_of_stamp stamped
  refine ⟨_, _, extracted, catalog ▸ rendered, ?_⟩
  rw [catalog]
  constructor
  · rw [keepsComments_iff quiet (by decide +kernel)]
    intro harmless
    exact absurd (harmless "ends */ here" (by decide)) (by decide)
  · refine ⟨_, _, members_mem_sources.mpr (.inl ⟨rfl, rfl⟩), ?_⟩
    have chime : strayCatalog.services.head (by decide) ∈ strayCatalog.sortedServices :=
      Catalog.mem_sortedServices.mpr (List.head_mem _)
    have inserted := comment_mem_insertions
      (serviceEnum strayCatalog (Names.ofCatalog strayCatalog)) (List.mem_map_of_mem chime)
    rw [← map_inserted_commentsOf] at inserted
    obtain ⟨comment, written, same⟩ := List.mem_map.mp inserted
    exact ⟨comment, written, same.trans (by decide +kernel)⟩

end HomeCatalog.Extraction
