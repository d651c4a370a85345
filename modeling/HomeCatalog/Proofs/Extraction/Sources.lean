import HomeCatalog.Extraction.Reading
import HomeCatalog.Proofs.Files.Storing

/-!
# What a run reads

A run that succeeds has read both headers, the stub and the metadata, each from where it lies, and
extracts the catalog of what it has read.  Reading a header takes care of its line ends.
-/

namespace HomeCatalog.Extraction

/-! ## Headers -/

/-- A header that was read holds no carriage return. -/
theorem return_notMem_of_readHeader {tree : FileTree} {path : Path} {header : String}
    (found : readHeader tree path = .ok header) : '\r' ∉ header.toList := by
  rw [readHeader] at found
  split at found
  · cases found
  · cases found
  · rw [FileTree.readText] at found
    split at found
    · cases found
    · split at found
      · next text decoded =>
          cases found
          exact Text.return_notMem_ofFile? decoded
      · cases found

/-- A header without carriage returns is read from its file. -/
theorem readHeader_of_encode {tree : FileTree} {path : Path} {header : String}
    (isFile : tree.isFile path = .ok true)
    (bytes : tree.readBytes path = .ok (Text.encode header)) (plain : '\r' ∉ header.toList) :
    readHeader tree path = .ok header := by
  simp only [readHeader, isFile, FileTree.readText, bytes, Text.ofFile?_encode plain]

/-! ## All sources -/

variable {tree : FileTree} {layout : Layout} {metadata : Option Path}

/-- Whether sources are what there is to read for a framework. -/
structure AreRead (tree : FileTree) (layout : Layout) (metadata : Option Path)
    (sources : Sources) : Prop where
  serviceHeader : readHeader tree layout.serviceHeader = .ok sources.serviceHeader
  characteristicHeader :
    readHeader tree layout.characteristicHeader = .ok sources.characteristicHeader
  stub : readStub tree layout = .ok sources.stub
  metadata : metadata.mapM (readMetadata tree) = .ok sources.metadata

theorem readSources_eq_ok_iff {sources : Sources} :
    readSources tree layout metadata = .ok sources ↔ AreRead tree layout metadata sources := by
  constructor
  · intro read
    rw [readSources] at read
    obtain ⟨serviceHeader, services, read⟩ := exists_of_bind_eq_ok read
    obtain ⟨characteristicHeader, characteristics, read⟩ := exists_of_bind_eq_ok read
    obtain ⟨stub, stubbed, read⟩ := exists_of_bind_eq_ok read
    obtain ⟨loaded, loads, read⟩ := exists_of_bind_eq_ok read
    cases read
    exact ⟨services, characteristics, stubbed, loads⟩
  · intro read
    rw [readSources, read.serviceHeader, read.characteristicHeader, read.stub]
    change (metadata.mapM (readMetadata tree) >>= _) = _
    rw [read.metadata]
    rfl

/-- A run succeeds exactly if everything can be read. -/
theorem run_eq_ok_iff {outcome : Outcome} :
    run tree layout metadata = .ok outcome ↔
      ∃ sources, AreRead tree layout metadata sources ∧ extract sources = outcome := by
  constructor
  · intro extracted
    cases read : readSources tree layout metadata with
    | error problem =>
        rw [run, read] at extracted
        cases extracted
    | ok sources =>
        rw [run, read] at extracted
        cases extracted
        exact ⟨sources, readSources_eq_ok_iff.mp read, rfl⟩
  · rintro ⟨sources, read, rfl⟩
    rw [run, readSources_eq_ok_iff.mpr read]
    rfl

/-- A run that succeeds extracts from headers without carriage returns. -/
theorem exists_sources_of_run {outcome : Outcome}
    (extracted : run tree layout metadata = .ok outcome) :
    ∃ sources, outcome = extract sources ∧ '\r' ∉ sources.serviceHeader.toList ∧
      '\r' ∉ sources.characteristicHeader.toList := by
  obtain ⟨sources, read, rfl⟩ := run_eq_ok_iff.mp extracted
  exact ⟨sources, rfl, return_notMem_of_readHeader read.serviceHeader,
    return_notMem_of_readHeader read.characteristicHeader⟩

/-! ## A framework among other files -/

/-- The tree in which a framework with two headers lies among other files. -/
def frameworkTree (serviceHeader characteristicHeader : String)
    (others : List (List String × Node)) : FileTree where
  home := ["kit"]
  nodes := [
    (["kit", "HomeKit.framework"], .directory),
    (["kit", "HomeKit.framework", "Headers"], .directory),
    (["kit", "HomeKit.framework", "Headers", "HMServiceTypes.h"],
      .file (Text.encode serviceHeader)),
    (["kit", "HomeKit.framework", "Headers", "HMCharacteristicTypes.h"],
      .file (Text.encode characteristicHeader))] ++ others

/-- Where the framework lies in such a tree. -/
def frameworkLayout : Layout := ⟨⟨.relative, ["HomeKit.framework"]⟩⟩

/-- Where its stub is looked for. -/
def frameworkStub : Path := ⟨.relative, ["HomeKit.framework.tbd"]⟩

/-- A header that declares two services. -/
def chimeHeader : String :=
  "HM_EXTERN NSString * const HMServiceTypeChime;\n" ++
    "HM_EXTERN NSString * const HMServiceTypeSiren;\n"

/-- A header that declares a characteristic for which no type can be made. -/
def bareHeader : String :=
  "HM_EXTERN NSString * const HMCharacteristicTypeCharacteristic;\n"

section

variable {serviceHeader characteristicHeader : String} (plain : '\r' ∉ serviceHeader.toList)
  (plain' : '\r' ∉ characteristicHeader.toList)

include plain plain'

theorem readHeaders_frameworkTree (others : List (List String × Node)) :
    readHeader (frameworkTree serviceHeader characteristicHeader others)
        frameworkLayout.serviceHeader = .ok serviceHeader ∧
      readHeader (frameworkTree serviceHeader characteristicHeader others)
        frameworkLayout.characteristicHeader = .ok characteristicHeader := by
  constructor
  · exact readHeader_of_encode rfl rfl plain
  · exact readHeader_of_encode rfl rfl plain'

/-- The catalog of a framework without a stub is extracted from its headers. -/
theorem run_frameworkTree {others : List (List String × Node)}
    (unstubbed : readStub (frameworkTree serviceHeader characteristicHeader others)
      frameworkLayout = .ok ⟨frameworkStub, none⟩) :
    run (frameworkTree serviceHeader characteristicHeader others) frameworkLayout none =
      .ok (extract ⟨serviceHeader, characteristicHeader, ⟨frameworkStub, none⟩, none⟩) := by
  obtain ⟨services, characteristics⟩ := readHeaders_frameworkTree plain plain' others
  apply run_eq_ok_iff.mpr
  refine ⟨_, ?_, rfl⟩
  constructor
  · exact services
  · exact characteristics
  · exact unstubbed
  · rfl

end

/-! ## Property lists in writing -/

/-- A text of less than 256 characters as an object of a property list. -/
def textObject (text : String) : List UInt8 :=
  [0x5F, 0x10, text.toList.length.toUInt8] ++ Text.encode text

/-- A short number in eight bytes. -/
def eightBytes (number : Nat) : List UInt8 :=
  List.replicate 6 0 ++ [(number / 256).toUInt8, (number % 256).toUInt8]

/-- A property list of objects that start within the first 256 bytes, of which the first is the
root. -/
def propertyListOf (objects : List (List UInt8)) : List UInt8 :=
  let places := (List.range objects.length).map fun count =>
    (8 + (objects.take count).flatten.length).toUInt8
  Text.encode "bplist00" ++ objects.flatten ++ places ++ [0, 0, 0, 0, 0, 0, 1, 1] ++
    eightBytes objects.length ++ eightBytes 0 ++ eightBytes (8 + objects.flatten.length)

end HomeCatalog.Extraction
