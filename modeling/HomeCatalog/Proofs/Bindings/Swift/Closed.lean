import HomeCatalog.Bindings.Generation
import HomeCatalog.Proofs.Bindings.References
import HomeCatalog.Proofs.Bindings.Swift.Names
import HomeCatalog.Proofs.Bindings.Swift.Texts

/-!
# The Swift tree is complete and closed

Every entry of a catalog with distinct identifiers has its constant and its file, and whatever one
file uses is declared by another for the very entry that is meant.
-/

namespace HomeCatalog.Bindings.Swift

open Identifier

/-! ## What files promise each other -/

/-- The paths of a Swift tree. -/
inductive IsPath : String → Prop where
  | serviceConstants : IsPath "ServiceType+Generated.swift"
  | characteristicConstants : IsPath "CharacteristicType+Generated.swift"
  | wrapper {stem : String} (isStem : IsStem stem) : IsPath ("Characteristics/" ++ stem ++ ".swift")
  | service {stem : String} (isStem : IsStem stem) : IsPath ("Services/" ++ stem ++ ".swift")

/-- Whether a file extends a namespace by one constant for each identifier, with and without the
framework. -/
structure ConstantsFile.Declares (file : ConstantsFile) (extended : String)
    (identifiers : List String) : Prop where
  identifiers : file.constants.map Constant.identifier = identifiers
  distinct : (file.constants.map Constant.name).Nodup
  written : IsConstantsText extended file.constants file.body

/-- Whether a file declares a constant of a name, and declares it by an identifier only. -/
structure ConstantsFile.Binds (file : ConstantsFile) (name identifier : String) : Prop where
  declared : ∃ constant ∈ file.constants, constant.name = name
  only : ∀ constant ∈ file.constants, constant.name = name → constant.identifier = identifier

section

variable (catalog : Catalog) (files : List (String × Source))

/-- Whether a constant is the one that is declared for a characteristic. -/
def IsConstantOf (characteristic : Characteristic) (constant : String) : Prop :=
  (characteristicConstants catalog (Names.ofCatalog catalog)).Binds constant
    characteristic.identifier

/-- Whether a type is the wrapper class of a characteristic, in the file of its name. -/
structure IsWrapperOf (characteristic : Characteristic) (wrapperType : String) : Prop where
  stored : ("Characteristics/" ++ wrapperType ++ ".swift",
    .wrapper (wrapperFile (Names.ofCatalog catalog) characteristic)) ∈ files
  written : IsWrapperText wrapperType (valueType characteristic.valueKind)
    (wrapperFile (Names.ofCatalog catalog) characteristic).constant characteristic.deprecated
    (wrapperFile (Names.ofCatalog catalog) characteristic).body
  constant : IsConstantOf catalog characteristic
    (wrapperFile (Names.ofCatalog catalog) characteristic).constant

/-- Whether an accessor leads to the characteristic of a reference. -/
structure IsAccessorOf (reference : Reference) (accessor : Accessor) : Prop where
  wrapper : IsWrapperOf catalog files reference.characteristic accessor.wrapperType
  constant : IsConstantOf catalog reference.characteristic accessor.constant

/-- Whether a file declares the class of a service, and uses for each of its references what is
declared for the characteristic. -/
structure IsClassOf (service : Service) (file : ServiceFile) : Prop where
  stored : ("Services/" ++ file.serviceType ++ ".swift", .service file) ∈ files
  written : IsClassText file file.body
  constant : (serviceConstants catalog (Names.ofCatalog catalog)).Binds file.constant
    service.identifier
  names : (file.accessors.map Accessor.name).Nodup
  accessors : List.Forall₂ (IsAccessorOf catalog files)
    (references catalog.characteristicsByName service) file.accessors
  required : List.Forall₂ (fun reference => IsConstantOf catalog reference.characteristic)
    ((references catalog.characteristicsByName service).filter fun reference =>
      reference.isRequired) file.required
  optional : List.Forall₂ (fun reference => IsConstantOf catalog reference.characteristic)
    ((references catalog.characteristicsByName service).filter fun reference =>
      !reference.isRequired) file.optional

/-- Whether files are a tree for a catalog in which no file and no declaration is missing, doubled
or mistaken. -/
structure IsClosed : Prop where
  length_eq : files.length = 2 + catalog.services.length + catalog.characteristics.length
  distinct : (files.map Prod.fst).Nodup
  paths : ∀ file ∈ files, IsPath file.1
  serviceConstants : ("ServiceType+Generated.swift",
    .constants (serviceConstants catalog (Names.ofCatalog catalog))) ∈ files
  services_declared :
    (Swift.serviceConstants catalog (Names.ofCatalog catalog)).Declares "ServiceType"
      (catalog.sortedServices.map Service.identifier)
  characteristicConstants : ("CharacteristicType+Generated.swift",
    .constants (characteristicConstants catalog (Names.ofCatalog catalog))) ∈ files
  characteristics_declared :
    (Swift.characteristicConstants catalog (Names.ofCatalog catalog)).Declares "CharacteristicType"
      (catalog.sortedCharacteristics.map Characteristic.identifier)
  wrappers : ∀ characteristic ∈ catalog.characteristics,
    ∃ wrapperType, IsWrapperOf catalog files characteristic wrapperType
  classes : ∀ service ∈ catalog.services, ∃ file, IsClassOf catalog files service file
  onlyClasses : ∀ path file, (path, Source.service file) ∈ files →
    ∃ service ∈ catalog.services, IsClassOf catalog files service file

end

/-! ## Constants -/

section

variable {α : Type} {entries : List α} {make : α → Constant}

/-- A file declares constants that have names of their own and comments of one line. -/
theorem ConstantsFile.declares_map (extended : String)
    (distinct : (entries.map fun entry => (make entry).name).Nodup)
    (oneLine : ∀ entry, '\n' ∉ (make entry).comment.toList) :
    (ConstantsFile.mk extended (entries.map make)).Declares extended
      (entries.map fun entry => (make entry).identifier) := by
  refine ⟨?_, ?_, isConstantsText_body ⟨extended, entries.map make⟩ ?_⟩
  · rw [List.map_map]
    rfl
  · rwa [List.map_map]
  · rw [List.forall_mem_map]
    exact fun entry _ => oneLine entry

/-- Where names are distinct, each is bound to the identifier of its entry. -/
theorem ConstantsFile.binds_map (extended : String)
    (distinct : (entries.map fun entry => (make entry).name).Nodup) {entry : α}
    (member : entry ∈ entries) :
    (ConstantsFile.mk extended (entries.map make)).Binds (make entry).name
      (make entry).identifier := by
  constructor
  · exact ⟨make entry, List.mem_map_of_mem member, rfl⟩
  · intro constant declared same
    obtain ⟨other, inEntries, rfl⟩ := List.mem_map.mp declared
    rw [List.inj_on_of_nodup_map distinct inEntries member same]

end

section

variable {catalog : Catalog} {names : Names}

theorem declares_serviceConstants (apart : names.AreDistinct catalog) :
    (serviceConstants catalog names).Declares "ServiceType"
      (catalog.sortedServices.map Service.identifier) :=
  ConstantsFile.declares_map _ apart.serviceConstants.nodup
    fun _ => feed_notMem_commentText _ _

theorem declares_characteristicConstants (apart : names.AreDistinct catalog) :
    (characteristicConstants catalog names).Declares "CharacteristicType"
      (catalog.sortedCharacteristics.map Characteristic.identifier) :=
  ConstantsFile.declares_map _ apart.characteristicConstants.nodup
    fun _ => feed_notMem_commentText _ _

end

/-! ## Files -/

section

variable (names : Names)

theorem isWrapperText_wrapperFile (characteristic : Characteristic) :
    IsWrapperText (names.characteristicTypes.nameOf characteristic.identifier)
      (valueType characteristic.valueKind) (wrapperFile names characteristic).constant
      characteristic.deprecated (wrapperFile names characteristic).body :=
  isWrapperText_body (wrapperFile names characteristic) (feed_notMem_commentText _ _)

theorem isClassText_serviceFile (byName : List (String × Characteristic)) (service : Service) :
    IsClassText (serviceFile names byName service) (serviceFile names byName service).body := by
  apply isClassText_body (serviceFile names byName service) (feed_notMem_commentText _ _)
  exact forall_mem_zipWith fun _ _ => feed_notMem_commentText _ _

end

section

variable {catalog : Catalog} (distinct : catalog.HasDistinctIdentifiers)

include distinct

theorem isConstantOf_nameOf {characteristic : Characteristic}
    (member : characteristic ∈ catalog.characteristics) :
    IsConstantOf catalog characteristic
      ((Names.ofCatalog catalog).characteristicConstants.nameOf characteristic.identifier) :=
  ConstantsFile.binds_map _
    (Names.areDistinct_ofCatalog distinct).characteristicConstants.nodup
    (Catalog.mem_sortedCharacteristics.mpr member)

theorem isWrapperOf_nameOf {characteristic : Characteristic}
    (member : characteristic ∈ catalog.characteristics) :
    IsWrapperOf catalog (sources catalog) characteristic
      ((Names.ofCatalog catalog).characteristicTypes.nameOf characteristic.identifier) where
  stored := by
    apply List.mem_append_left
    apply List.mem_append_right
    exact List.mem_map.mpr ⟨characteristic, Catalog.mem_sortedCharacteristics.mpr member, rfl⟩
  written := isWrapperText_wrapperFile _ characteristic
  constant := isConstantOf_nameOf distinct member

/-- The constants of references are declared for their characteristics. -/
theorem forall₂_constantsOf (service : Service) (isRequired : Bool) :
    List.Forall₂ (fun reference => IsConstantOf catalog reference.characteristic)
      ((references catalog.characteristicsByName service).filter
        fun reference => reference.isRequired == isRequired)
      (constantsOf (Names.ofCatalog catalog) isRequired
        (references catalog.characteristicsByName service)) := by
  rw [constantsOf, List.forall₂_map_right_iff, List.forall₂_same]
  intro reference member
  exact isConstantOf_nameOf distinct
    (mem_of_mem_references (List.mem_of_mem_filter member)).1

theorem isClassOf_serviceFile {service : Service} (member : service ∈ catalog.services) :
    IsClassOf catalog (sources catalog) service
      (serviceFile (Names.ofCatalog catalog) catalog.characteristicsByName service) where
  stored := by
    apply List.mem_append_right
    exact List.mem_map.mpr ⟨service, Catalog.mem_sortedServices.mpr member, rfl⟩
  written := isClassText_serviceFile _ _ service
  constant :=
    ConstantsFile.binds_map _ (Names.areDistinct_ofCatalog distinct).serviceConstants.nodup
      (Catalog.mem_sortedServices.mpr member)
  names := by
    have named : (serviceFile (Names.ofCatalog catalog) catalog.characteristicsByName
        service).accessors.map Accessor.name = _ :=
      map_zipWith_right (by simp) fun _ _ => rfl
    rw [named]
    exact Allocator.nodup_allocateAll _ _
  accessors := by
    apply forall₂_zipWith (by simp)
    intro reference inReferences name
    obtain ⟨inCatalog, _⟩ := mem_of_mem_references inReferences
    exact ⟨isWrapperOf_nameOf distinct inCatalog, isConstantOf_nameOf distinct inCatalog⟩
  required := by
    have constants := forall₂_constantsOf distinct service true
    simp only [beq_true] at constants
    exact constants
  optional := by
    have constants := forall₂_constantsOf distinct service false
    simp only [beq_false] at constants
    exact constants

/-- No two files have one path. -/
theorem nodup_paths_sources : ((sources catalog).map Prod.fst).Nodup := by
  have apart := Names.areDistinct_ofCatalog distinct
  have paths := nodup_paths ["ServiceType+Generated.swift", "CharacteristicType+Generated.swift"]
    "Characteristics/" "Services/" ".swift" (by decide) (by decide) (by decide)
    apart.characteristicTypes.nodup apart.serviceTypes.nodup
  simpa [sources, Function.comp_def] using paths

theorem isPath_of_mem_sources {file : String × Source} (member : file ∈ sources catalog) :
    IsPath file.1 := by
  have apart := Names.areDistinct_ofCatalog distinct
  simp only [sources, List.mem_append, List.mem_cons, List.not_mem_nil, or_false,
    List.mem_map] at member
  rcases member with ((rfl | rfl) | ⟨entry, sorted, rfl⟩) | ⟨entry, sorted, rfl⟩
  · exact .serviceConstants
  · exact .characteristicConstants
  · exact .wrapper (apart.characteristicStems entry sorted)
  · exact .service (apart.serviceStems entry sorted)

theorem isClosed_sources : IsClosed catalog (sources catalog) where
  length_eq := by
    simp only [sources, List.length_append, List.length_map, List.length_cons, List.length_nil,
      Catalog.sortedServices, Catalog.sortedCharacteristics, List.length_mergeSort]
    omega
  distinct := nodup_paths_sources distinct
  paths _ member := isPath_of_mem_sources distinct member
  serviceConstants := by simp [sources]
  services_declared := declares_serviceConstants (Names.areDistinct_ofCatalog distinct)
  characteristicConstants := by simp [sources]
  characteristics_declared :=
    declares_characteristicConstants (Names.areDistinct_ofCatalog distinct)
  wrappers characteristic member := ⟨_, isWrapperOf_nameOf distinct member⟩
  classes service member := ⟨_, isClassOf_serviceFile distinct member⟩
  onlyClasses path file member := by
    simp only [sources, List.mem_append, List.mem_cons, List.not_mem_nil, or_false, List.mem_map,
      Prod.mk.injEq, reduceCtorEq, and_false, exists_false, false_or, Source.service.injEq]
      at member
    obtain ⟨service, sorted, _, rfl⟩ := member
    have inCatalog := Catalog.mem_sortedServices.mp sorted
    exact ⟨service, inCatalog, isClassOf_serviceFile distinct inCatalog⟩

/-- No file takes the place of another, so the tree holds the text of every file. -/
theorem tree_eq (stamp : String) :
    tree stamp catalog = (sources catalog).map fun file => (file.1, file.2.text stamp) := by
  apply Entries.ofPairs_of_nodup
  rw [List.map_map]
  exact nodup_paths_sources distinct

end

/-! ## The whole tree -/

/-- Rendering a catalog with distinct identifiers fails only where the moment has no stamp.  Else it
gives the texts of files that are a complete and closed tree. -/
theorem render_swift_isClosed {catalog : Catalog} (distinct : catalog.HasDistinctIdentifiers)
    (moment : Calendar.Moment) :
    match render .swift moment catalog with
    | .error problem => problem = .timeOutOfRange ∧ moment.stamp? = none
    | .ok rendering => ∃ stamp, moment.stamp? = some stamp ∧
        rendering.files = (sources catalog).map (fun file =>
          (file.1, header stamp ++ frameworkImport ++ file.2.body)) ∧
        IsClosed catalog (sources catalog) := by
  rw [render]
  cases moment.stamp? with
  | none => exact ⟨rfl, rfl⟩
  | some stamp => exact ⟨stamp, rfl, tree_eq distinct stamp, isClosed_sources distinct⟩

/-- The files of entries that meet are told apart. -/
theorem render_swift_meetingCatalog :
    ∃ rendering, render .swift (.ofUnixSeconds 0) meetingCatalog = .ok rendering ∧
      IsClosed meetingCatalog (sources meetingCatalog) ∧
      rendering.files.map Prod.fst =
        [ "ServiceType+Generated.swift", "CharacteristicType+Generated.swift",
          "Characteristics/_.swift", "Characteristics/_9livesCharacteristic.swift",
          "Characteristics/DefaultCharacteristic.swift",
          "Characteristics/LevelCharacteristic.swift",
          "Characteristics/LevelCharacteristic2.swift",
          "Characteristics/Level2Characteristic.swift",
          "Services/FanService.swift", "Services/FanService2.swift" ] := by
  have stamped : Calendar.Moment.stamp? (.ofUnixSeconds 0) ≠ none := by decide +kernel
  have closed := render_swift_isClosed hasDistinctIdentifiers_meetingCatalog
    (.ofUnixSeconds 0)
  cases rendered : render .swift (.ofUnixSeconds 0) meetingCatalog with
  | error problem =>
      rw [rendered] at closed
      exact absurd closed.2 stamped
  | ok rendering =>
      rw [rendered] at closed
      obtain ⟨stamp, _, files, closed⟩ := closed
      refine ⟨rendering, rfl, closed, ?_⟩
      rw [files, List.map_map]
      change (sources meetingCatalog).map Prod.fst = _
      simp only [sources, Names.ofCatalog, sortedServices_meetingCatalog,
        sortedCharacteristics_meetingCatalog]
      decide +kernel

end HomeCatalog.Bindings.Swift
