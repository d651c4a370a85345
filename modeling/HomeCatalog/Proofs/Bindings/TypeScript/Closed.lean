import HomeCatalog.Bindings.Generation
import HomeCatalog.Proofs.Bindings.TypeScript.Documentation
import HomeCatalog.Proofs.Bindings.TypeScript.Names
import HomeCatalog.Proofs.Bindings.TypeScript.Texts

/-!
# The TypeScript tree is complete and closed

Every entry of a catalog with distinct identifiers has its enum member and its file, and whatever
one file imports or exports again is exported by the file to which the specifier leads.  That is so
as the files were written, and in any other way of reading them exactly if it takes their comments
and literals to end where they were meant to.
-/

namespace HomeCatalog.Bindings.TypeScript

open Identifier

/-! ## What files promise each other -/

/-- Whether a file declares an enum of a name with one member for each identifier. -/
structure EnumFile.Lists (reading : Reading) (file : EnumFile) (enumName : String)
    (identifiers : List String) : Prop where
  enumName_eq : file.enumName = enumName
  identifiers : file.members.map Member.identifier = identifiers
  distinct : (file.members.map Member.key).Nodup
  written : IsEnumText reading file file.body

section

variable (reading : Reading) (catalog : Catalog) (files : List (String × Source))

/-- The lines of a file that import or export again a type of some name from a certain file. -/
inductive IsLink (keyword importer name : String) (exporter : Source) : String → Prop where
  | intro (specifier path : String) (resolved : resolve importer specifier = some path)
      (stored : (path, exporter) ∈ files) :
      IsLink keyword importer name exporter
        (keyword ++ " type \x7b " ++ name ++ " \x7d from '" ++ specifier ++ "';\n")

/-- Whether a type is the one of a characteristic, under the name that was allocated for it and in
the file of that name. -/
structure IsAliasOf (characteristic : Characteristic) (name : String) : Prop where
  named : name =
    (Names.ofCatalog catalog).characteristicAliases.nameOf characteristic.identifier
  stored : ("characteristics/" ++ name ++ ".ts",
    .characteristic (aliasFile (Names.ofCatalog catalog) characteristic)) ∈ files
  written : IsAliasText reading name (valueType characteristic.valueKind)
    (aliasFile (Names.ofCatalog catalog) characteristic).comment characteristic.deprecated
    (aliasFile (Names.ofCatalog catalog) characteristic).body

/-- Whether a line imports or exports again the type of a characteristic, from where it is exported
for that characteristic. -/
structure LinksTo (keyword importer : String) (characteristic : Characteristic)
    (name line : String) : Prop where
  exported : IsAliasOf reading catalog files characteristic name
  link : IsLink files keyword importer name
    (.characteristic (aliasFile (Names.ofCatalog catalog) characteristic)) line

/-- Whether a property has the type of the characteristic of a reference, and is required exactly if
the service requires that characteristic. -/
structure IsPropertyOf (service : Service) (reference : Reference) (property : Property) :
    Prop where
  typed : IsAliasOf reading catalog files reference.characteristic property.typeName
  required : property.isRequired = true ↔ reference.characteristic.name ∈ service.required

/-- Whether a file declares the interface of a service, under the name that was allocated for it,
with a property for each of its references, and imports what these use from where it is exported. -/
structure IsInterfaceOf (service : Service) (file : InterfaceFile) : Prop where
  name : file.name = (Names.ofCatalog catalog).serviceInterfaces.nameOf service.identifier
  identifier : file.identifier = service.identifier
  deprecated : file.deprecated = service.deprecated
  stored : ("services/" ++ file.name ++ ".ts", .service file) ∈ files
  written : IsInterfaceText reading
    (fun name line => ∃ characteristic ∈ catalog.characteristics,
      LinksTo reading catalog files "import" ("services/" ++ file.name ++ ".ts") characteristic
        name line)
    file file.body
  ascending : file.imports.Pairwise (· < ·)
  used : ∀ name, name ∈ file.imports ↔ name ∈ file.properties.map Property.typeName
  names : (file.properties.map Property.name).Nodup
  properties : List.Forall₂ (IsPropertyOf reading catalog files service)
    (references catalog.characteristicsByName service) file.properties

/-- Whether a file exports again the type of every characteristic and then of every service. -/
structure IsIndex (file : IndexFile) : Prop where
  stored : ("index.ts", .index file) ∈ files
  written : ∃ aliases interfaces : List String,
    IsIndexText aliases interfaces file.body ∧
    List.Forall₂ (fun characteristic line => ∃ name,
        LinksTo reading catalog files "export" "index.ts" characteristic name line)
      catalog.sortedCharacteristics aliases ∧
    List.Forall₂ (fun service line => ∃ exporter,
        IsInterfaceOf reading catalog files service exporter ∧
          IsLink files "export" "index.ts" exporter.name (.service exporter) line)
      catalog.sortedServices interfaces

/-- Whether files are a tree for a catalog in which no file and no export is missing, doubled or
mistaken. -/
structure IsClosed : Prop where
  length_eq : files.length = 3 + catalog.services.length + catalog.characteristics.length
  distinct : (files.map Prod.fst).Nodup
  serviceEnum :
    ("serviceTypes.ts", .members (serviceEnum catalog (Names.ofCatalog catalog))) ∈ files
  services_listed : (TypeScript.serviceEnum catalog (Names.ofCatalog catalog)).Lists reading
    "ServiceTypes" (catalog.sortedServices.map Service.identifier)
  characteristicEnum : ("characteristicTypes.ts",
    .members (characteristicEnum catalog (Names.ofCatalog catalog))) ∈ files
  characteristics_listed :
    (TypeScript.characteristicEnum catalog (Names.ofCatalog catalog)).Lists reading
      "CharacteristicTypes" (catalog.sortedCharacteristics.map Characteristic.identifier)
  aliases : ∀ characteristic ∈ catalog.characteristics,
    ∃ name, IsAliasOf reading catalog files characteristic name
  interfaces : ∀ service ∈ catalog.services,
    ∃ file, IsInterfaceOf reading catalog files service file
  onlyInterfaces : ∀ path file, (path, Source.service file) ∈ files →
    ∃ service ∈ catalog.services, IsInterfaceOf reading catalog files service file
  index : ∃ file, IsIndex reading catalog files file

end

/-! ## Enums -/

section

variable {α : Type} {entries : List α} {make : α → Member} {reading : Reading}

/-- An enum lists members that have keys of their own and comments of one line. -/
theorem EnumFile.lists_map {enumName label plainLabel : String}
    (takes : reading.Takes (.members ⟨enumName, label, plainLabel, entries.map make⟩))
    (distinct : (entries.map fun entry => (make entry).key).Nodup)
    (oneLine : ∀ entry, '\n' ∉ (make entry).comment.toList) :
    (EnumFile.mk enumName label plainLabel (entries.map make)).Lists reading enumName
      (entries.map fun entry => (make entry).identifier) := by
  refine ⟨rfl, ?_, ?_, isEnumText_body takes ?_⟩
  · rw [List.map_map]
    rfl
  · rwa [List.map_map]
  · rw [List.forall_mem_map]
    exact fun entry _ => oneLine entry

end

/-! ## Links -/

/-- The types of the references of a service. -/
def typesOf (names : Names) (references : List Reference) : List String :=
  references.map fun reference =>
    names.characteristicAliases.nameOf reference.characteristic.identifier

/-- The properties of a service have the types of its references. -/
theorem map_typeName_properties (names : Names) (references : List Reference) :
    (properties names references).map Property.typeName = typesOf names references :=
  map_zipWith_left (by simp) fun _ _ => rfl

theorem importsOf_eq (names : Names) (references : List Reference) :
    importsOf names references = sortNames (typesOf names references).eraseDups :=
  rfl

section

variable {files : List (String × Source)} {name : String} {exporter : Source}

/-- An import in the file of a service leads to the file of the characteristic type. -/
theorem isLink_importLine {stem : String} (isStem : IsStem stem) (isName : IsStem name)
    (stored : ("characteristics/" ++ name ++ ".ts", exporter) ∈ files) :
    IsLink files "import" ("services/" ++ stem ++ ".ts") name exporter (importLine name) := by
  have line : importLine name =
      "import" ++ " type \x7b " ++ name ++ " \x7d from '" ++ ("../characteristics/" ++ name) ++
        "';\n" := by
    unfold importLine
    apply String.toList_inj.mp
    simp
  rw [line]
  exact .intro _ _ (resolve_service isStem isName) stored

/-- An export of the index leads to a file in the directory that it names. -/
theorem isLink_exportLine {directory : String} (isDirectory : IsStem directory)
    (isName : IsStem name) (stored : (directory ++ "/" ++ name ++ ".ts", exporter) ∈ files) :
    IsLink files "export" "index.ts" name exporter (exportLine directory name) := by
  have line : exportLine directory name =
      "export" ++ " type \x7b " ++ name ++ " \x7d from '" ++ ("./" ++ directory ++ "/" ++ name) ++
        "';\n" := by
    unfold exportLine
    apply String.toList_inj.mp
    simp
  rw [line]
  exact .intro _ _ (resolve_index isDirectory isName) stored

end

/-! ## Files -/

section

variable {catalog : Catalog}

theorem stored_serviceEnum (catalog : Catalog) :
    ("serviceTypes.ts", .members (serviceEnum catalog (Names.ofCatalog catalog))) ∈
      sources catalog := by
  simp [sources]

theorem stored_characteristicEnum (catalog : Catalog) :
    ("characteristicTypes.ts", .members (characteristicEnum catalog (Names.ofCatalog catalog))) ∈
      sources catalog := by
  simp [sources]

theorem stored_aliasFile {characteristic : Characteristic}
    (member : characteristic ∈ catalog.characteristics) :
    ("characteristics/" ++
        (Names.ofCatalog catalog).characteristicAliases.nameOf characteristic.identifier ++ ".ts",
      .characteristic (aliasFile (Names.ofCatalog catalog) characteristic)) ∈ sources catalog := by
  apply List.mem_append_left
  apply List.mem_append_left
  apply List.mem_append_right
  exact List.mem_map.mpr ⟨characteristic, Catalog.mem_sortedCharacteristics.mpr member, rfl⟩

theorem stored_interfaceFile {service : Service} (member : service ∈ catalog.services) :
    ("services/" ++ (Names.ofCatalog catalog).serviceInterfaces.nameOf service.identifier ++ ".ts",
      .service (interfaceFile (Names.ofCatalog catalog) catalog.characteristicsByName service)) ∈
        sources catalog := by
  apply List.mem_append_left
  apply List.mem_append_right
  exact List.mem_map.mpr ⟨service, Catalog.mem_sortedServices.mpr member, rfl⟩

/-- The only interfaces in a tree are those of its services. -/
theorem exists_service_of_mem_sources {path : String} {file : InterfaceFile}
    (stored : (path, .service file) ∈ sources catalog) :
    ∃ service ∈ catalog.services,
      file = interfaceFile (Names.ofCatalog catalog) catalog.characteristicsByName service := by
  simp only [sources, List.mem_append, List.mem_cons, List.not_mem_nil, or_false, List.mem_map,
    Prod.mk.injEq, reduceCtorEq, and_false, exists_false, false_or, Source.service.injEq]
    at stored
  obtain ⟨service, sorted, _, rfl⟩ := stored
  exact ⟨service, Catalog.mem_sortedServices.mp sorted, rfl⟩

end

section

variable {catalog : Catalog} {reading : Reading}
  (takes : ∀ file ∈ sources catalog, reading.Takes file.2)

include takes

theorem isAliasOf_nameOf {characteristic : Characteristic}
    (member : characteristic ∈ catalog.characteristics) :
    IsAliasOf reading catalog (sources catalog) characteristic
      ((Names.ofCatalog catalog).characteristicAliases.nameOf characteristic.identifier) where
  named := rfl
  stored := stored_aliasFile member
  written := isAliasText_body (aliasFile (Names.ofCatalog catalog) characteristic)
    (takes _ (stored_aliasFile member)) (feed_notMem_commentText _ _)

theorem isPropertyOf_propertyOf {service : Service} {reference : Reference}
    (member : reference ∈ references catalog.characteristicsByName service) (name : String) :
    IsPropertyOf reading catalog (sources catalog) service reference
      (propertyOf (Names.ofCatalog catalog) reference name) := by
  obtain ⟨inCatalog, _, isRequired⟩ := mem_of_mem_references member
  refine ⟨isAliasOf_nameOf takes inCatalog, ?_⟩
  rw [propertyOf, isRequired, List.contains_iff_mem]

end

section

variable {catalog : Catalog} (distinct : catalog.HasDistinctIdentifiers)

include distinct

theorem isStem_aliasOf {characteristic : Characteristic}
    (member : characteristic ∈ catalog.characteristics) :
    IsStem ((Names.ofCatalog catalog).characteristicAliases.nameOf characteristic.identifier) :=
  (Names.areDistinct_ofCatalog distinct).characteristicStems _
    (Catalog.mem_sortedCharacteristics.mpr member)

theorem isStem_interfaceOf {service : Service} (member : service ∈ catalog.services) :
    IsStem ((Names.ofCatalog catalog).serviceInterfaces.nameOf service.identifier) :=
  (Names.areDistinct_ofCatalog distinct).serviceStems _
    (Catalog.mem_sortedServices.mpr member)

/-- No two files have one path. -/
theorem nodup_paths_sources : ((sources catalog).map Prod.fst).Nodup := by
  have apart := Names.areDistinct_ofCatalog distinct
  have paths := nodup_paths ["serviceTypes.ts", "characteristicTypes.ts", "index.ts"]
    "characteristics/" "services/" ".ts" (by decide) (by decide) (by decide)
    apart.characteristicAliases.nodup apart.serviceInterfaces.nodup
  -- The index comes last in the tree, and before the directories among the paths of no directory.
  have order : ∀ inside : List String,
      (["serviceTypes.ts", "characteristicTypes.ts", "index.ts"] ++ inside).Perm
        (["serviceTypes.ts", "characteristicTypes.ts"] ++ (inside ++ ["index.ts"])) := by
    intro inside
    exact List.Perm.append_left ["serviceTypes.ts", "characteristicTypes.ts"]
      (List.perm_append_singleton "index.ts" inside).symm
  rw [List.append_assoc] at paths
  simpa [sources, Function.comp_def] using (order _).nodup_iff.mp paths

/-- No file takes the place of another, so the tree holds the text of every file. -/
theorem tree_eq (stamp : String) :
    tree stamp catalog = (sources catalog).map fun file => (file.1, file.2.text stamp) := by
  apply Entries.ofPairs_of_nodup
  rw [List.map_map]
  exact nodup_paths_sources distinct

section

variable {reading : Reading} (takes : ∀ file ∈ sources catalog, reading.Takes file.2)

include takes

/-- The imports of a service lead to the types of its references. -/
theorem linksTo_importLine {service : Service} (member : service ∈ catalog.services)
    {name : String} (imported : name ∈ importsOf (Names.ofCatalog catalog)
      (references catalog.characteristicsByName service)) :
    ∃ characteristic ∈ catalog.characteristics,
      LinksTo reading catalog (sources catalog) "import" ("services/" ++
        (Names.ofCatalog catalog).serviceInterfaces.nameOf service.identifier ++ ".ts")
        characteristic name (importLine name) := by
  rw [importsOf_eq, mem_sortNames, List.mem_eraseDups, typesOf] at imported
  obtain ⟨reference, inReferences, rfl⟩ := List.mem_map.mp imported
  obtain ⟨inCatalog, _⟩ := mem_of_mem_references inReferences
  have exported := isAliasOf_nameOf takes inCatalog
  exact ⟨reference.characteristic, inCatalog, exported,
    isLink_importLine (isStem_interfaceOf distinct member) (isStem_aliasOf distinct inCatalog)
      exported.stored⟩

theorem isInterfaceOf_interfaceFile {service : Service} (member : service ∈ catalog.services) :
    IsInterfaceOf reading catalog (sources catalog) service
      (interfaceFile (Names.ofCatalog catalog) catalog.characteristicsByName service) where
  name := rfl
  identifier := rfl
  deprecated := rfl
  stored := stored_interfaceFile member
  written :=
    isInterfaceText_body (takes _ (stored_interfaceFile member)) (feed_notMem_commentText _ _)
      fun _ imported => linksTo_importLine distinct takes member imported
  ascending := pairwise_lt_sortNames (nodup_eraseDups _)
  used name := by
    have types := map_typeName_properties (Names.ofCatalog catalog)
      (references catalog.characteristicsByName service)
    change name ∈ importsOf _ _ ↔ name ∈ (properties _ _).map Property.typeName
    rw [types, importsOf_eq, mem_sortNames, List.mem_eraseDups]
  names := by
    have named : (properties (Names.ofCatalog catalog)
        (references catalog.characteristicsByName service)).map Property.name = _ :=
      map_zipWith_right (by simp) fun _ _ => rfl
    exact named ▸ Allocator.nodup_allocateAll _ _
  properties := by
    apply forall₂_zipWith (by simp)
    exact fun reference inReferences name => isPropertyOf_propertyOf takes inReferences name

theorem isIndex_indexFile :
    IsIndex reading catalog (sources catalog)
      (indexFile catalog (Names.ofCatalog catalog)) where
  stored := by simp [sources]
  written := by
    refine ⟨_, _, isIndexText_body _, ?_, ?_⟩
    · rw [List.forall₂_map_right_iff, indexFile, List.forall₂_map_right_iff, List.forall₂_same]
      intro characteristic sorted
      have inCatalog := Catalog.mem_sortedCharacteristics.mp sorted
      have exported := isAliasOf_nameOf takes inCatalog
      exact ⟨_, exported, isLink_exportLine ⟨by decide, by decide, by decide⟩
        (isStem_aliasOf distinct inCatalog) exported.stored⟩
    · rw [List.forall₂_map_right_iff, indexFile, List.forall₂_map_right_iff, List.forall₂_same]
      intro service sorted
      have inCatalog := Catalog.mem_sortedServices.mp sorted
      exact ⟨_, isInterfaceOf_interfaceFile distinct takes inCatalog,
        isLink_exportLine ⟨by decide, by decide, by decide⟩
          (isStem_interfaceOf distinct inCatalog) (stored_interfaceFile inCatalog)⟩

/-- The tree is closed in every way of reading that takes all of its files. -/
theorem isClosed_of_takes : IsClosed reading catalog (sources catalog) where
  length_eq := by
    simp only [sources, List.length_append, List.length_map, List.length_cons, List.length_nil,
      Catalog.sortedServices, Catalog.sortedCharacteristics, List.length_mergeSort]
    omega
  distinct := nodup_paths_sources distinct
  serviceEnum := stored_serviceEnum catalog
  services_listed := EnumFile.lists_map (takes _ (stored_serviceEnum catalog))
    (Names.areDistinct_ofCatalog distinct).serviceKeys.nodup fun _ => feed_notMem_commentText _ _
  characteristicEnum := stored_characteristicEnum catalog
  characteristics_listed := EnumFile.lists_map (takes _ (stored_characteristicEnum catalog))
    (Names.areDistinct_ofCatalog distinct).characteristicKeys.nodup
    fun _ => feed_notMem_commentText _ _
  aliases characteristic member := ⟨_, isAliasOf_nameOf takes member⟩
  interfaces service member := ⟨_, isInterfaceOf_interfaceFile distinct takes member⟩
  onlyInterfaces path file stored := by
    obtain ⟨service, inCatalog, rfl⟩ := exists_service_of_mem_sources stored
    exact ⟨service, inCatalog, isInterfaceOf_interfaceFile distinct takes inCatalog⟩
  index := ⟨_, isIndex_indexFile distinct takes⟩

end

/-- The file of a service is the one that was made for it. -/
theorem IsInterfaceOf.eq_interfaceFile {reading : Reading} {service : Service}
    {file : InterfaceFile}
    (isInterface : IsInterfaceOf reading catalog (sources catalog) service file)
    (member : service ∈ catalog.services) :
    file = interfaceFile (Names.ofCatalog catalog) catalog.characteristicsByName service := by
  obtain ⟨other, inCatalog, rfl⟩ := exists_service_of_mem_sources isInterface.stored
  have same : other = service :=
    List.inj_on_of_nodup_map distinct.services inCatalog member isInterface.identifier
  rw [same]

/-- The tree is closed in a way of reading exactly if all of its files can be read so. -/
theorem isClosed_sources_iff {reading : Reading} :
    IsClosed reading catalog (sources catalog) ↔
      ∀ file ∈ sources catalog, reading.Takes file.2 := by
  refine ⟨fun closed => ?_, isClosed_of_takes distinct⟩
  refine (forall_mem_sources fun source => reading.Takes source).mpr
    ⟨⟨closed.services_listed.written.takes, closed.characteristics_listed.written.takes⟩,
      fun characteristic member => ?_, fun service member => ?_, trivial⟩
  · obtain ⟨name, isAlias⟩ := closed.aliases characteristic member
    exact isAlias.written.isKept
  · obtain ⟨file, isInterface⟩ := closed.interfaces service member
    have takes := isInterface.written.takes
    rwa [isInterface.eq_interfaceFile distinct member] at takes

end

end HomeCatalog.Bindings.TypeScript
