import HomeCatalog.Bindings.Generation
import HomeCatalog.Proofs.Bindings.Assignment
import HomeCatalog.Proofs.Bindings.Paths
import HomeCatalog.Proofs.Bindings.TypeNames
import HomeCatalog.Proofs.Catalog.Sorting

/-!
# What bindings declare twice

Names are kept by identifiers, so entries of one identifier share all their names, and what is
generated declares each of these names once for every such entry.  Besides, a service and a
characteristic meet in the index if neither can have a type of its own.  Nothing else is declared
twice.
-/

namespace HomeCatalog.Bindings

open Identifier

/-- The names that an index exports, in its order. -/
def TypeScript.IndexFile.exports (file : TypeScript.IndexFile) : List String :=
  ["ServiceTypes", "CharacteristicTypes"] ++ file.aliases ++ file.interfaces

/-- Whether what is generated for a catalog declares every constant, every member of an enum and
every export once. -/
structure DeclaresOnce (catalog : Catalog) : Prop where
  constants : ∀ path file, (path, .constants file) ∈ Swift.sources catalog →
    (file.constants.map Swift.Constant.name).Nodup
  keys : ∀ path file, (path, .members file) ∈ TypeScript.sources catalog →
    (file.members.map TypeScript.Member.key).Nodup
  exports : ∀ path file, (path, .index file) ∈ TypeScript.sources catalog → file.exports.Nodup

/-! ## The files -/

section

variable {catalog : Catalog} {path : String}

theorem Swift.constants_mem_sources {file : ConstantsFile} :
    (path, .constants file) ∈ sources catalog ↔
      path = "ServiceType+Generated.swift" ∧
        file = serviceConstants catalog (Names.ofCatalog catalog) ∨
      path = "CharacteristicType+Generated.swift" ∧
        file = characteristicConstants catalog (Names.ofCatalog catalog) := by
  simp [sources]

theorem TypeScript.members_mem_sources {file : EnumFile} :
    (path, .members file) ∈ sources catalog ↔
      path = "serviceTypes.ts" ∧ file = serviceEnum catalog (Names.ofCatalog catalog) ∨
      path = "characteristicTypes.ts" ∧
        file = characteristicEnum catalog (Names.ofCatalog catalog) := by
  simp [sources]

theorem TypeScript.index_mem_sources {file : IndexFile} :
    (path, .index file) ∈ sources catalog ↔
      path = "index.ts" ∧ file = indexFile catalog (Names.ofCatalog catalog) := by
  simp [sources]

end

/-! ## Where the files lie -/

/-- A file that no other takes the place of is found under its path. -/
theorem lookup_texts {α : Type} {sources : List (String × α)} {path : String} {source : α}
    (text : α → String) (stored : (path, source) ∈ sources)
    (unique : ∀ other, (path, other) ∈ sources → other = source) :
    (Entries.ofPairs (sources.map fun entry => (entry.1, text entry.2))).lookup path =
      some (text source) := by
  apply Entries.lookup_ofPairs_of_unique
  · exact List.mem_map.mpr ⟨_, stored, rfl⟩
  · intro other member
    obtain ⟨⟨path', source'⟩, inSources, same⟩ := List.mem_map.mp member
    obtain ⟨rfl, rfl⟩ := Prod.mk.inj same
    rw [unique source' inSources]

section

variable {catalog : Catalog} {path : String}

/-- Constants files are found under their paths, whichever identifiers repeat. -/
theorem Swift.lookup_tree_constants {file : ConstantsFile}
    (stored : (path, .constants file) ∈ sources catalog) (stamp : String) :
    (tree stamp catalog).lookup path = some ((Source.constants file).text stamp) := by
  apply lookup_texts (Source.text stamp) stored
  rcases constants_mem_sources.mp stored with ⟨rfl, rfl⟩ | ⟨rfl, rfl⟩
  · simp (disch := decide) [sources, path_ne_of_outside]
  · simp (disch := decide) [sources, path_ne_of_outside]

/-- No other file has the path of an enum. -/
theorem TypeScript.eq_members_of_mem_sources {file : EnumFile} {other : Source}
    (stored : (path, .members file) ∈ sources catalog) (same : (path, other) ∈ sources catalog) :
    other = .members file := by
  revert other
  rcases members_mem_sources.mp stored with ⟨rfl, rfl⟩ | ⟨rfl, rfl⟩
  · simp (disch := decide) [sources, path_ne_of_outside]
  · simp (disch := decide) [sources, path_ne_of_outside]

/-- Enums are found under their paths, whichever identifiers repeat. -/
theorem TypeScript.lookup_tree_members {file : EnumFile}
    (stored : (path, .members file) ∈ sources catalog) (stamp : String) :
    (tree stamp catalog).lookup path = some ((Source.members file).text stamp) :=
  lookup_texts (Source.text stamp) stored fun _ => eq_members_of_mem_sources stored

/-- The index is found under its path, whichever identifiers repeat. -/
theorem TypeScript.lookup_tree_index {file : IndexFile}
    (stored : (path, .index file) ∈ sources catalog) (stamp : String) :
    (tree stamp catalog).lookup path = some ((Source.index file).text stamp) := by
  apply lookup_texts (Source.text stamp) stored
  obtain ⟨rfl, rfl⟩ := index_mem_sources.mp stored
  simp (disch := decide) [sources, path_ne_of_outside]

end

/-- Whether rendered trees hold the files of a catalog that declare something for each of its
entries, as they are described. -/
structure AreRendered (stamp : String) (catalog : Catalog)
    (swift typeScript : List (String × String)) : Prop where
  constants : ∀ path file, (path, .constants file) ∈ Swift.sources catalog →
    swift.lookup path = some (Swift.header stamp ++ Swift.frameworkImport ++ file.body)
  members : ∀ path file, (path, .members file) ∈ TypeScript.sources catalog →
    typeScript.lookup path = some (TypeScript.header stamp ++ file.body)
  index : ∀ path file, (path, .index file) ∈ TypeScript.sources catalog →
    typeScript.lookup path = some (TypeScript.header stamp ++ file.body)

theorem areRendered_files (stamp : String) (catalog : Catalog) :
    AreRendered stamp catalog (files .swift stamp catalog) (files .typeScript stamp catalog) := by
  constructor
  · exact fun _ _ stored => Swift.lookup_tree_constants stored stamp
  · exact fun _ _ stored => TypeScript.lookup_tree_members stored stamp
  · exact fun _ _ stored => TypeScript.lookup_tree_index stored stamp

/-! ## Constants and members -/

variable (catalog : Catalog)

/-- The names of constants or members, in whichever namespaces, are told apart exactly if no
identifier repeats. -/
theorem nodup_nameOf_assign_iff (serviceRules characteristicRules : Namespace) :
    (catalog.sortedServices.map fun entry =>
        (assign serviceRules (catalog.sortedServices.map fun entry =>
          ⟨entry.identifier, entry.swiftName, entry.name⟩)).nameOf entry.identifier).Nodup ∧
      (catalog.sortedCharacteristics.map fun entry =>
        (assign characteristicRules (catalog.sortedCharacteristics.map fun entry =>
          ⟨entry.identifier, entry.swiftName, entry.name⟩)).nameOf entry.identifier).Nodup ↔
      catalog.HasDistinctIdentifiers := by
  rw [Catalog.hasDistinctIdentifiers_iff]
  apply and_congr
  · exact nodup_map_nameOf_assign_iff serviceRules fun entry : Service =>
      ⟨entry.identifier, entry.swiftName, entry.name⟩
  · exact nodup_map_nameOf_assign_iff characteristicRules fun entry : Characteristic =>
      ⟨entry.identifier, entry.swiftName, entry.name⟩

/-- What is asked of all files of a sort is asked of the two that there are. -/
theorem forall_files_iff {α : Type} {IsFile : String → α → Prop} {first second : String}
    {one other : α} (files : ∀ {path file},
      IsFile path file ↔ path = first ∧ file = one ∨ path = second ∧ file = other)
    (property : α → Prop) :
    (∀ path file, IsFile path file → property file) ↔ property one ∧ property other := by
  constructor
  · intro every
    exact ⟨every _ _ (files.mpr (Or.inl ⟨rfl, rfl⟩)), every _ _ (files.mpr (Or.inr ⟨rfl, rfl⟩))⟩
  · intro both path file isFile
    rcases files.mp isFile with ⟨_, rfl⟩ | ⟨_, rfl⟩
    · exact both.1
    · exact both.2

/-- No constant is declared twice exactly if no identifier repeats. -/
theorem Swift.forall_constants_nodup_iff :
    (∀ path file, (path, .constants file) ∈ sources catalog →
      (file.constants.map Constant.name).Nodup) ↔ catalog.HasDistinctIdentifiers := by
  rw [← nodup_nameOf_assign_iff catalog serviceConstantRules characteristicConstantRules,
    forall_files_iff constants_mem_sources fun file => (file.constants.map Constant.name).Nodup,
    serviceConstants, characteristicConstants, List.map_map, List.map_map]
  rfl

/-- No enum declares a member twice exactly if no identifier repeats. -/
theorem TypeScript.forall_keys_nodup_iff :
    (∀ path file, (path, .members file) ∈ sources catalog →
      (file.members.map Member.key).Nodup) ↔ catalog.HasDistinctIdentifiers := by
  rw [← nodup_nameOf_assign_iff catalog keyRules keyRules,
    forall_files_iff members_mem_sources fun file => (file.members.map Member.key).Nodup,
    serviceEnum, characteristicEnum, List.map_map, List.map_map]
  rfl

/-! ## The index -/

/-- The names from which the type of a service is made. -/
def typeRequest (service : Service) : String × String :=
  (service.name, service.swiftName)

/-- The names from which the type of a characteristic is made. -/
def aliasRequest (characteristic : Characteristic) : String × String :=
  (characteristic.swiftName, characteristic.name)

/-- Whether a type can be made for every service, or for every characteristic. -/
def HasTypesOfOneSort (catalog : Catalog) : Prop :=
  (∀ service ∈ catalog.services, IsNameable "Service" (typeRequest service)) ∨
    ∀ characteristic ∈ catalog.characteristics,
      IsNameable "Characteristic" (aliasRequest characteristic)

variable {catalog}

/-- Where no identifier repeats, the index exports no name twice exactly if types can be made for
all entries of one sort. -/
theorem TypeScript.nodup_exports_iff (distinct : catalog.HasDistinctIdentifiers) :
    (indexFile catalog (Names.ofCatalog catalog)).exports.Nodup ↔ HasTypesOfOneSort catalog := by
  have aliases : (indexFile catalog (Names.ofCatalog catalog)).aliases =
      ((Allocator.new aliasRules).allocateAll (catalog.sortedCharacteristics.map aliasRequest)).1 :=
    map_nameOf_assign aliasRules
      (fun entry : Characteristic => ⟨entry.identifier, entry.swiftName, entry.name⟩)
      distinct.nodup_sortedCharacteristics
  have interfaces : (indexFile catalog (Names.ofCatalog catalog)).interfaces =
      ((Allocator.new interfaceRules).allocateAll (catalog.sortedServices.map typeRequest)).1 :=
    map_nameOf_assign interfaceRules
      (fun entry : Service => ⟨entry.identifier, entry.name, entry.swiftName⟩)
      distinct.nodup_sortedServices
  have aliasEnds : lastLetter? "Characteristic" = some 'c' := by decide
  have interfaceEnds : lastLetter? "Service" = some 'e' := by decide
  -- The names of the two enums are plurals, and no type ends like one.
  have plurals : ∀ name ∈ ["ServiceTypes", "CharacteristicTypes"], lastLetter? name = some 's' := by
    decide
  have apart : List.Disjoint ["ServiceTypes", "CharacteristicTypes"]
      (((Allocator.new aliasRules).allocateAll
          (catalog.sortedCharacteristics.map aliasRequest)).1 ++
        ((Allocator.new interfaceRules).allocateAll (catalog.sortedServices.map typeRequest)).1) := by
    intro name isEnum isType
    rcases List.mem_append.mp isType with isAlias | isInterface
    · exact notMem_allocateAll_of_lastLetter? aliasEnds (plurals name isEnum) (by decide) (by decide)
        isAlias
    · exact notMem_allocateAll_of_lastLetter? interfaceEnds (plurals name isEnum) (by decide)
        (by decide) isInterface
  have sorts : List.Disjoint
      ((Allocator.new aliasRules).allocateAll (catalog.sortedCharacteristics.map aliasRequest)).1
      ((Allocator.new interfaceRules).allocateAll (catalog.sortedServices.map typeRequest)).1 ↔
        HasTypesOfOneSort catalog := by
    rw [HasTypesOfOneSort, or_comm]
    refine (disjoint_allocateAll_iff aliasEnds interfaceEnds (by decide) (by decide)
      (by decide)).trans ?_
    simp only [List.forall_mem_map, Catalog.mem_sortedCharacteristics, Catalog.mem_sortedServices]
  rw [IndexFile.exports, aliases, interfaces, List.append_assoc, List.nodup_append',
    List.nodup_append', ← sorts]
  constructor
  · intro exported
    obtain ⟨_, ⟨_, _, disjoint⟩, _⟩ := exported
    exact disjoint
  · intro disjoint
    refine ⟨by decide, ⟨?_, ?_, disjoint⟩, apart⟩
    · exact Allocator.nodup_allocateAll _ _
    · exact Allocator.nodup_allocateAll _ _

/-- What is generated for a catalog declares nothing twice exactly if no identifier repeats and types
can be made for all entries of one sort. -/
theorem declaresOnce_iff :
    DeclaresOnce catalog ↔ catalog.HasDistinctIdentifiers ∧ HasTypesOfOneSort catalog := by
  constructor
  · intro once
    have distinct := (Swift.forall_constants_nodup_iff catalog).mp once.constants
    refine ⟨distinct, (TypeScript.nodup_exports_iff distinct).mp ?_⟩
    exact once.exports _ _ (TypeScript.index_mem_sources.mpr ⟨rfl, rfl⟩)
  · intro ⟨distinct, typed⟩
    constructor
    · exact (Swift.forall_constants_nodup_iff catalog).mpr distinct
    · exact (TypeScript.forall_keys_nodup_iff catalog).mpr distinct
    · intro path file stored
      obtain ⟨_, rfl⟩ := TypeScript.index_mem_sources.mp stored
      exact (TypeScript.nodup_exports_iff distinct).mpr typed

end HomeCatalog.Bindings
