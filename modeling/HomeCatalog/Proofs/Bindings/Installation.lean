import HomeCatalog.Bindings.Generation
import HomeCatalog.Proofs.Bindings.Paths
import HomeCatalog.Proofs.Files.Replacement

/-!
# Installing generated files

The files of a catalog have tidy paths, all different, also where identifiers repeat.  So an attempt
to generate them either leaves its output directory with exactly these files, or leaves all that was
there; unless the file system takes the directory away and then gives neither of the two its place.
-/

namespace HomeCatalog.Bindings

/-! ## The paths of the files -/

/-- The paths of the files that are there whatever the catalog. -/
def fixedPaths : Target → List String
  | .swift => ["ServiceType+Generated.swift", "CharacteristicType+Generated.swift"]
  | .typeScript => ["serviceTypes.ts", "characteristicTypes.ts", "index.ts"]

/-- The directories of the types of characteristics and of services. -/
def typeDirectories : Target → List String
  | .swift => ["Characteristics", "Services"]
  | .typeScript => ["characteristics", "services"]

/-- How the name of a source ends. -/
def sourceSuffix : Target → String
  | .swift => ".swift"
  | .typeScript => ".ts"

/-- How the name of a type ends. -/
def typeSuffixes : List String :=
  ["Characteristic", "Service"]

/-- Whether a path is one of those that are there whatever the catalog, or has a type for its
stem. -/
inductive IsSourcePath (target : Target) : String → Prop where
  | fixed {path : String} (member : path ∈ fixedPaths target) : IsSourcePath target path
  | typed {directory suffix : String} (inDirectory : directory ∈ typeDirectories target)
      (suffixed : suffix ∈ typeSuffixes) (requests : List NameRequest) (identifier : String) :
      IsSourcePath target (directory ++ "/" ++
        (assign (.ofNormalize fun raw => Identifier.typeName raw suffix) requests).nameOf
          identifier ++ sourceSuffix target)

theorem Swift.isSourcePath_of_mem_sources (catalog : Catalog) :
    ∀ path ∈ (Swift.sources catalog).map Prod.fst, IsSourcePath .swift path := by
  have characteristics : "Characteristics/" = "Characteristics" ++ "/" := by decide
  have services : "Services/" = "Services" ++ "/" := by decide
  intro path member
  simp only [Swift.sources, List.map_append, List.map_map, List.mem_append, List.mem_map,
    Function.comp_apply] at member
  rcases member with (⟨entry, member, rfl⟩ | ⟨entry, _, rfl⟩) | ⟨entry, _, rfl⟩
  · rcases List.mem_pair.mp member with rfl | rfl
    · exact .fixed (by simp [fixedPaths])
    · exact .fixed (by simp [fixedPaths])
  · rw [characteristics]
    exact .typed (by decide) (by decide : "Characteristic" ∈ typeSuffixes) _ _
  · rw [services]
    exact .typed (by decide) (by decide : "Service" ∈ typeSuffixes) _ _

theorem TypeScript.isSourcePath_of_mem_sources (catalog : Catalog) :
    ∀ path ∈ (TypeScript.sources catalog).map Prod.fst, IsSourcePath .typeScript path := by
  have characteristics : "characteristics/" = "characteristics" ++ "/" := by decide
  have services : "services/" = "services" ++ "/" := by decide
  intro path member
  simp only [TypeScript.sources, List.map_append, List.map_map, List.mem_append, List.mem_map,
    Function.comp_apply] at member
  rcases member with ((⟨entry, member, rfl⟩ | ⟨entry, _, rfl⟩) | ⟨entry, _, rfl⟩) |
    ⟨entry, member, rfl⟩
  · rcases List.mem_pair.mp member with rfl | rfl
    · exact .fixed (by simp [fixedPaths])
    · exact .fixed (by simp [fixedPaths])
  · rw [characteristics]
    exact .typed (by decide) (by decide : "Characteristic" ∈ typeSuffixes) _ _
  · rw [services]
    exact .typed (by decide) (by decide : "Service" ∈ typeSuffixes) _ _
  · rw [List.mem_singleton.mp member]
    exact .fixed (by simp [fixedPaths])

/-- Texts that are tabled by paths have paths that were entered, each once. -/
theorem forall_mem_and_nodup_ofPairs {α : Type} {holds : String → Prop}
    {sources : List (String × α)} (text : α → String)
    (entered : ∀ path ∈ sources.map Prod.fst, holds path) :
    (∀ file ∈ Entries.ofPairs (sources.map fun entry => (entry.1, text entry.2)), holds file.1) ∧
      ((Entries.ofPairs (sources.map fun entry => (entry.1, text entry.2))).map
        Prod.fst).Nodup := by
  refine ⟨fun file member => ?_, Entries.nodup_keys_ofPairs _⟩
  have key := Entries.mem_keys_ofPairs.mp (List.mem_map_of_mem (f := Prod.fst) member)
  rw [List.map_map] at key
  exact entered _ key

/-- The files of a catalog have the paths of sources, all different. -/
theorem isSourcePath_and_nodup_files (target : Target) (stamp : String) (catalog : Catalog) :
    (∀ file ∈ files target stamp catalog, IsSourcePath target file.1) ∧
      ((files target stamp catalog).map Prod.fst).Nodup := by
  cases target with
  | swift => exact forall_mem_and_nodup_ofPairs _ (Swift.isSourcePath_of_mem_sources catalog)
  | typeScript =>
      exact forall_mem_and_nodup_ofPairs _ (TypeScript.isSourcePath_of_mem_sources catalog)

theorem IsSourcePath.isTidy {target : Target} {path : String}
    (isSource : IsSourcePath target path) : IsTidy path := by
  have fixed : ∀ target, ∀ path ∈ fixedPaths target, IsTidy path := by
    intro target
    cases target <;> decide
  have inDirectories : ∀ target, ∀ directory ∈ typeDirectories target,
      '/' ∉ directory.toList ∧ 2 < directory.toList.length := by
    intro target
    cases target <;> decide
  have ends : ∀ target, '/' ∉ (sourceSuffix target).toList ∧
      2 < (sourceSuffix target).toList.length := by
    intro target
    cases target <;> decide
  have plain : ∀ suffix ∈ typeSuffixes, suffix.toList.all Text.isStemChar = true := by decide
  cases isSource with
  | fixed member => exact fixed target path member
  | typed inDirectory suffixed requests identifier =>
      obtain ⟨plainDirectory, long⟩ := inDirectories target _ inDirectory
      obtain ⟨plainEnd, long'⟩ := ends target
      exact isTidy_path plainDirectory plainEnd long long'
        (isStemChar_nameOf_assign (plain _ suffixed) requests identifier)

/-- The files of a catalog have tidy and distinct paths. -/
theorem isTidy_and_nodup_files (target : Target) (stamp : String) (catalog : Catalog) :
    (∀ file ∈ files target stamp catalog, IsTidy file.1) ∧
      ((files target stamp catalog).map fun file => Path.partsOfString file.1).Nodup := by
  obtain ⟨isSource, distinct⟩ := isSourcePath_and_nodup_files target stamp catalog
  have tidy : ∀ file ∈ files target stamp catalog, IsTidy file.1 :=
    fun file member => (isSource file member).isTidy
  refine ⟨tidy, ?_⟩
  have mapped : ((files target stamp catalog).map fun file => Path.partsOfString file.1) =
      ((files target stamp catalog).map Prod.fst).map Path.partsOfString := by
    rw [List.map_map]
    rfl
  rw [mapped]
  refine distinct.map_on fun left inLeft right inRight same => ?_
  obtain ⟨file, member, rfl⟩ := List.mem_map.mp inLeft
  obtain ⟨file', member', rfl⟩ := List.mem_map.mp inRight
  exact eq_of_partsOfString (tidy file member) (tidy file' member') same

/-- Rendered files lie where their parts say, each at a place of its own. -/
theorem plain_and_nodup_of_render {target : Target} {moment : Calendar.Moment} {catalog : Catalog}
    {rendering : Rendering} (rendered : render target moment catalog = .ok rendering) :
    (∀ file ∈ rendering.files, ".." ∉ Path.partsOfString file.1) ∧
      (rendering.files.map fun file => Path.partsOfString file.1).Nodup := by
  rw [render] at rendered
  split at rendered
  · cases rendered
  · next stamp _ =>
      cases rendered
      obtain ⟨tidy, distinct⟩ := isTidy_and_nodup_files target stamp catalog
      exact ⟨fun file member => plain_partsOfString (tidy file member), distinct⟩

/-! ## Attempts to generate -/

/-- What an attempt to generate files into a directory may come to. -/
inductive IsAtomic (before : FileTree) (target : List String) :
    Except Problem Rendering → Generation → Prop where
  /-- Nothing could be rendered, and nothing has changed. -/
  | unrendered (problem : Problem) (findings : List Finding) :
      IsAtomic before target (.error problem) ⟨before, findings, .error problem⟩
  /-- The target holds exactly the rendered files, and the directories above it are there; outside
  all has stayed. -/
  | installed {rendering : Rendering} {after : FileTree} (findings : List Finding)
      (holds : after.HoldsExactly target rendering.files)
      (above : ∀ place, place <+: target → after.isDirectoryAt place = true)
      (keeps : ∀ place, ¬ target <+: place →
        before.GrowsAt after (FileTree.MayAppear target) place) :
      IsAtomic before target (.ok rendering) ⟨after, findings, .ok rendering.files⟩
  /-- All has stayed. -/
  | refused {rendering : Rendering} {after : FileTree} (problem : Problem)
      (findings : List Finding)
      (keeps : ∀ place, before.GrowsAt after (FileTree.MayAppear target) place) :
      IsAtomic before target (.ok rendering) ⟨after, findings, .error problem⟩

/-- An output directory that was there is there after an attempt, whether it was replaced or not. -/
theorem IsAtomic.isDirectoryAt {before : FileTree} {target : List String}
    {rendered : Except Problem Rendering} {generation : Generation}
    (atomic : IsAtomic before target rendered generation)
    (isDirectory : before.isDirectoryAt target = true) :
    generation.tree.isDirectoryAt target = true := by
  cases atomic with
  | unrendered => exact isDirectory
  | installed _ _ above => exact above target List.prefix_rfl
  | refused _ _ keeps =>
      rw [FileTree.isDirectoryAt_iff] at isDirectory ⊢
      exact (keeps target).node?_eq_some isDirectory

/-- What an attempt leaves that is given neither the place of its output directory nor the directory
back: all that was in it lies under a hidden name beside it, and outside all has stayed. -/
inductive IsStranded (before : FileTree) (target : List String) :
    Except Problem Rendering → Generation → Prop where
  | intro {rendering : Rendering} {after : FileTree} (problem : Problem) (findings : List Finding)
      (moved : before.IsMovedAside after target) :
      IsStranded before target (.ok rendering) ⟨after, findings, .error problem⟩

variable {circumstances : Circumstances} {target : Target} {moment : Calendar.Moment}
  {catalog : Catalog} {tree : FileTree} {output : Path}

/-- An attempt to generate does nothing, or replaces its output directory and reports whether that
was refused. -/
theorem generateIn_cases (circumstances : Circumstances) (target : Target)
    (moment : Calendar.Moment) (catalog : Catalog) (tree : FileTree) (output : Path) :
    (∃ findings problem,
        generateIn circumstances target moment catalog tree output =
            ⟨tree, findings, .error problem⟩ ∧
          ∀ other, render target moment catalog = .error other → problem = other) ∨
      ∃ rendering findings result, render target moment catalog = .ok rendering ∧
        generateIn circumstances target moment catalog tree output =
            ⟨(tree.replaceDirectoryIn circumstances output rendering.files).tree, findings,
              result⟩ ∧
          ((tree.replaceDirectoryIn circumstances output rendering.files).error = none ∧
              result = .ok rendering.files ∨
            (tree.replaceDirectoryIn circumstances output rendering.files).error ≠ none ∧
              ∃ problem, result = .error problem) := by
  rw [generateIn]
  cases rendered : render target moment catalog with
  | error problem =>
      exact Or.inl ⟨[], problem, rfl, fun other same => by cases same; rfl⟩
  | ok rendering =>
      dsimp only
      split
      · exact Or.inl ⟨_, _, rfl, fun other impossible => by cases impossible⟩
      · refine Or.inr ⟨rendering, ?_⟩
        split
        · next accepted => exact ⟨_, _, rfl, rfl, Or.inl ⟨accepted, rfl⟩⟩
        · next refused => exact ⟨_, _, rfl, rfl, Or.inr ⟨by simp [refused], _, rfl⟩⟩
        · next refused => exact ⟨_, _, rfl, rfl, Or.inr ⟨by simp [refused], _, rfl⟩⟩

section

variable (grounded : tree.IsGrounded) (outside : ¬ tree.resolve output <+: tree.home)
include grounded outside

/-- An attempt to generate replaces its output directory or leaves all that was there, unless the
file system does not give back what it has let go. -/
theorem isAtomic_or_isStranded_generateIn (circumstances : Circumstances) (target : Target)
    (moment : Calendar.Moment) (catalog : Catalog) :
    IsAtomic tree (tree.resolve output) (render target moment catalog)
        (generateIn circumstances target moment catalog tree output) ∨
      ¬ circumstances.GivesBack ∧
        IsStranded tree (tree.resolve output) (render target moment catalog)
          (generateIn circumstances target moment catalog tree output) := by
  rcases generateIn_cases circumstances target moment catalog tree output with
    ⟨findings, problem, same, reason⟩ | ⟨rendering, findings, result, rendered, same, outcome⟩
  · rw [same]
    refine Or.inl ?_
    cases rendered : render target moment catalog with
    | error other =>
        rw [reason other rendered]
        exact .unrendered other findings
    | ok rendering => exact .refused problem findings fun place => .of_eq rfl
  · obtain ⟨plain, distinct⟩ := plain_and_nodup_of_render rendered
    have grows := FileTree.growsAt_or_isMovedAside_replaceDirectoryIn grounded outside plain
      distinct circumstances
    rw [same, rendered]
    rcases outcome with ⟨accepted, rfl⟩ | ⟨refused, problem, rfl⟩
    · have holds :=
        FileTree.holdsExactly_replaceDirectoryIn grounded outside plain distinct accepted
      have isDirectory := (holds.directory_iff []).mpr (Or.inl rfl)
      rw [List.append_nil, ← FileTree.isDirectoryAt_iff] at isDirectory
      have groundedAfter :
          (tree.replaceDirectoryIn circumstances output rendering.files).tree.IsGrounded :=
        grounded.replaceDirectoryIn outside plain distinct
      rcases grows with settled | ⟨_, refused, _⟩
      · exact Or.inl (.installed findings holds
          (fun place above => groundedAfter.isDirectoryAt_of_above isDirectory above)
          fun place notBelow => settled place fun _ => notBelow)
      · exact absurd accepted refused
    · rcases grows with settled | ⟨stuck, _, moved⟩
      · exact Or.inl (.refused problem findings fun place =>
          settled place fun accepted => absurd accepted refused)
      · exact Or.inr ⟨stuck, .intro problem findings moved⟩

/-- An attempt to generate keeps a tree grounded. -/
theorem isGrounded_generateIn :
    (generateIn circumstances target moment catalog tree output).tree.IsGrounded ∧
      (generateIn circumstances target moment catalog tree output).tree.home = tree.home := by
  rcases generateIn_cases circumstances target moment catalog tree output with
    ⟨findings, problem, same, _⟩ | ⟨rendering, findings, result, rendered, same, _⟩
  · rw [same]
    exact ⟨grounded, rfl⟩
  · obtain ⟨plain, distinct⟩ := plain_and_nodup_of_render rendered
    rw [same]
    exact ⟨grounded.replaceDirectoryIn outside plain distinct,
      FileTree.home_replaceDirectoryIn grounded outside plain distinct⟩

end

end HomeCatalog.Bindings
