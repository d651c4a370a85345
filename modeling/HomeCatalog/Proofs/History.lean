import HomeCatalog.Proofs.Bindings.Installation
import HomeCatalog.Proofs.CatalogFile.Storage

/-!
# What is written after anything that was done before

A file tree is changed by putting files and directories into it, by generating bindings and by
storing catalogs, under whatever circumstances.  It stays grounded, so every attempt to generate or
to store comes to the same few outcomes, whatever was done before.
-/

namespace HomeCatalog

/-- Something that is done to a file tree. -/
inductive Action where
  /-- Put a file or a directory into a directory, unless there is a directory of that name. -/
  | put (directory : List String) (name : String) (node : Node)
  | generate (circumstances : Circumstances) (target : Target) (moment : Calendar.Moment)
      (catalog : Catalog) (output : Path)
  | store (circumstances : Circumstances) (moment : Calendar.Moment) (catalog : Catalog)
      (path : Path)

namespace Action

/-- The tree after an action. -/
def perform (tree : FileTree) : Action → FileTree
  | put directory name node =>
      if tree.isDirectoryAt directory && !tree.isDirectoryAt (directory ++ [name]) then
        tree.put (directory ++ [name]) node
      else tree
  | generate circumstances target moment catalog output =>
      (Bindings.generateIn circumstances target moment catalog tree output).tree
  | store circumstances moment catalog path =>
      (CatalogFile.storeIn circumstances moment catalog tree path).tree

/-- The tree after some actions in a row. -/
def performAll (tree : FileTree) (actions : List Action) : FileTree :=
  actions.foldl perform tree

/-- Whether an action generates into a directory other than the working directory and those above
it, if it generates. -/
def IsAdmissible (tree : FileTree) : Action → Prop
  | generate _ _ _ _ output => ¬ tree.resolve output <+: tree.home
  | _ => True

instance (tree : FileTree) : (action : Action) → Decidable (action.IsAdmissible tree)
  | put _ _ _ => .isTrue trivial
  | generate _ _ _ _ output => inferInstanceAs (Decidable (¬ tree.resolve output <+: tree.home))
  | store _ _ _ _ => .isTrue trivial

end Action

namespace FileTree

variable {tree : FileTree}

/-- An action keeps a tree grounded and the working directory where it is. -/
theorem IsGrounded.perform (grounded : tree.IsGrounded) {action : Action}
    (admissible : action.IsAdmissible tree) :
    (action.perform tree).IsGrounded ∧ (action.perform tree).home = tree.home := by
  cases action with
  | put directory name node =>
      rw [Action.perform]
      split
      · next free =>
          rw [Bool.and_eq_true, Bool.not_eq_true'] at free
          exact ⟨grounded.put free.1 free.2 node, rfl⟩
      · exact ⟨grounded, rfl⟩
  | generate circumstances target moment catalog output =>
      exact Bindings.isGrounded_generateIn grounded admissible
  | store circumstances moment catalog path =>
      exact CatalogFile.isGrounded_storeIn grounded circumstances moment catalog path

theorem isAdmissible_of_home {after : FileTree} (same : after.home = tree.home) {action : Action}
    (admissible : action.IsAdmissible tree) : action.IsAdmissible after := by
  cases action with
  | put => trivial
  | generate _ _ _ _ output =>
      rw [Action.IsAdmissible, resolve_eq_of_home same, same]
      exact admissible
  | store => trivial

/-- So do any actions in a row. -/
theorem IsGrounded.performAll (grounded : tree.IsGrounded) {actions : List Action}
    (admissible : ∀ action ∈ actions, action.IsAdmissible tree) :
    (Action.performAll tree actions).IsGrounded ∧
      (Action.performAll tree actions).home = tree.home := by
  induction actions generalizing tree with
  | nil => exact ⟨grounded, rfl⟩
  | cons action rest ih =>
      obtain ⟨groundedNext, same⟩ := grounded.perform (admissible action List.mem_cons_self)
      have later := ih groundedNext fun other member =>
        isAdmissible_of_home same (admissible other (List.mem_cons_of_mem action member))
      exact ⟨later.1, later.2.trans same⟩

end FileTree

/-! ## Generating -/

/-- After any actions, generating into a directory other than the working directory and those above
it replaces the directory or leaves all that was there, whatever step is refused, if only a file
system that does not let the new directory in gives the old one back.  Where it does neither, all
that was in the directory lies under a hidden name beside it. -/
theorem generateIn_isAtomic_after (start : FileTree) (grounded : start.IsGrounded)
    (actions : List Action) (admissible : ∀ action ∈ actions, action.IsAdmissible start)
    (circumstances : Circumstances) (target : Target) (moment : Calendar.Moment)
    (catalog : Catalog) (output : Path) (outside : ¬ start.resolve output <+: start.home) :
    let generation := Bindings.generateIn circumstances target moment catalog
      (Action.performAll start actions) output
    (circumstances.GivesBack →
      Bindings.IsAtomic (Action.performAll start actions) (start.resolve output)
        (Bindings.render target moment catalog) generation) ∧
      (Bindings.IsAtomic (Action.performAll start actions) (start.resolve output)
          (Bindings.render target moment catalog) generation ∨
        Bindings.IsStranded (Action.performAll start actions) (start.resolve output)
          (Bindings.render target moment catalog) generation) := by
  intro generation
  obtain ⟨groundedAfter, same⟩ := grounded.performAll admissible
  have reached := FileTree.resolve_eq_of_home same output
  rw [← reached] at outside ⊢
  rw [← same] at outside
  rcases Bindings.isAtomic_or_isStranded_generateIn groundedAfter outside circumstances target
    moment catalog with atomic | ⟨stuck, stranded⟩
  · exact ⟨fun _ => atomic, Or.inl atomic⟩
  · exact ⟨fun givesBack => absurd givesBack stuck, Or.inr stranded⟩

/-- A directory with a file of its own, into which bindings are generated twice; the second time its
successor cannot be moved there.  If the directory cannot be moved back either, nothing is left at
its place. -/
theorem generateIn_isAtomic_after_generate :
    let start : FileTree := .empty ["home"]
    let moment : Calendar.Moment := ⟨⟨⟨2024, 5, 1⟩, 12, 0, 0⟩, 0, some 0⟩
    let output : Path := ⟨.relative, ["out"]⟩
    let actions : List Action := [.put ["home"] "out" .directory,
      .put ["home", "out"] "old.txt" (.file [1]), .generate .usual .swift moment .empty output]
    let busy : Circumstances :=
      ⟨Circumstances.usual.draw, fun step => if step = .moveIn then some .busy else none⟩
    let stuck : Circumstances := ⟨Circumstances.usual.draw, fun step =>
      if step = .moveIn ∨ step = .moveBack then some .busy else none⟩
    (start.IsGrounded ∧ (∀ action ∈ actions, action.IsAdmissible start) ∧
        ¬ start.resolve output <+: start.home) ∧
      (busy.GivesBack ∧
        Bindings.IsAtomic (Action.performAll start actions) (start.resolve output)
          (Bindings.render .typeScript moment .empty)
          (Bindings.generateIn busy .typeScript moment .empty (Action.performAll start actions)
            output)) ∧
      ¬ stuck.GivesBack ∧
        Bindings.IsStranded (Action.performAll start actions) (start.resolve output)
          (Bindings.render .typeScript moment .empty)
          (Bindings.generateIn stuck .typeScript moment .empty (Action.performAll start actions)
            output) := by
  intro start moment output actions busy stuck
  have grounded : start.IsGrounded := FileTree.isGrounded_empty (by decide)
  have admissible : ∀ action ∈ actions, action.IsAdmissible start := by
    intro action member
    simp only [actions, List.mem_cons, List.not_mem_nil, or_false] at member
    rcases member with rfl | rfl | rfl <;> decide
  have outside : ¬ start.resolve output <+: start.home := by decide
  have atomic := generateIn_isAtomic_after start grounded actions admissible busy .typeScript
    moment .empty output outside
  have stranded := generateIn_isAtomic_after start grounded actions admissible stuck .typeScript
    moment .empty output outside
  have present : (Action.performAll start actions).isDirectoryAt (start.resolve output) = true := by
    decide +kernel
  have gone : (Bindings.generateIn stuck .typeScript moment .empty
      (Action.performAll start actions) output).tree.isDirectoryAt (start.resolve output) =
        false := by
    decide +kernel
  refine ⟨⟨grounded, admissible, outside⟩, ⟨by decide, atomic.1 (by decide)⟩, by decide,
    stranded.2.resolve_left fun kept => ?_⟩
  have stays := kept.isDirectoryAt present
  rw [gone] at stays
  cases stays

/-! ## Storing -/

/-- A catalog is written at every moment that has a stamp, unless it is refused for its first entry
that lacks a field.  After any actions, storing it puts its text at the path or leaves all that was
there. -/
theorem storeIn_isAtomic_after (start : FileTree) (grounded : start.IsGrounded)
    (actions : List Action) (admissible : ∀ action ∈ actions, action.IsAdmissible start)
    (circumstances : Circumstances) (moment : Calendar.Moment) (catalog : Catalog)
    (path : Path) :
    (match moment.stamp? with
      | none => CatalogFile.write moment catalog = .error .timeOutOfRange
      | some _ =>
          ((∃ problem, CatalogFile.write moment catalog = .error problem) ↔
              CatalogFile.HasIncomplete catalog) ∧
            ∀ problem, CatalogFile.write moment catalog = .error problem ↔
              ∃ failure, CatalogFile.TellsFirstIncomplete catalog failure ∧
                problem = .failure failure) ∧
      CatalogFile.IsAtomic (Action.performAll start actions) path
        (CatalogFile.write moment catalog)
        (CatalogFile.storeIn circumstances moment catalog (Action.performAll start actions)
          path) := by
  refine ⟨?_, CatalogFile.isAtomic_storeIn (grounded.performAll admissible).1 circumstances moment
    catalog path⟩
  cases stamped : moment.stamp? with
  | none => rw [CatalogFile.write, stamped]
  | some stamp =>
      have reason := CatalogFile.write_eq_error_iff stamped catalog
      refine ⟨?_, reason⟩
      rw [← CatalogFile.exists_failure?_iff]
      simp only [reason, CatalogFile.failure?_eq_some_iff]
      constructor
      · rintro ⟨_, failure, first, _⟩
        exact ⟨failure, first⟩
      · rintro ⟨failure, first⟩
        exact ⟨_, failure, first, rfl⟩

/-- A catalog file in place of another one, on a path that goes up on the way. -/
theorem storeIn_isAtomic_after_put :
    let start : FileTree := .empty ["home"]
    let moment : Calendar.Moment := ⟨⟨⟨2024, 5, 1⟩, 12, 0, 0⟩, 0, some 0⟩
    let actions : List Action := [.put ["home"] "b" .directory, .put ["home", "b"] "c" (.file [1])]
    let path : Path := ⟨.relative, ["a", "..", "b", "c"]⟩
    (start.IsGrounded ∧ ∀ action ∈ actions, action.IsAdmissible start) ∧
      CatalogFile.IsAtomic (Action.performAll start actions) path
        (CatalogFile.write moment .empty)
        (CatalogFile.storeIn .usual moment .empty (Action.performAll start actions) path) := by
  intro start moment actions path
  have grounded : start.IsGrounded := FileTree.isGrounded_empty (by decide)
  have admissible : ∀ action ∈ actions, action.IsAdmissible start := by
    intro action member
    simp only [actions, List.mem_cons, List.not_mem_nil, or_false] at member
    rcases member with rfl | rfl <;> decide
  exact ⟨⟨grounded, admissible⟩,
    (storeIn_isAtomic_after start grounded actions admissible .usual moment .empty path).2⟩

/-- An entry without identifier is not refused for it at a moment without stamp, and a path that
goes up makes a directory that is not above the file. -/
theorem write_unnamed_untimely_and_store_detour :
    let moment : Calendar.Moment := ⟨⟨⟨1, 1, 1⟩, 0, 0, 0⟩, 0, some 3600⟩
    let unnamed : Catalog := ⟨[⟨"", "n", "s", none, false, [], []⟩], []⟩
    let later : Calendar.Moment := ⟨⟨⟨2024, 5, 1⟩, 12, 0, 0⟩, 0, some 0⟩
    let start : FileTree := .empty ["home"]
    let path : Path := ⟨.relative, ["a", "..", "b", "c"]⟩
    (CatalogFile.HasIncomplete unnamed ∧
        CatalogFile.write moment unnamed = .error .timeOutOfRange) ∧
      (CatalogFile.store later .empty start path).result.isOk = true ∧
        start.node? ["home", "a"] = none ∧
          (CatalogFile.store later .empty start path).tree.node? ["home", "a"] =
            some .directory ∧
            ¬ ["home", "a"] <+: start.resolve path := by
  intro moment unnamed later start path
  refine ⟨⟨?_, by decide⟩, by decide +kernel, by decide, by decide +kernel, by decide⟩
  exact Or.inl ⟨_, List.mem_singleton.mpr rfl, fun complete => complete.1 rfl⟩

end HomeCatalog
