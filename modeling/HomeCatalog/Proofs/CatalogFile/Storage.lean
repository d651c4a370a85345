import HomeCatalog.CatalogFile.Storage
import HomeCatalog.Proofs.Files.Storing

/-!
# Storing a catalog

A catalog is refused for the first entry in the order of its file that lacks a field, before the
file system is asked for anything.  The text of any other is stored as a whole or not at all.
-/

namespace HomeCatalog.CatalogFile

/-! ## What is refused -/

/-- The fields of an entry that a catalog file cannot do without, with the sort of the entry. -/
structure Naming where
  kind : EntryKind
  identifier : String
  name : String
  swiftName : String

namespace Naming

def ofService (service : Service) : Naming :=
  ⟨.service, service.identifier, service.name, service.swiftName⟩

def ofCharacteristic (characteristic : Characteristic) : Naming :=
  ⟨.characteristic, characteristic.identifier, characteristic.name, characteristic.swiftName⟩

/-- Whether a field is the first in the order of identifier, name and `swiftName` that is empty. -/
inductive FirstEmpty (naming : Naming) : String → Prop where
  | identifier (empty : naming.identifier = "") : FirstEmpty naming "identifier"
  | name (filled : naming.identifier ≠ "") (empty : naming.name = "") : FirstEmpty naming "name"
  | swiftName (filled : naming.identifier ≠ "") (filled' : naming.name ≠ "")
      (empty : naming.swiftName = "") : FirstEmpty naming "swiftName"

/-- Whether no field is empty. -/
def IsComplete (naming : Naming) : Prop :=
  naming.identifier ≠ "" ∧ naming.name ≠ "" ∧ naming.swiftName ≠ ""

/-- What an entry is called in messages. -/
def label (naming : Naming) : String :=
  if naming.identifier = "" then "<unnamed>" else naming.identifier

/-- The failure for which an entry is refused. -/
def failure? (naming : Naming) : Option Failure :=
  (emptyField? naming.identifier naming.name naming.swiftName).map
    (Failure.emptyField naming.kind naming.identifier)

theorem emptyField?_eq_some_iff (naming : Naming) (field : String) :
    emptyField? naming.identifier naming.name naming.swiftName = some field ↔
      naming.FirstEmpty field := by
  constructor
  · intro found
    rw [emptyField?] at found
    split_ifs at found with identifier name swiftName
    · cases found
      exact .identifier (by simpa using identifier)
    · cases found
      exact .name (by simpa using identifier) (by simpa using name)
    · cases found
      exact .swiftName (by simpa using identifier) (by simpa using name) (by simpa using swiftName)
  · intro first
    cases first with
    | identifier empty => simp [emptyField?, empty]
    | name filled empty => simp [emptyField?, filled, empty]
    | swiftName filled filled' empty => simp [emptyField?, filled, filled', empty]

theorem failure?_eq_none_iff (naming : Naming) : naming.failure? = none ↔ naming.IsComplete := by
  rw [failure?, Option.map_eq_none_iff, emptyField?, IsComplete]
  split_ifs with identifier name swiftName <;> simp_all

/-- An entry is refused with a message that tells its first empty field. -/
theorem failure?_eq_some_iff (naming : Naming) (failure : Failure) :
    naming.failure? = some failure ↔ ∃ field, naming.FirstEmpty field ∧
      failure = ⟨.encoding,
        naming.kind.label ++ " '" ++ naming.label ++ "' has an empty " ++ field, none, none⟩ := by
  rw [failure?, Option.map_eq_some_iff]
  refine exists_congr fun field => ?_
  rw [emptyField?_eq_some_iff, Failure.emptyField, label, eq_comm]
  simp only [String.isEmpty_iff]

end Naming

/-- The entries of a catalog in the order of its file. -/
def namings (catalog : Catalog) : List Naming :=
  catalog.sortedServices.map .ofService ++ catalog.sortedCharacteristics.map .ofCharacteristic

theorem failure?_eq_findSome? (catalog : Catalog) :
    failure? catalog = (namings catalog).findSome? Naming.failure? := by
  rw [namings, List.findSome?_append, List.findSome?_map, List.findSome?_map]
  rfl

/-- Whether a failure tells the first entry in the order of the file that has an empty field, and
the first such field. -/
def TellsFirstIncomplete (catalog : Catalog) (failure : Failure) : Prop :=
  ∃ before naming after field, namings catalog = before ++ naming :: after ∧
    (∀ earlier ∈ before, earlier.IsComplete) ∧ naming.FirstEmpty field ∧
      failure = ⟨.encoding,
        naming.kind.label ++ " '" ++ naming.label ++ "' has an empty " ++ field, none, none⟩

theorem failure?_eq_some_iff (catalog : Catalog) (failure : Failure) :
    failure? catalog = some failure ↔ TellsFirstIncomplete catalog failure := by
  rw [failure?_eq_findSome?, List.findSome?_eq_some_iff]
  constructor
  · rintro ⟨before, naming, after, split, refused, complete⟩
    obtain ⟨field, first, message⟩ := (naming.failure?_eq_some_iff failure).mp refused
    exact ⟨before, naming, after, field, split,
      fun earlier member => earlier.failure?_eq_none_iff.mp (complete earlier member), first,
      message⟩
  · rintro ⟨before, naming, after, field, split, complete, first, message⟩
    exact ⟨before, naming, after, split,
      (naming.failure?_eq_some_iff failure).mpr ⟨field, first, message⟩,
      fun earlier member => earlier.failure?_eq_none_iff.mpr (complete earlier member)⟩

/-- Whether some entry of a catalog lacks a field. -/
def HasIncomplete (catalog : Catalog) : Prop :=
  (∃ service ∈ catalog.services, ¬ (Naming.ofService service).IsComplete) ∨
    ∃ characteristic ∈ catalog.characteristics,
      ¬ (Naming.ofCharacteristic characteristic).IsComplete

theorem exists_failure?_iff (catalog : Catalog) :
    (∃ failure, failure? catalog = some failure) ↔ HasIncomplete catalog := by
  rw [← Option.isSome_iff_exists, failure?_eq_findSome?, List.findSome?_isSome_iff, namings,
    HasIncomplete]
  have refused : ∀ naming : Naming, naming.failure?.isSome = true ↔ ¬ naming.IsComplete := by
    intro naming
    rw [← naming.failure?_eq_none_iff]
    exact Option.isSome_iff_ne_none
  simp only [List.mem_append, List.mem_map, refused, or_and_right, exists_or,
    Catalog.sortedServices, Catalog.sortedCharacteristics, List.mem_mergeSort,
    exists_exists_and_eq_and]

/-- What writing a catalog comes to at a moment that has a stamp. -/
theorem write_eq_of_stamp {moment : Calendar.Moment} {stamp : String}
    (stamped : moment.stamp? = some stamp) (catalog : Catalog) :
    write moment catalog = match failure? catalog with
      | some failure => .error (.failure failure)
      | none => .ok (unlines (linesOf stamp catalog)) := by
  rw [write, stamped]
  dsimp only
  rw [textOf]
  cases failure? catalog <;> rfl

/-- A catalog cannot be written, at a moment that has a stamp, for its first entry that lacks a
field only. -/
theorem write_eq_error_iff {moment : Calendar.Moment} {stamp : String}
    (stamped : moment.stamp? = some stamp) (catalog : Catalog) (problem : Problem) :
    write moment catalog = .error problem ↔
      ∃ failure, TellsFirstIncomplete catalog failure ∧ problem = .failure failure := by
  simp only [write_eq_of_stamp stamped, ← failure?_eq_some_iff]
  cases failure? catalog with
  | none => simp
  | some failure => simp [eq_comm]

/-! ## Attempts to store -/

/-- What an attempt to store a catalog at a path may come to. -/
inductive IsAtomic (before : FileTree) (path : Path) :
    Except Problem String → Storage → Prop where
  /-- There is no text, and nothing has changed. -/
  | unwritten (problem : Problem) : IsAtomic before path (.error problem) ⟨before, .error problem⟩
  /-- The file has the text; all else has stayed. -/
  | stored {text : String} {after : FileTree}
      (holds : after.node? (before.resolve path) = some (.file (Text.encode text)))
      (keeps : ∀ place, place ≠ before.resolve path →
        before.GrowsAt after (before.MayAppearFor path) place) :
      IsAtomic before path (.ok text) ⟨after, .ok text⟩
  /-- All has stayed. -/
  | refused {text : String} {after : FileTree} (error : FileError)
      (keeps : ∀ place, before.GrowsAt after (before.MayAppearFor path) place) :
      IsAtomic before path (.ok text) ⟨after, .error (.file error)⟩

variable {tree : FileTree}

theorem isAtomic_storeIn (grounded : tree.IsGrounded) (circumstances : Circumstances)
    (moment : Calendar.Moment) (catalog : Catalog) (path : Path) :
    IsAtomic tree path (write moment catalog) (storeIn circumstances moment catalog tree path) := by
  rw [storeIn]
  cases write moment catalog with
  | error problem => exact .unwritten problem
  | ok text =>
      dsimp only
      split
      · next accepted =>
          exact .stored (FileTree.node?_writeFileIn grounded accepted)
            fun place apart => FileTree.growsAt_writeFileIn grounded fun _ => apart
      · next error refused =>
          have failed : ∀ place, (tree.writeFileIn circumstances path text).error = none →
              place ≠ tree.resolve path := by
            intro place accepted
            rw [refused] at accepted
            cases accepted
          exact .refused error fun place => FileTree.growsAt_writeFileIn grounded (failed place)

/-- An attempt to store keeps a tree grounded. -/
theorem isGrounded_storeIn (grounded : tree.IsGrounded) (circumstances : Circumstances)
    (moment : Calendar.Moment) (catalog : Catalog) (path : Path) :
    (storeIn circumstances moment catalog tree path).tree.IsGrounded ∧
      (storeIn circumstances moment catalog tree path).tree.home = tree.home := by
  rw [storeIn]
  cases write moment catalog with
  | error problem => exact ⟨grounded, rfl⟩
  | ok text =>
      dsimp only
      have kept : (tree.writeFileIn circumstances path text).tree.IsGrounded ∧
          (tree.writeFileIn circumstances path text).tree.home = tree.home :=
        ⟨grounded.writeFileIn, FileTree.home_writeFileIn grounded⟩
      split
      · exact kept
      · exact kept

end HomeCatalog.CatalogFile
