import HomeCatalog.Proofs.Bindings.Assignment
import HomeCatalog.Proofs.Bindings.Namespaces
import HomeCatalog.Files.Path
import HomeCatalog.Proofs.Text.Cutting
import HomeCatalog.Proofs.Text.Words

/-!
# The paths of generated files

Every type has a file of its own, in the directory of its sort and with the type as its stem.  Types
are made of characters that separate nothing in a path, so the parts of a path are what they seem.
-/

namespace HomeCatalog.Bindings

open Identifier

/-! ## Stems -/

/-- Whether a text can be the stem of a file name: it is not empty and separates nothing. -/
structure IsStem (stem : String) : Prop where
  filled : stem ≠ ""
  slash : '/' ∉ stem.toList
  dot : '.' ∉ stem.toList

theorem isStem_of_chars {stem : String} (filled : stem ≠ "")
    (chars : ∀ c ∈ stem.toList, Text.isStemChar c = true) : IsStem stem where
  filled
  slash member := absurd (chars '/' member) (by decide)
  dot member := absurd (chars '.' member) (by decide)

/-- Whether word characters have a property, and what they become in upper case has it too. -/
structure HoldsOfWords (holds : Char → Prop) : Prop where
  word : ∀ {c : Char}, Text.isWordChar c = true → holds c
  upper : ∀ {c : Char}, Text.isWordChar c = true → ∀ d ∈ Text.upperChar c, holds d

namespace HoldsOfWords

variable {holds : Char → Prop} (words : HoldsOfWords holds)
include words

theorem upperCamel (raw : String) : ∀ c ∈ (upperCamel raw).toList, holds c := by
  rw [Identifier.upperCamel, toList_upperFirst, toList_sanitize]
  have word : ∀ c ∈ raw.toList.filter Text.isWordChar, Text.isWordChar c = true :=
    fun c member => (List.mem_filter.mp member).2
  generalize raw.toList.filter Text.isWordChar = cs at word ⊢
  cases cs with
  | nil => simp [Text.upperHead]
  | cons first rest =>
      rw [Text.upperHead, List.forall_mem_append]
      constructor
      · exact words.upper (word first List.mem_cons_self)
      · exact fun c member => words.word (word c (List.mem_cons_of_mem _ member))

theorem typeName {suffix : String} (suffixed : ∀ c ∈ suffix.toList, holds c) (raw : String) :
    ∀ c ∈ (typeName raw suffix).toList, holds c := by
  have ends : ∀ base : String,
      ∀ c ∈ (if base.isEmpty then "" else Identifier.upperCamel base ++ suffix).toList,
        holds c := by
    intro base
    split
    · simp
    · rw [String.toList_append, List.forall_mem_append]
      exact ⟨words.upperCamel base, suffixed⟩
  exact ends _

/-- The names of types consist of words and of suffixes, whatever the identifiers of the entries. -/
theorem nameOf_assign {suffix : String} (suffixed : ∀ c ∈ suffix.toList, holds c)
    (requests : List NameRequest) (identifier : String) :
    ∀ c ∈ ((assign (.ofNormalize fun raw => Identifier.typeName raw suffix) requests).nameOf
      identifier).toList, holds c := by
  have normalized : ∀ raw, ∀ c ∈
      ((Namespace.ofNormalize fun raw => Identifier.typeName raw suffix).normalize raw).toList,
        holds c := words.typeName suffixed
  refine forall_mem_nameOf_assign _ normalized ?_ ?_ ?_ _ _
  · simp [Namespace.ofNormalize]
  · exact words.word (by simp [Text.isWordChar])
  · exact fun c digit => words.word (Text.isWordChar_of_isDigit digit)

end HoldsOfWords

theorem holdsOfWords_isStemChar : HoldsOfWords fun c => Text.isStemChar c = true :=
  ⟨Text.isStemChar_of_isWordChar, Text.isStemChar_upperChar⟩

/-- The names of types separate nothing, whatever the identifiers of the entries. -/
theorem isStemChar_nameOf_assign {suffix : String}
    (plain : suffix.toList.all Text.isStemChar = true) (requests : List NameRequest)
    (identifier : String) :
    ∀ c ∈ ((assign (.ofNormalize fun raw => typeName raw suffix) requests).nameOf
      identifier).toList, Text.isStemChar c = true :=
  holdsOfWords_isStemChar.nameOf_assign (List.all_eq_true.mp plain) requests identifier

/-- The types of entries with distinct identifiers are stems. -/
theorem isStem_nameOf_assign {α : Type} {entries : List α} {suffix : String}
    (plain : suffix.toList.all Text.isStemChar = true) (request : α → NameRequest)
    (distinct : (entries.map fun entry => (request entry).identifier).Nodup) :
    ∀ entry ∈ entries, IsStem
      ((assign (.ofNormalize fun raw => typeName raw suffix) (entries.map request)).nameOf
        (request entry).identifier) := by
  intro entry member
  apply isStem_of_chars
  · exact ((areNamed_assign (isSound_ofNormalize _) request distinct).legal entry member).filled
  · exact isStemChar_nameOf_assign plain _ _

/-! ## Distinct paths -/

/-- Texts differ if they start with texts of which neither starts with the other. -/
theorem append_ne_append {left right : String} (apart : ¬left.toList <+: right.toList)
    (apart' : ¬right.toList <+: left.toList) (one other : String) :
    left ++ one ≠ right ++ other := by
  intro same
  have starts : left.toList <+: (right ++ other).toList := by
    rw [← same, String.toList_append]
    exact List.prefix_append _ _
  have starts' : right.toList <+: (right ++ other).toList := by
    rw [String.toList_append]
    exact List.prefix_append _ _
  exact (List.prefix_or_prefix_of_prefix starts starts').elim apart apart'

/-- The path of a file tells its stem. -/
theorem path_injective (directory suffix : String) :
    Function.Injective fun stem => directory ++ stem ++ suffix := by
  intro left right same
  have texts := congrArg String.toList same
  simp only [String.toList_append] at texts
  exact String.toList_inj.mp (List.append_cancel_left (List.append_cancel_right texts))

/-- The path of a file starts with its directory. -/
theorem directory_isPrefix_path (directory stem suffix : String) :
    directory.toList <+: (directory ++ stem ++ suffix).toList := by
  rw [String.append_assoc, String.toList_append]
  exact List.prefix_append _ _

theorem path_ne_of_outside {directory path : String} (outside : ¬directory.toList <+: path.toList)
    (stem suffix : String) : directory ++ stem ++ suffix ≠ path := by
  rintro rfl
  exact outside (directory_isPrefix_path directory stem suffix)

/-- Files have distinct paths if they lie in two directories under names of their own, or elsewhere
under distinct paths. -/
theorem nodup_paths {α β : Type} (fixed : List String) (first second suffix : String)
    {entries : List α} {others : List β} {name : α → String} {name' : β → String}
    (elsewhere : ∀ path ∈ fixed, ¬first.toList <+: path.toList ∧ ¬second.toList <+: path.toList)
    (apart : ¬first.toList <+: second.toList ∧ ¬second.toList <+: first.toList)
    (distinct : fixed.Nodup) (named : (entries.map name).Nodup)
    (named' : (others.map name').Nodup) :
    (fixed ++ entries.map (fun entry => first ++ name entry ++ suffix) ++
      others.map fun entry => second ++ name' entry ++ suffix).Nodup := by
  have inFirst : (entries.map fun entry => first ++ name entry ++ suffix).Nodup := by
    have mapped := named.map (path_injective first suffix)
    rwa [List.map_map] at mapped
  have inSecond : (others.map fun entry => second ++ name' entry ++ suffix).Nodup := by
    have mapped := named'.map (path_injective second suffix)
    rwa [List.map_map] at mapped
  rw [List.append_assoc, List.nodup_append', List.nodup_append']
  refine ⟨distinct, ⟨inFirst, inSecond, ?_⟩, ?_⟩
  · intro path one other
    obtain ⟨entry, _, rfl⟩ := List.mem_map.mp one
    obtain ⟨entry', _, same⟩ := List.mem_map.mp other
    rw [String.append_assoc, String.append_assoc] at same
    exact append_ne_append apart.2 apart.1 _ _ same
  · intro path one other
    rcases List.mem_append.mp other with member | member
    · obtain ⟨entry, _, rfl⟩ := List.mem_map.mp member
      exact (elsewhere _ one).1 (directory_isPrefix_path _ _ _)
    · obtain ⟨entry, _, rfl⟩ := List.mem_map.mp member
      exact (elsewhere _ one).2 (directory_isPrefix_path _ _ _)

/-! ## The parts of a path -/

/-- Whether no part of a path in writing is empty or made of dots only. -/
def IsTidy (path : String) : Prop :=
  ∀ piece ∈ Text.splitOn '/' path.toList, piece ≠ [] ∧ piece ≠ ['.'] ∧ piece ≠ ['.', '.']

instance (path : String) : Decidable (IsTidy path) :=
  inferInstanceAs (Decidable (∀ piece ∈ Text.splitOn '/' path.toList,
    piece ≠ [] ∧ piece ≠ ['.'] ∧ piece ≠ ['.', '.']))

theorem partsOfString_eq_of_isTidy {path : String} (tidy : IsTidy path) :
    Path.partsOfString path = (Text.splitOn '/' path.toList).map String.ofList := by
  rw [Path.partsOfString, List.filter_eq_self]
  intro part member
  obtain ⟨piece, inPieces, rfl⟩ := List.mem_map.mp member
  obtain ⟨filled, single, _⟩ := tidy piece inPieces
  have empty : String.ofList piece ≠ "" :=
    fun same => filled (by simpa using congrArg String.toList same)
  have dot : String.ofList piece ≠ "." :=
    fun same => single (by simpa using congrArg String.toList same)
  simp [empty, dot]

/-- A tidy path never goes up. -/
theorem plain_partsOfString {path : String} (tidy : IsTidy path) :
    ".." ∉ Path.partsOfString path := by
  rw [partsOfString_eq_of_isTidy tidy]
  intro member
  obtain ⟨piece, inPieces, up⟩ := List.mem_map.mp member
  exact (tidy piece inPieces).2.2 (by simpa using congrArg String.toList up)

/-- Tidy paths are told apart by their parts. -/
theorem eq_of_partsOfString {left right : String} (tidy : IsTidy left) (tidy' : IsTidy right)
    (same : Path.partsOfString left = Path.partsOfString right) : left = right := by
  rw [partsOfString_eq_of_isTidy tidy, partsOfString_eq_of_isTidy tidy'] at same
  have pieces := List.map_injective_iff.mpr
    (fun one other equal => by simpa using congrArg String.toList equal) same
  have texts := congrArg (Text.joinWith ['/']) pieces
  rw [Text.joinWith_splitOn, Text.joinWith_splitOn] at texts
  exact String.toList_inj.mp texts

/-- The path of a file in one directory is tidy if its name is long enough. -/
theorem isTidy_path {directory suffix stem : String} (plainDirectory : '/' ∉ directory.toList)
    (plainSuffix : '/' ∉ suffix.toList) (long : 2 < directory.toList.length)
    (long' : 2 < suffix.toList.length) (chars : ∀ c ∈ stem.toList, Text.isStemChar c = true) :
    IsTidy (directory ++ "/" ++ stem ++ suffix) := by
  have slash : "/".toList = ['/'] := by decide
  have plainStem : '/' ∉ stem.toList := fun member => absurd (chars '/' member) (by decide)
  have pieces : Text.splitOn '/' (directory ++ "/" ++ stem ++ suffix).toList =
      [directory.toList, stem.toList ++ suffix.toList] := by
    simp only [String.toList_append, slash, List.append_assoc, List.cons_append, List.nil_append]
    rw [Text.splitOn_append_cons plainDirectory, Text.splitOn_of_absent]
    rw [List.mem_append, not_or]
    exact ⟨plainStem, plainSuffix⟩
  have tooLong : ∀ piece : List Char, 2 < piece.length →
      piece ≠ [] ∧ piece ≠ ['.'] ∧ piece ≠ ['.', '.'] := by
    intro piece length
    refine ⟨?_, ?_, ?_⟩ <;> rintro rfl <;> simp at length
  intro piece member
  rw [pieces] at member
  rcases List.mem_pair.mp member with rfl | rfl
  · exact tooLong _ long
  · exact tooLong _ (by rw [List.length_append]; omega)

end HomeCatalog.Bindings
