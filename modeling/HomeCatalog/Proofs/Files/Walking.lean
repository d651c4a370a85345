import HomeCatalog.Proofs.Files.Places

/-!
# Where paths lead

A walk that succeeds leads where the components of the path lead by their names alone, so the place
that a path names does not depend on what lies in the tree.  As long as the directories on the way
stay, every later walk leads there as well.
-/

namespace HomeCatalog.FileTree

variable {tree after : FileTree} {path : Path} {place origin target parent : List String}
  {name : String} {node : Node}

/-! ## Following names -/

theorem follow_append (place left right : List String) :
    follow place (left ++ right) = follow (follow place left) right := by
  rw [follow, follow, follow, List.foldl_append]

theorem follow_concat (place parts : List String) (name : String) (down : name ≠ "..") :
    follow place (parts ++ [name]) = follow place parts ++ [name] := by
  rw [follow_append]
  exact if_neg down

/-- Names that never go up lead below the place where they start. -/
theorem follow_of_plain (place : List String) {parts : List String} (plain : ".." ∉ parts) :
    follow place parts = place ++ parts := by
  induction parts using List.reverseRecOn with
  | nil => rw [List.append_nil]; rfl
  | append_singleton parts name ih =>
      rw [List.mem_append, List.mem_singleton, not_or] at plain
      rw [follow_concat place parts name (Ne.symm plain.2), ih plain.1, List.append_assoc]

/-- A name of the place to which names lead was there before, or is one of them that does not go
up. -/
theorem mem_place_or_parts_of_mem_follow {parts : List String}
    (member : name ∈ follow place parts) : name ∈ place ∨ name ∈ parts ∧ name ≠ ".." := by
  induction parts using List.reverseRecOn with
  | nil => exact Or.inl member
  | append_singleton parts last ih =>
      have earlier (inFront : name ∈ follow place parts) :
          name ∈ place ∨ name ∈ parts ++ [last] ∧ name ≠ ".." :=
        (ih inFront).imp_right fun ⟨listed, down⟩ => ⟨List.mem_append_left _ listed, down⟩
      by_cases up : last = ".."
      · have shorter : follow place (parts ++ [last]) = (follow place parts).dropLast := by
          rw [follow_append]
          exact if_pos up
        rw [shorter] at member
        exact earlier (List.mem_of_mem_dropLast member)
      · rw [follow_concat place parts last up] at member
        rcases List.mem_append.mp member with inFront | added
        · exact earlier inFront
        · rw [List.mem_singleton.mp added]
          exact Or.inr ⟨List.mem_concat_self, up⟩

/-- Two dots are never part of the place to which names lead. -/
theorem plain_follow (plain : ".." ∉ place) (parts : List String) : ".." ∉ follow place parts := by
  intro member
  rcases mem_place_or_parts_of_mem_follow member with there | ⟨_, down⟩
  · exact plain there
  · exact down rfl

theorem IsGrounded.plain_resolve (grounded : tree.IsGrounded) (path : Path) :
    ".." ∉ tree.resolve path := by
  apply plain_follow
  rw [start]
  split
  · exact grounded.isPlain
  · exact List.not_mem_nil

theorem start_eq_of_home (same : after.home = tree.home) (path : Path) :
    after.start path = tree.start path := by
  rw [start, start, same]

theorem resolve_eq_of_home (same : after.home = tree.home) (path : Path) :
    after.resolve path = tree.resolve path := by
  rw [resolve, resolve, start_eq_of_home same]

/-! ## Walking -/

/-- A walk along two lists of components is two walks. -/
theorem walk_append (tree : FileTree) (place left right : List String) :
    tree.walk place (left ++ right) =
      (tree.walk place left).bind fun middle => tree.walk middle right := by
  induction left generalizing place with
  | nil => rfl
  | cons part rest ih =>
      rw [List.cons_append, walk, walk]
      split
      · rfl
      · split
        · exact ih _
        · split
          · rfl
          · split
            · exact ih _
            · rfl

/-- A walk of at least one step succeeds if it goes up from a directory, or down from one to
something that is there, and the rest succeeds. -/
theorem walk_cons_eq_ok_iff {part : String} {rest : List String} :
    tree.walk origin (part :: rest) = .ok target ↔
      tree.isDirectoryAt origin = true ∧
        (part = ".." ∧ tree.walk origin.dropLast rest = .ok target ∨
          part ≠ ".." ∧ isNameTooLong part = false ∧
            (tree.node? (origin ++ [part])).isSome = true ∧
              tree.walk (origin ++ [part]) rest = .ok target) := by
  rw [walk]
  split_ifs with elsewhere up long
  · simp_all
  · simp_all
  · simp_all
  · cases there : tree.node? (origin ++ [part]) <;> simp_all

/-- A walk of one step into a directory. -/
theorem walk_child (isDirectory : tree.isDirectoryAt place = true) (down : name ≠ "..")
    (short : isNameTooLong name = false) (present : tree.node? (place ++ [name]) = some node) :
    tree.walk place [name] = .ok (place ++ [name]) := by
  apply walk_cons_eq_ok_iff.mpr
  exact ⟨isDirectory, Or.inr ⟨down, short, by rw [present]; rfl, rfl⟩⟩

/-- A walk that succeeds leads where the names lead. -/
theorem eq_follow_of_walk {parts : List String} (walked : tree.walk origin parts = .ok target) :
    target = follow origin parts := by
  induction parts generalizing origin with
  | nil =>
      cases walked
      rfl
  | cons part rest ih =>
      obtain ⟨_, ⟨up, walked⟩ | ⟨down, _, _, walked⟩⟩ := walk_cons_eq_ok_iff.mp walked
      · rw [ih walked, follow, follow, List.foldl_cons, if_pos up]
      · rw [ih walked, follow, follow, List.foldl_cons, if_neg down]

/-- A path at which something is found leads to its place. -/
theorem walk_and_node?_of_find (found : tree.find path = .ok node) :
    tree.walk (tree.start path) path.parts = .ok (tree.resolve path) ∧
      tree.node? (tree.resolve path) = some node := by
  obtain ⟨place, located, found⟩ := exists_of_bind_eq_ok found
  have walked : tree.walk (tree.start path) path.parts = .ok place := by
    rw [locate] at located
    split at located
    · cases located
    · exact located
  have reached : place = tree.resolve path := eq_follow_of_walk walked
  subst reached
  refine ⟨walked, ?_⟩
  split at found
  · next present =>
      cases found
      exact present
  · cases found

/-- Whether a place and all places above it are directories. -/
def IsAnchored (tree : FileTree) (place : List String) : Prop :=
  ∀ above, above <+: place → tree.isDirectoryAt above = true

theorem isAnchored_start (tree : FileTree) (path : Path) : tree.IsAnchored (tree.start path) := by
  intro above inside
  refine isDirectoryAt_iff.mpr (node?_of_above ?_)
  rw [start] at inside
  split at inside
  · exact inside
  · exact inside.trans List.nil_prefix

theorem IsAnchored.of_prefix (anchored : tree.IsAnchored place) (above : origin <+: place) :
    tree.IsAnchored origin :=
  fun _ inside => anchored _ (inside.trans above)

theorem IsAnchored.concat (anchored : tree.IsAnchored place)
    (isDirectory : tree.isDirectoryAt (place ++ [name]) = true) :
    tree.IsAnchored (place ++ [name]) := by
  intro above inside
  rcases List.prefix_concat_iff.mp inside with rfl | inside
  · exact isDirectory
  · exact anchored above inside

/-- Whether every directory that can be reached from the root stays a directory. -/
def KeepsDirectories (tree after : FileTree) : Prop :=
  ∀ place, tree.IsAnchored place → after.isDirectoryAt place = true

/-- A walk to a directory leads there as long as the directories stay. -/
theorem walk_of_keepsDirectories (keeps : tree.KeepsDirectories after) {parts : List String}
    (anchored : tree.IsAnchored origin) (walked : tree.walk origin parts = .ok target)
    (isDirectory : tree.isDirectoryAt target = true) :
    after.walk origin parts = .ok target ∧ tree.IsAnchored target := by
  induction parts generalizing origin with
  | nil =>
      cases walked
      exact ⟨rfl, anchored⟩
  | cons part rest ih =>
      obtain ⟨_, ⟨up, walked⟩ | ⟨down, short, _, walked⟩⟩ := walk_cons_eq_ok_iff.mp walked
      · obtain ⟨stays, reached⟩ := ih (anchored.of_prefix (List.dropLast_prefix origin)) walked
        exact ⟨walk_cons_eq_ok_iff.mpr ⟨keeps _ anchored, Or.inl ⟨up, stays⟩⟩, reached⟩
      · have onTheWay : tree.isDirectoryAt (origin ++ [part]) = true := by
          cases rest with
          | nil =>
              cases walked
              exact isDirectory
          | cons next rest => exact (walk_cons_eq_ok_iff.mp walked).1
        have next := anchored.concat onTheWay
        obtain ⟨stays, reached⟩ := ih next walked
        have present : (after.node? (origin ++ [part])).isSome = true := by
          rw [isDirectoryAt_iff.mp (keeps _ next)]
          rfl
        refine ⟨walk_cons_eq_ok_iff.mpr ⟨keeps _ anchored, Or.inr ⟨down, short, ?_⟩⟩, reached⟩
        exact ⟨present, stays⟩

/-- A directory to which a path leads lies below directories only. -/
theorem isAnchored_of_walk {parts : List String}
    (walked : tree.walk (tree.start path) parts = .ok target)
    (isDirectory : tree.isDirectoryAt target = true) : tree.IsAnchored target := by
  have keeps : tree.KeepsDirectories tree := fun place anchored => anchored place List.prefix_rfl
  exact (walk_of_keepsDirectories keeps (tree.isAnchored_start path) walked isDirectory).2

/-! ## Places of entries -/

theorem parts_eq_append (named : path.name? = some name) :
    path.parts = path.parts.dropLast ++ [name] :=
  (List.dropLast_append_getLast? name named).symm

/-- Whether a path names an entry in a directory that exists. -/
structure IsEntry (tree : FileTree) (path : Path) (parent : List String) (name : String) :
    Prop where
  isSound : pathRefusal? path = none
  isNamed : path.name? = some name
  isReached : tree.walk (tree.start path) path.parts.dropLast = .ok parent
  inDirectory : tree.isDirectoryAt parent = true
  isDown : name ≠ ".."
  isShort : isNameTooLong name = false

theorem isEntry_of_slot {occupied : Refusal} (found : tree.slot occupied path = .ok place) :
    ∃ parent name, tree.IsEntry path parent name ∧ place = parent ++ [name] := by
  rw [slot] at found
  split at found
  · cases found
  · next sound =>
      split at found
      · cases found
      · next name named =>
          obtain ⟨parent, walked, found⟩ := exists_of_bind_eq_ok found
          split_ifs at found with elsewhere up long
          cases found
          exact ⟨parent, name, ⟨sound, named, walked, by simpa using elsewhere, up,
            by simpa using long⟩, rfl⟩

namespace IsEntry

variable (entry : tree.IsEntry path parent name)
include entry

theorem parent_eq_follow : parent = follow (tree.start path) path.parts.dropLast :=
  eq_follow_of_walk entry.isReached

theorem resolve_eq : tree.resolve path = parent ++ [name] := by
  rw [resolve, parts_eq_append entry.isNamed, follow_concat _ _ _ entry.isDown,
    ← entry.parent_eq_follow]

theorem isAnchored : tree.IsAnchored parent :=
  isAnchored_of_walk entry.isReached entry.inDirectory

/-- What lies at the place of an entry is found at its path, also in a later tree. -/
theorem find (sameHome : after.home = tree.home) (keeps : tree.KeepsDirectories after)
    (present : after.node? (parent ++ [name]) = some node) : after.find path = .ok node := by
  have start := start_eq_of_home sameHome path
  have reached : after.walk (after.start path) path.parts.dropLast = .ok parent := by
    rw [start]
    exact (walk_of_keepsDirectories keeps (tree.isAnchored_start path) entry.isReached
      entry.inDirectory).1
  have walked : after.walk (after.start path) path.parts = .ok (parent ++ [name]) := by
    rw [parts_eq_append entry.isNamed, walk_append, reached]
    exact walk_child (keeps parent entry.isAnchored) entry.isDown entry.isShort present
  have located : after.locate path = .ok (parent ++ [name]) := by
    rw [locate, entry.isSound]
    exact walked
  rw [FileTree.find, located]
  simp [bind, Except.bind, present]

end IsEntry

/-- What is made at a path is new there. -/
theorem isEntry_of_create {made : FileTree} (success : tree.create path node = .ok (made, place)) :
    ∃ parent name, tree.IsEntry path parent name ∧ place = parent ++ [name] ∧
      tree.node? place = none ∧ made = tree.put place node := by
  obtain ⟨found, slot, success⟩ := exists_of_bind_eq_ok success
  obtain ⟨parent, name, entry, rfl⟩ := isEntry_of_slot slot
  split_ifs at success with taken
  cases success
  exact ⟨parent, name, entry, rfl, Option.not_isSome_iff_eq_none.mp taken, rfl⟩

end HomeCatalog.FileTree
