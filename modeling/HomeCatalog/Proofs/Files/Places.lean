import HomeCatalog.Files.Update
import HomeCatalog.Proofs.Entries
import Mathlib.Data.List.Infix
import Mathlib.Tactic.SplitIfs

/-!
# What lies at a place

Putting, removing and moving are described by what lies at each place afterwards.  A tree is
grounded if everything in it lies in a directory; then nothing lies below a place that is free, and
what a move brings to its target is what lay below its source.
-/

namespace HomeCatalog

/-- A computation in two steps succeeds only if both do. -/
theorem exists_of_bind_eq_ok {ε α β : Type} {first : Except ε α} {next : α → Except ε β}
    {result : β} (success : (first >>= next) = .ok result) :
    ∃ value, first = .ok value ∧ next value = .ok result := by
  cases first with
  | error problem => cases success
  | ok value => exact ⟨value, rfl, success⟩

namespace FileTree

variable {tree : FileTree} {place other source target : List String} {node : Node}

theorem isDirectoryAt_iff :
    tree.isDirectoryAt place = true ↔ tree.node? place = some .directory := by
  rw [isDirectoryAt, beq_iff_eq]

/-! ## Looking up -/

/-- The working directory and those above it are directories. -/
theorem node?_of_above (above : place <+: tree.home) : tree.node? place = some .directory := by
  rw [node?, if_pos (List.isPrefixOf_iff_prefix.mpr above)]

theorem node?_of_not_above (outside : ¬ place <+: tree.home) :
    tree.node? place = tree.nodes.lookup place := by
  rw [node?, if_neg (mt List.isPrefixOf_iff_prefix.mp outside)]

theorem not_above_of_isDirectoryAt_eq_false (noDirectory : tree.isDirectoryAt place = false) :
    ¬ place <+: tree.home := by
  intro above
  rw [isDirectoryAt_iff.mpr (node?_of_above above)] at noDirectory
  cases noDirectory

theorem isDirectoryAt_eq_false_of_node? (free : tree.node? place = none) :
    tree.isDirectoryAt place = false := by
  rw [isDirectoryAt, free]
  rfl

theorem not_above_of_node? (free : tree.node? place = none) : ¬ place <+: tree.home :=
  not_above_of_isDirectoryAt_eq_false (isDirectoryAt_eq_false_of_node? free)

theorem not_above_append (outside : ¬ place <+: tree.home) (rest : List String) :
    ¬ place ++ rest <+: tree.home :=
  fun above => outside ((List.prefix_append place rest).trans above)

theorem isPrefixOf_eq_decide (place other : List String) :
    place.isPrefixOf other = decide (place <+: other) := by
  rw [Bool.eq_iff_iff, List.isPrefixOf_iff_prefix, decide_eq_true_iff]

/-! ## Putting and removing -/

@[simp]
theorem home_put (tree : FileTree) (place : List String) (node : Node) :
    (tree.put place node).home = tree.home := rfl

theorem not_above_put (outside : ¬ place <+: tree.home) :
    ¬ place <+: (tree.put other node).home := outside

theorem not_above_remove (outside : ¬ place <+: tree.home) :
    ¬ place <+: (tree.remove other).home := outside

theorem node?_put (outside : ¬ place <+: tree.home) (node : Node) (other : List String) :
    (tree.put place node).node? other = if other = place then some node else tree.node? other := by
  by_cases above : other <+: tree.home
  · have apart : other ≠ place := fun same => outside (same ▸ above)
    rw [if_neg apart, node?_of_above above, node?_of_above (by exact above)]
  · rw [node?_of_not_above (not_above_put above), node?_of_not_above above, put, Entries.lookup_put]
    simp only [beq_iff_eq]

theorem node?_put_self (outside : ¬ place <+: tree.home) (node : Node) :
    (tree.put place node).node? place = some node := by
  rw [node?_put outside, if_pos rfl]

theorem node?_put_of_ne (outside : ¬ place <+: tree.home) (node : Node) (apart : other ≠ place) :
    (tree.put place node).node? other = tree.node? other := by
  rw [node?_put outside, if_neg apart]

theorem node?_remove (outside : ¬ place <+: tree.home) (other : List String) :
    (tree.remove place).node? other = if place <+: other then none else tree.node? other := by
  by_cases above : other <+: tree.home
  · have apart : ¬ place <+: other := fun below => outside (below.trans above)
    rw [if_neg apart, node?_of_above above, node?_of_above (by exact above)]
  · rw [node?_of_not_above (not_above_remove above), node?_of_not_above above, remove,
      Entries.lookup_filter fun key => !place.isPrefixOf key, isPrefixOf_eq_decide]
    by_cases below : place <+: other <;> simp [below]

/-! ## Moving -/

/-- What lies below a place, by the rest of the way. -/
theorem lookup_below (tree : FileTree) (place rest : List String) :
    (tree.below place).lookup rest = tree.nodes.lookup (place ++ rest) := by
  rw [below]
  induction tree.nodes with
  | nil => rfl
  | cons head nodes ih =>
      obtain ⟨key, value⟩ := head
      cases stripped : place.isPrefixOf? key with
      | none =>
          have apart : (place ++ rest == key) = false := by
            rw [beq_eq_false_iff_ne]
            intro same
            rw [List.isPrefixOf?_eq_some_iff_append_eq.mpr same] at stripped
            cases stripped
          simp [stripped, List.lookup_cons, apart, ih]
      | some found =>
          have split := List.isPrefixOf?_eq_some_iff_append_eq.mp stripped
          subst split
          by_cases same : rest = found
          · subst same
            simp
          · have apart : (rest == found) = false := beq_eq_false_iff_ne.mpr same
            have apart' : (place ++ rest == place ++ found) = false := by
              rw [beq_eq_false_iff_ne]
              exact fun equal => same (List.append_cancel_left equal)
            simp [List.lookup_cons, apart, apart', ih]

theorem lookup_map_append (target rest : List String) (table : List (List String × Node)) :
    (table.map fun entry => (target ++ entry.1, entry.2)).lookup (target ++ rest) =
      table.lookup rest := by
  induction table with
  | nil => rfl
  | cons head table ih =>
      rw [List.map_cons, List.lookup_cons, List.lookup_cons, ih]
      by_cases same : rest = head.1
      · simp [same]
      · have apart : target ++ rest ≠ target ++ head.1 :=
          fun equal => same (List.append_cancel_left equal)
        rw [beq_eq_false_iff_ne.mpr same, beq_eq_false_iff_ne.mpr apart]

theorem lookup_map_append_eq_none (apart : ¬ target <+: other)
    (table : List (List String × Node)) :
    (table.map fun entry => (target ++ entry.1, entry.2)).lookup other = none := by
  rw [List.lookup_eq_none_iff]
  intro entry member
  obtain ⟨origin, _, rfl⟩ := List.mem_map.mp member
  rw [bne_iff_ne]
  intro same
  exact apart (same ▸ List.prefix_append target origin.1)

/-- What a tree keeps in its place when something moves. -/
theorem lookup_kept (tree : FileTree) (source target other : List String) :
    (tree.nodes.filter fun entry =>
        !source.isPrefixOf entry.1 && !target.isPrefixOf entry.1).lookup other =
      if source <+: other ∨ target <+: other then none else tree.nodes.lookup other := by
  rw [Entries.lookup_filter fun key => !source.isPrefixOf key && !target.isPrefixOf key,
    isPrefixOf_eq_decide, isPrefixOf_eq_decide]
  by_cases moved : source <+: other <;> by_cases replaced : target <+: other <;>
    simp [moved, replaced]

@[simp]
theorem home_relocate (tree : FileTree) (source target : List String) (node : Node) :
    (tree.relocate source target node).home = tree.home := rfl

theorem not_above_relocate (outside : ¬ place <+: tree.home) :
    ¬ place <+: (tree.relocate source target node).home := outside

/-- What lay at a place and below lies at the target of its move and below. -/
theorem node?_relocate_append (sourceOutside : ¬ source <+: tree.home)
    (targetOutside : ¬ target <+: tree.home) (present : tree.node? source = some node)
    (rest : List String) :
    (tree.relocate source target node).node? (target ++ rest) = tree.node? (source ++ rest) := by
  rw [node?_of_not_above (not_above_relocate (not_above_append targetOutside rest)), relocate,
    List.lookup_append, lookup_kept,
    if_pos (Or.inr (List.prefix_append target rest)), Option.none_or, List.lookup_cons]
  cases rest with
  | nil => simp [present]
  | cons name rest =>
      have apart : (target ++ name :: rest == target) = false := by
        rw [beq_eq_false_iff_ne]
        simp
      rw [node?_of_not_above (not_above_append sourceOutside _), ← lookup_below, apart]
      dsimp only
      rw [lookup_map_append, Entries.lookup_filter fun key : List String => !key.isEmpty]
      rfl

/-- Everywhere else a move only takes away what moves. -/
theorem node?_relocate_of_not_below (sourceOutside : ¬ source <+: tree.home)
    (apart : ¬ target <+: other) :
    (tree.relocate source target node).node? other =
      if source <+: other then none else tree.node? other := by
  by_cases above : other <+: tree.home
  · have stays : ¬ source <+: other := fun below => sourceOutside (below.trans above)
    rw [if_neg stays, node?_of_above above, node?_of_above (by exact above)]
  · have elsewhere : (other == target) = false := by
      rw [beq_eq_false_iff_ne]
      exact fun same => apart (same ▸ List.prefix_rfl)
    rw [node?_of_not_above (not_above_relocate above), relocate, List.lookup_append, lookup_kept,
      List.lookup_cons, elsewhere, lookup_map_append_eq_none apart, Option.or_none,
      node?_of_not_above above]
    simp only [apart, or_false]

/-! ## Grounded trees -/

/-- Whether everything in a tree lies in a directory, and the working directory can be reached. -/
structure IsGrounded (tree : FileTree) : Prop where
  isPlain : ".." ∉ tree.home
  isDirectoryAt : ∀ place name, (tree.node? (place ++ [name])).isSome = true →
    tree.isDirectoryAt place = true

theorem isGrounded_empty {home : List String} (isPlain : ".." ∉ home) :
    (FileTree.empty home).IsGrounded := by
  refine ⟨isPlain, fun place name present => isDirectoryAt_iff.mpr ?_⟩
  by_cases above : place ++ [name] <+: home
  · exact node?_of_above ((List.prefix_append place [name]).trans above)
  · rw [node?_of_not_above (by exact above)] at present
    cases present

/-- Everything lies below directories only. -/
theorem IsGrounded.isDirectoryAt_of_below (grounded : tree.IsGrounded) {rest : List String}
    (proper : rest ≠ []) (present : (tree.node? (place ++ rest)).isSome = true) :
    tree.isDirectoryAt place = true := by
  induction rest using List.reverseRecOn with
  | nil => exact absurd rfl proper
  | append_singleton rest name ih =>
      rw [← List.append_assoc] at present
      have directory := grounded.isDirectoryAt _ _ present
      by_cases last : rest = []
      · rw [last, List.append_nil] at directory
        exact directory
      · exact ih last (by rw [isDirectoryAt_iff.mp directory]; rfl)

/-- What is above a directory is one as well. -/
theorem IsGrounded.isDirectoryAt_of_above (grounded : tree.IsGrounded)
    (isDirectory : tree.isDirectoryAt other = true) (above : place <+: other) :
    tree.isDirectoryAt place = true := by
  obtain ⟨rest, rfl⟩ := above
  by_cases last : rest = []
  · rw [last, List.append_nil] at isDirectory
    exact isDirectory
  · exact grounded.isDirectoryAt_of_below last (by rw [isDirectoryAt_iff.mp isDirectory]; rfl)

/-- Nothing lies below a file or a free place. -/
theorem IsGrounded.node?_append_eq_none (grounded : tree.IsGrounded)
    (noDirectory : tree.isDirectoryAt place = false) {rest : List String} (proper : rest ≠ []) :
    tree.node? (place ++ rest) = none := by
  by_contra present
  have directory := grounded.isDirectoryAt_of_below proper
    (Option.isSome_iff_ne_none.mpr present)
  rw [noDirectory] at directory
  cases directory

/-- Nothing lies at a free place or below. -/
theorem IsGrounded.node?_eq_none_of_below (grounded : tree.IsGrounded)
    (free : tree.node? place = none) (below : place <+: other) : tree.node? other = none := by
  obtain ⟨rest, rfl⟩ := below
  by_cases last : rest = []
  · rw [last, List.append_nil, free]
  · exact grounded.node?_append_eq_none (isDirectoryAt_eq_false_of_node? free) last

variable {directory : List String} {name oldName newName : String}

/-- Putting something into a directory keeps a tree grounded, unless a file takes the place of a
directory. -/
theorem IsGrounded.put (grounded : tree.IsGrounded)
    (inDirectory : tree.isDirectoryAt directory = true)
    (noDirectory : tree.isDirectoryAt (directory ++ [name]) = false) (node : Node) :
    (tree.put (directory ++ [name]) node).IsGrounded := by
  have outside := not_above_of_isDirectoryAt_eq_false noDirectory
  refine ⟨grounded.isPlain, fun place last present => ?_⟩
  have stays : tree.isDirectoryAt place = true := by
    rw [node?_put outside] at present
    split at present
    · next same =>
        rw [(List.append_inj' same rfl).1]
        exact inDirectory
    · exact grounded.isDirectoryAt place last present
  have apart : place ≠ directory ++ [name] := by
    rintro rfl
    rw [stays] at noDirectory
    cases noDirectory
  rw [isDirectoryAt_iff, node?_put_of_ne outside node apart]
  exact isDirectoryAt_iff.mp stays

/-- Removing something with all that lies below keeps a tree grounded. -/
theorem IsGrounded.remove (grounded : tree.IsGrounded) (outside : ¬ place <+: tree.home) :
    (tree.remove place).IsGrounded := by
  refine ⟨grounded.isPlain, fun parent last present => ?_⟩
  rw [node?_remove outside] at present
  split at present
  · cases present
  · next stays =>
      have parentStays : ¬ place <+: parent :=
        fun below => stays (below.trans (List.prefix_append parent [last]))
      rw [isDirectoryAt_iff, node?_remove outside, if_neg parentStays]
      exact isDirectoryAt_iff.mp (grounded.isDirectoryAt parent last present)

/-- Whether neither of two places lies below the other. -/
def AreApart (left right : List String) : Prop :=
  ¬ left <+: right ∧ ¬ right <+: left

theorem AreApart.symm {left right : List String} (apart : AreApart left right) :
    AreApart right left :=
  ⟨apart.2, apart.1⟩

/-- Nothing lies below two places that are apart. -/
theorem AreApart.not_below {left right : List String} (apart : AreApart left right)
    (below : left <+: other) : ¬ right <+: other := by
  intro belowToo
  rcases List.prefix_or_prefix_of_prefix below belowToo with inside | inside
  · exact apart.1 inside
  · exact apart.2 inside

/-- Two entries of one directory are apart. -/
theorem areApart_of_ne (directory : List String) (different : oldName ≠ newName) :
    AreApart (directory ++ [oldName]) (directory ++ [newName]) := by
  constructor
  · rw [List.prefix_append_right_inj, List.cons_prefix_cons]
    exact fun below => different below.1
  · rw [List.prefix_append_right_inj, List.cons_prefix_cons]
    exact fun below => different below.1.symm

theorem not_below_parent (directory : List String) (name : String) :
    ¬ directory ++ [name] <+: directory := by
  intro below
  have length := below.length_le
  rw [List.length_append, List.length_singleton] at length
  omega

/-- Moving something within a directory keeps a tree grounded. -/
theorem IsGrounded.relocate (grounded : tree.IsGrounded)
    (sourceOutside : ¬ directory ++ [oldName] <+: tree.home)
    (targetOutside : ¬ directory ++ [newName] <+: tree.home)
    (present : tree.node? (directory ++ [oldName]) = some node) :
    (tree.relocate (directory ++ [oldName]) (directory ++ [newName]) node).IsGrounded := by
  have inDirectory : tree.isDirectoryAt directory = true :=
    grounded.isDirectoryAt directory oldName (by rw [present]; rfl)
  refine ⟨grounded.isPlain, fun parent last found => isDirectoryAt_iff.mpr ?_⟩
  by_cases moved : directory ++ [newName] <+: parent
  · obtain ⟨rest, rfl⟩ := moved
    rw [List.append_assoc, node?_relocate_append sourceOutside targetOutside present,
      ← List.append_assoc] at found
    rw [node?_relocate_append sourceOutside targetOutside present]
    exact isDirectoryAt_iff.mp (grounded.isDirectoryAt _ last found)
  · rw [node?_relocate_of_not_below sourceOutside moved]
    by_cases top : directory ++ [newName] <+: parent ++ [last]
    · have same : directory = parent := by
        rcases List.prefix_concat_iff.mp top with equal | below
        · exact (List.append_inj' equal rfl).1
        · exact absurd below moved
      rw [← same, if_neg (not_below_parent directory oldName)]
      exact isDirectoryAt_iff.mp inDirectory
    · rw [node?_relocate_of_not_below sourceOutside top] at found
      split at found
      · cases found
      · next stays =>
          have parentStays : ¬ directory ++ [oldName] <+: parent :=
            fun below => stays (below.trans (List.prefix_append parent [last]))
          rw [if_neg parentStays]
          exact isDirectoryAt_iff.mp (grounded.isDirectoryAt parent last found)

end FileTree

end HomeCatalog
