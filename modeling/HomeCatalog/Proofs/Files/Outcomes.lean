import HomeCatalog.Proofs.Files.Growth

/-!
# What an attempt to write may come to

An attempt first puts something at a spare place, a hidden name where nothing lay, and then moves it
to its target.  Whatever step is refused, the tree agrees with the one before everywhere but at
spare places; if none is, everywhere but there and at the target.
-/

namespace HomeCatalog.FileTree

variable {before after start tree : FileTree} {path : Path}
  {source target place draft directory : List String} {node : Node}
  {circumstances : Circumstances} {operation : Operation} {roots : List (List String)}

/-! ## Changes below some places -/

/-- Whether two trees agree everywhere but at some places and below. -/
structure AgreesOutside (before after : FileTree) (roots : List (List String)) : Prop where
  home : after.home = before.home
  node? : ∀ place, (∀ root ∈ roots, ¬ root <+: place) → after.node? place = before.node? place

theorem AgreesOutside.refl (tree : FileTree) (roots : List (List String)) :
    tree.AgreesOutside tree roots :=
  ⟨rfl, fun _ _ => rfl⟩

theorem AgreesOutside.trans {last : FileTree} (first : before.AgreesOutside after roots)
    (second : after.AgreesOutside last roots) : before.AgreesOutside last roots :=
  ⟨second.home.trans first.home,
    fun place outside => (second.node? place outside).trans (first.node? place outside)⟩

theorem AgreesOutside.mono {more : List (List String)} (agrees : before.AgreesOutside after roots)
    (included : roots ⊆ more) : before.AgreesOutside after more :=
  ⟨agrees.home, fun place outside =>
    agrees.node? place fun root member => outside root (included member)⟩

theorem agreesOutside_put (outside : ¬ place <+: tree.home)
    (below : ∃ root ∈ roots, root <+: place) : tree.AgreesOutside (tree.put place node) roots := by
  refine ⟨rfl, fun other apart => node?_put_of_ne outside node ?_⟩
  rintro rfl
  obtain ⟨root, member, inside⟩ := below
  exact apart root member inside

theorem agreesOutside_remove (outside : ¬ place <+: tree.home) (member : place ∈ roots) :
    tree.AgreesOutside (tree.remove place) roots := by
  refine ⟨rfl, fun other apart => ?_⟩
  rw [node?_remove outside, if_neg (apart place member)]

/-! ## Moving to a free place -/

theorem move_of_free (outside : ¬ source <+: tree.home) (present : tree.node? source = some node)
    (free : tree.node? target = none) :
    tree.move source target = .ok (tree.relocate source target node) := by
  have below : source.isPrefixOf tree.home = false := by
    rw [isPrefixOf_eq_decide, decide_eq_false outside]
  rw [move, present, free, below]
  rfl

/-- Whatever gives way to it, what is moved has moved to its target. -/
theorem eq_relocate_of_move (present : tree.node? source = some node)
    (success : tree.move source target = .ok after) :
    after = tree.relocate source target node := by
  rw [move, present] at success
  cases there : tree.node? target with
  | none =>
      rw [there] at success
      dsimp only at success
      split_ifs at success
      cases success
      rfl
  | some other =>
      rw [there] at success
      cases node <;> cases other <;> dsimp only at success
      · cases success
        rfl
      · cases success
      · cases success
      · split_ifs at success
        cases success
        rfl

theorem agreesOutside_relocate (sourceOutside : ¬ source <+: tree.home) :
    tree.AgreesOutside (tree.relocate source target node) [source, target] := by
  refine ⟨rfl, fun other apart => ?_⟩
  rw [node?_relocate_of_not_below sourceOutside (apart target (by simp)),
    if_neg (apart source (by simp))]

/-- A move leaves what is apart from its source and its target. -/
theorem node?_relocate_of_apart (node : Node) (outside : ¬ source <+: tree.home)
    (sourceApart : AreApart place source) (targetApart : AreApart place target)
    (rest : List String) :
    (tree.relocate source target node).node? (place ++ rest) = tree.node? (place ++ rest) := by
  have below := List.prefix_append place rest
  rw [node?_relocate_of_not_below outside (targetApart.not_below below),
    if_neg (sourceApart.not_below below)]

/-- Moving something to a free place and back changes nothing. -/
theorem agreesOutside_relocate_back (grounded : tree.IsGrounded)
    (sourceOutside : ¬ source <+: tree.home)
    (present : tree.node? source = some node) (free : tree.node? target = none) :
    tree.AgreesOutside
      ((tree.relocate source target node).relocate target source node) [] := by
  have targetOutside := not_above_of_node? free
  have moved : (tree.relocate source target node).node? target = some node := by
    have top := node?_relocate_append sourceOutside targetOutside present []
    rwa [List.append_nil, List.append_nil, present] at top
  refine ⟨rfl, fun other _ => ?_⟩
  by_cases below : source <+: other
  · obtain ⟨rest, rfl⟩ := below
    rw [node?_relocate_append (not_above_relocate targetOutside)
      (not_above_relocate sourceOutside) moved,
      node?_relocate_append sourceOutside targetOutside present]
  · rw [node?_relocate_of_not_below (not_above_relocate targetOutside) below]
    split
    · next inside => rw [grounded.node?_eq_none_of_below free inside]
    · next outside =>
        rw [node?_relocate_of_not_below sourceOutside outside, if_neg below]

/-- Moving something away leaves a free place. -/
theorem node?_relocate_self (node : Node) (outside : ¬ source <+: tree.home)
    (apart : AreApart source target) :
    (tree.relocate source target node).node? source = none := by
  rw [node?_relocate_of_not_below outside apart.2, if_pos List.prefix_rfl]

theorem node?_relocate_target (outside : ¬ source <+: tree.home)
    (targetOutside : ¬ target <+: tree.home) (present : tree.node? source = some node) :
    (tree.relocate source target node).node? target = some node := by
  have top := node?_relocate_append outside targetOutside present []
  rwa [List.append_nil, List.append_nil, present] at top

/-- Something that is made at a free place and removed again leaves no trace. -/
theorem agreesOutside_remove_put (grounded : tree.IsGrounded) (free : tree.node? place = none)
    (node : Node) : tree.AgreesOutside ((tree.put place node).remove place) [] := by
  have outside := not_above_of_node? free
  refine ⟨rfl, fun other _ => ?_⟩
  rw [node?_remove (not_above_put outside)]
  split
  · next below => rw [grounded.node?_eq_none_of_below free below]
  · next notBelow =>
      exact node?_put_of_ne outside node fun same => notBelow (same ▸ List.prefix_rfl)

/-- A draft that was moved in is gone from where it was made. -/
theorem agreesOutside_moveIn (grounded : start.IsGrounded) (free : start.node? draft = none)
    (agrees : start.AgreesOutside tree (draft :: roots)) :
    start.AgreesOutside (tree.relocate draft target node) (target :: roots) := by
  have outside : ¬ draft <+: tree.home := by
    rw [agrees.home]
    exact not_above_of_node? free
  refine ⟨agrees.home, fun place apart => ?_⟩
  rw [node?_relocate_of_not_below outside (apart target List.mem_cons_self)]
  split
  · next below => rw [grounded.node?_eq_none_of_below free below]
  · next notBelow =>
      refine agrees.node? place fun root member => ?_
      rcases List.mem_cons.mp member with rfl | member
      · exact notBelow
      · exact apart root (List.mem_cons_of_mem target member)

/-! ## Spare places -/

/-- Whether a place is that of a hidden entry in a directory where nothing lies. -/
def IsSpare (tree : FileTree) (directory place : List String) : Prop :=
  tree.node? place = none ∧ ∃ name, IsHiddenName name ∧ place = directory ++ [name]

/-- A place is as it was, or new and hidden, if a tree has changed below spare places only. -/
theorem AgreesOutside.growsAt {roots : List (List String)} (grounded : before.IsGrounded)
    (agrees : before.AgreesOutside after roots)
    (spare : ∀ root ∈ roots, root <+: place → before.IsSpare directory root) :
    before.GrowsAt after (fun place _ => IsHiddenIn directory place) place := by
  by_cases below : ∃ root ∈ roots, root <+: place
  · obtain ⟨root, member, inside⟩ := below
    obtain ⟨free, name, hidden, rfl⟩ := spare root member inside
    have nothing := grounded.node?_eq_none_of_below free inside
    obtain ⟨rest, rfl⟩ := inside
    cases present : after.node? (directory ++ [name] ++ rest) with
    | none => exact Or.inl (present.trans nothing.symm)
    | some node =>
        refine Or.inr ⟨nothing, node, present, name, rest, hidden, ?_⟩
        rw [List.append_assoc]
        rfl
  · exact Or.inl (agrees.node? place fun root member inside => below ⟨root, member, inside⟩)

/-! ## Steps and what follows them -/

namespace Change

variable {motive : Change → Prop} {result : Except Refusal FileTree}

/-- A change by one step is the result of the step, or nothing. -/
theorem tree_ofStep (tree : FileTree) (path : Path) (result : Except Refusal FileTree) :
    (Change.ofStep tree path result).tree = tree ∨
      result = .ok (Change.ofStep tree path result).tree := by
  cases result with
  | ok changed => exact Or.inr rfl
  | error refusal => exact Or.inl rfl

theorem eq_ok_of_ofStep
    (done : (Change.ofStep tree path result).error = none) :
    result = .ok (Change.ofStep tree path result).tree := by
  cases result with
  | ok changed => rfl
  | error refusal => cases done

/-- A step and what follows come to what they come to if the step is refused or else done. -/
theorem next_ofStep_cases {step : FileTree → Change}
    (refused : ∀ error, motive ⟨tree, some error⟩)
    (done : ∀ changed, result = .ok changed → motive (step changed)) :
    motive ((Change.ofStep tree path result).next step) := by
  cases result with
  | ok changed => exact done changed rfl
  | error refusal => exact refused _

theorem recover_ofStep_cases {cleanUp : FileTree → FileError → Change}
    (refused : ∀ error, motive (cleanUp tree error))
    (done : ∀ changed, result = .ok changed → motive ⟨changed, none⟩) :
    motive ((Change.ofStep tree path result).recover cleanUp) := by
  cases result with
  | ok changed => exact done changed rfl
  | error refusal => exact refused _

end Change

/-- Opening a draft to others leaves a tree as it is. -/
theorem exists_share_eq (circumstances : Circumstances) (tree : FileTree) (path : Path) :
    ∃ error, tree.share circumstances path = ⟨tree, error⟩ := by
  rw [share]
  cases shared : circumstances.attempt .shareDraft (.ok tree) with
  | ok same =>
      cases eq_ok_of_attempt shared
      exact ⟨none, rfl⟩
  | error refusal => exact ⟨some ⟨refusal, path⟩, rfl⟩

/-! ## Outcomes -/

/-- What an attempt to write something to a target, by way of a directory, may come to. -/
inductive IsOutcome (start : FileTree) (directory target : List String)
    (holds : FileTree → Prop) : Change → Prop where
  /-- The target holds what was written, and what else is new lies at spare places. -/
  | done {tree : FileTree} (roots : List (List String)) (grounded : tree.IsGrounded)
      (written : holds tree) (spare : ∀ root ∈ roots, start.IsSpare directory root)
      (agrees : start.AgreesOutside tree (target :: roots)) :
      IsOutcome start directory target holds ⟨tree, none⟩
  /-- All that is new lies at spare places. -/
  | refused {tree : FileTree} {error : FileError} (roots : List (List String))
      (grounded : tree.IsGrounded) (spare : ∀ root ∈ roots, start.IsSpare directory root)
      (agrees : start.AgreesOutside tree roots) :
      IsOutcome start directory target holds ⟨tree, some error⟩

variable {holds : FileTree → Prop}

namespace IsOutcome

/-- A tree that has not changed is what an attempt may come to that was refused. -/
theorem unchanged (grounded : tree.IsGrounded) (error : FileError) :
    IsOutcome tree directory target holds ⟨tree, some error⟩ :=
  .refused [] grounded (fun _ member => absurd member List.not_mem_nil)
    (AgreesOutside.refl tree [])

variable {change : Change} (outcome : IsOutcome start directory target holds change)
include outcome

theorem isGrounded : change.tree.IsGrounded := by
  cases outcome with
  | done _ grounded => exact grounded
  | refused _ grounded => exact grounded

theorem home : change.tree.home = start.home := by
  cases outcome with
  | done _ _ _ _ agrees => exact agrees.home
  | refused _ _ _ agrees => exact agrees.home

theorem holds_of_accepted (accepted : change.error = none) : holds change.tree := by
  cases outcome with
  | done _ _ written => exact written
  | refused => cases accepted

/-- Everywhere but below a target that was written only what is hidden is new. -/
theorem growsAt (groundedStart : start.IsGrounded)
    (notBelow : change.error = none → ¬ target <+: place) :
    start.GrowsAt change.tree (fun place _ => IsHiddenIn directory place) place := by
  cases outcome with
  | done _ _ _ spare agrees =>
      refine agrees.growsAt groundedStart fun root member inside => ?_
      rcases List.mem_cons.mp member with rfl | member
      · exact absurd inside (notBelow rfl)
      · exact spare root member
  | refused _ _ spare agrees =>
      exact agrees.growsAt groundedStart fun root member _ => spare root member

end IsOutcome

/-! ## Drafts at spare places -/

/-- What is known of a tree with a draft at a place of a directory that was spare. -/
structure IsStaged (start tree : FileTree) (directory draft : List String) : Prop where
  isGroundedStart : start.IsGrounded
  grounded : tree.IsGrounded
  isSpare : start.IsSpare directory draft
  agrees : start.AgreesOutside tree [draft]

section

variable (staged : IsStaged start tree directory draft)
include staged

theorem IsStaged.outside : ¬ draft <+: tree.home := by
  rw [staged.agrees.home]
  exact not_above_of_node? staged.isSpare.1

theorem IsStaged.isSpare_of_mem : ∀ root ∈ [draft], start.IsSpare directory root := by
  intro root member
  rw [List.mem_singleton.mp member]
  exact staged.isSpare

/-- A draft that is not moved to its target stays at its spare place. -/
theorem IsStaged.isOutcome_refused (error : FileError) :
    IsOutcome start directory target holds ⟨tree, some error⟩ :=
  .refused [draft] staged.grounded staged.isSpare_of_mem staged.agrees

/-- A draft may be removed instead. -/
theorem IsStaged.isOutcome_remove (error : FileError) :
    IsOutcome start directory target holds ⟨tree.remove draft, some error⟩ :=
  .refused [draft] (staged.grounded.remove staged.outside) staged.isSpare_of_mem
    (staged.agrees.trans (agreesOutside_remove staged.outside (List.mem_singleton.mpr rfl)))

/-- Discarding a draft removes it, or lets it lie. -/
theorem IsStaged.isOutcome_discard (error : FileError) :
    IsOutcome start directory target holds
      ⟨tree.discard circumstances operation draft, some error⟩ := by
  rw [discard]
  split
  · exact staged.isOutcome_remove error
  · exact staged.isOutcome_refused error

end

/-- What was just made under a hidden name is a draft. -/
theorem isStaged_put {hiddenName : String} (grounded : tree.IsGrounded)
    (inDirectory : tree.isDirectoryAt directory = true)
    (free : tree.node? (directory ++ [hiddenName]) = none) (hidden : IsHiddenName hiddenName)
    (node : Node) :
    IsStaged tree (tree.put (directory ++ [hiddenName]) node) directory
      (directory ++ [hiddenName]) :=
  ⟨grounded, grounded.put inDirectory (isDirectoryAt_eq_false_of_node? free) node,
    ⟨free, hiddenName, hidden, rfl⟩, agreesOutside_put (not_above_of_node? free)
      ⟨_, List.mem_singleton.mpr rfl, List.prefix_rfl⟩⟩

end HomeCatalog.FileTree
