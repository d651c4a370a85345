import HomeCatalog.Proofs.Files.Drafts

/-!
# Replacing a directory

A replacement that is not refused leaves exactly the given files.  If one of its steps is refused, a
directory that is to be replaced stays with all that it holds, and what is new lies under hidden
names beside it.  The one exception is a file system that has let the directory go and then lets
neither its successor in nor the directory itself back: then all that it holds lies under one of
the hidden names.
-/

namespace HomeCatalog

/-- Whether a file system that does not let a draft take its place lets back what lay there. -/
def Circumstances.GivesBack (circumstances : Circumstances) : Prop :=
  circumstances.refusal? .moveIn ≠ none → circumstances.refusal? .moveBack = none

instance (circumstances : Circumstances) : Decidable circumstances.GivesBack :=
  inferInstanceAs (Decidable (_ → _))

namespace FileTree

variable {after start tree : FileTree} {place directory draft backup : List String}
  {hiddenName name : String} {node : Node} {path : Path} {files : List (String × String)}
  {circumstances : Circumstances}

/-! ## Installing a draft -/

/-- What is left of an entry of a directory that could not be moved back: all that lay there lies at
a spare place instead, and what else is new lies at spare places. -/
structure IsStranded (start after : FileTree) (directory : List String) (name : String) : Prop where
  grounded : after.IsGrounded
  present : (start.node? (directory ++ [name])).isSome = true
  free : after.node? (directory ++ [name]) = none
  kept : ∃ backup, start.IsSpare directory backup ∧
    ∀ rest, after.node? (backup ++ rest) = start.node? (directory ++ [name] ++ rest)
  agrees : ∃ roots, (∀ root ∈ roots, start.IsSpare directory root) ∧
    start.AgreesOutside after ((directory ++ [name]) :: roots)

/-- What an attempt to replace an entry of a directory by some files may come to. -/
inductive Replaces (circumstances : Circumstances) (start : FileTree) (directory : List String)
    (name : String) (files : List (String × String)) : Change → Prop where
  | settled {change : Change}
      (outcome : IsOutcome start directory (directory ++ [name])
        (fun tree => tree.HoldsExactly (directory ++ [name]) files) change) :
      Replaces circumstances start directory name files change
  /-- The file system lets neither the draft in nor back what lay there. -/
  | stranded {tree : FileTree} {error : FileError} (stuck : ¬ circumstances.GivesBack)
      (stranded : IsStranded start tree directory name) :
      Replaces circumstances start directory name files ⟨tree, some error⟩

/-- Everywhere but below an entry that could not be moved back only what is hidden is new. -/
theorem IsStranded.growsAt (stranded : IsStranded start after directory name)
    (grounded : start.IsGrounded) (notBelow : ¬ directory ++ [name] <+: place) :
    start.GrowsAt after (fun place _ => IsHiddenIn directory place) place := by
  obtain ⟨roots, spare, agrees⟩ := stranded.agrees
  refine agrees.growsAt grounded fun root member inside => ?_
  rcases List.mem_cons.mp member with rfl | member
  · exact absurd inside notBelow
  · exact spare root member

namespace Replaces

variable {change : Change} (replaces : Replaces circumstances start directory name files change)
include replaces

theorem isGrounded : change.tree.IsGrounded := by
  cases replaces with
  | settled outcome => exact outcome.isGrounded
  | stranded _ stranded => exact stranded.grounded

theorem home : change.tree.home = start.home := by
  cases replaces with
  | settled outcome => exact outcome.home
  | stranded _ stranded =>
      obtain ⟨_, _, agrees⟩ := stranded.agrees
      exact agrees.home

theorem holds_of_accepted (accepted : change.error = none) :
    change.tree.HoldsExactly (directory ++ [name]) files := by
  cases replaces with
  | settled outcome => exact outcome.holds_of_accepted accepted
  | stranded => cases accepted

end Replaces

/-- What is known of a tree while a draft that was filled waits to be installed. -/
structure IsReady (start tree : FileTree) (directory draft : List String)
    (files : List (String × String)) : Prop extends IsStaged start tree directory draft where
  isDirectory : tree.isDirectoryAt draft = true
  holds : tree.HoldsExactly draft files

/-- What is known of a tree is known of one with the same content. -/
theorem IsReady.of_agrees (ready : IsReady start tree directory draft files)
    (agrees : tree.AgreesOutside after []) (grounded : after.IsGrounded) :
    IsReady start after directory draft files := by
  have same : ∀ place, after.node? place = tree.node? place :=
    fun place => agrees.node? place fun _ member => absurd member List.not_mem_nil
  refine ⟨⟨ready.isGroundedStart, grounded, ready.isSpare,
    ready.agrees.trans (agrees.mono (List.nil_subset _))⟩, ?_, ready.holds.of_eq fun _ => same _⟩
  rw [isDirectoryAt_iff, same]
  exact isDirectoryAt_iff.mp ready.isDirectory

/-- Installing a draft at a place where nothing was found.  Should something lie there all the same,
it gives way, or the draft is not moved. -/
theorem IsReady.replaces_installFresh
    (ready : IsReady start tree directory (directory ++ [hiddenName]) files)
    (targetOutside : ¬ directory ++ [name] <+: tree.home) :
    Replaces circumstances start directory name files
      (tree.installFresh circumstances (directory ++ [hiddenName]) (directory ++ [name]) path) := by
  have outside := ready.outside
  have draft := isDirectoryAt_iff.mp ready.isDirectory
  rw [installFresh]
  refine .settled (Change.recover_ofStep_cases
    (fun error => ready.isOutcome_discard error) fun changed success => ?_)
  obtain rfl := eq_relocate_of_move draft (eq_ok_of_attempt success)
  refine .done [] (ready.grounded.relocate outside targetOutside draft)
    (ready.holds.of_eq (node?_relocate_append outside targetOutside draft))
    (fun _ member => absurd member List.not_mem_nil)
    (agreesOutside_moveIn ready.isGroundedStart ready.isSpare.1 ready.agrees)

/-- What was replaced is removed, or stays at its spare place. -/
theorem replaces_discardReplaced (grounded : tree.IsGrounded)
    (holds : tree.HoldsExactly (directory ++ [name]) files)
    (apart : AreApart backup (directory ++ [name]))
    (outside : ¬ backup <+: tree.home) (spare : start.IsSpare directory backup)
    (agrees : start.AgreesOutside tree [directory ++ [name], backup]) :
    Replaces circumstances start directory name files
      ⟨tree.discardReplaced circumstances backup, none⟩ := by
  have spares : ∀ root ∈ [backup], start.IsSpare directory root := by
    intro root member
    rw [List.mem_singleton.mp member]
    exact spare
  have asItIs : Replaces circumstances start directory name files ⟨tree, none⟩ :=
    .settled (.done [backup] grounded holds spares agrees)
  have removed : Replaces circumstances start directory name files
      ⟨tree.remove backup, none⟩ := by
    refine .settled (.done [backup] (grounded.remove outside) (holds.of_eq fun rest => ?_) spares
      (agrees.trans (agreesOutside_remove outside (by simp))))
    rw [node?_remove outside, if_neg (apart.symm.not_below (List.prefix_append _ rest))]
  rw [discardReplaced, discard]
  split
  · split
    · exact removed
    · exact asItIs
  · exact asItIs

section

variable {backupName : String}
  (ready : IsReady start tree directory (directory ++ [hiddenName]) files)
  (outside : ¬ directory ++ [name] <+: tree.home)
include ready outside

/-- Moving something else away leaves the draft. -/
theorem IsReady.holdsExactly_relocate (node : Node) (draftApart : hiddenName ≠ name)
    (hiddenApart : hiddenName ≠ backupName) :
    (tree.relocate (directory ++ [name]) (directory ++ [backupName]) node).node?
        (directory ++ [hiddenName]) = some .directory ∧
      (tree.relocate (directory ++ [name]) (directory ++ [backupName]) node).HoldsExactly
        (directory ++ [hiddenName]) files := by
  have kept := node?_relocate_of_apart node outside (areApart_of_ne directory draftApart)
    (areApart_of_ne directory hiddenApart)
  refine ⟨?_, ready.holds.of_eq kept⟩
  have top := kept []
  rw [List.append_nil] at top
  rw [top]
  exact isDirectoryAt_iff.mp ready.isDirectory

/-- With what lies at a target moved away, a tree differs there and at spare places only. -/
theorem IsReady.agreesOutside_away (node : Node) :
    start.AgreesOutside
      (tree.relocate (directory ++ [name]) (directory ++ [backupName]) node)
      [directory ++ [hiddenName], directory ++ [name], directory ++ [backupName]] :=
  (ready.agrees.mono (by simp)).trans ((agreesOutside_relocate outside).mono (by simp))

variable (present : tree.node? (directory ++ [name]) = some node)
  (free : tree.node? (directory ++ [backupName]) = none)
  (backupApart : backupName ≠ name)
  (draftApart : hiddenName ≠ name)
  (spare : start.IsSpare directory (directory ++ [backupName]))
include present free backupApart draftApart spare

/-- What was moved away and is not let back lies at the spare place to which it was moved. -/
theorem IsReady.isStranded :
    IsStranded start
      (tree.relocate (directory ++ [name]) (directory ++ [backupName]) node) directory name := by
  have backupOutside := not_above_of_node? free
  have draftBelow := (areApart_of_ne directory draftApart).symm
  have before : ∀ rest,
      tree.node? (directory ++ [name] ++ rest) = start.node? (directory ++ [name] ++ rest) := by
    refine fun rest => ready.agrees.node? _ fun root member => ?_
    rw [List.mem_singleton.mp member]
    exact draftBelow.not_below (List.prefix_append _ rest)
  have top := before []
  rw [List.append_nil, present] at top
  refine ⟨ready.grounded.relocate outside backupOutside present, by rw [← top]; rfl,
    node?_relocate_self node outside (areApart_of_ne directory backupApart.symm),
    ⟨directory ++ [backupName], spare, fun rest => ?_⟩,
    ⟨[directory ++ [hiddenName], directory ++ [backupName]], ?_, ?_⟩⟩
  · rw [node?_relocate_append outside backupOutside present, before]
  · intro root member
    rcases List.mem_pair.mp member with rfl | rfl
    · exact ready.isSpare
    · exact spare
  · refine (ready.agreesOutside_away outside node).mono ?_
    simp

/-- What was moved away is moved back, so that nothing but the draft is new; or it is stranded, if
the file system does not give it back. -/
theorem IsReady.replaces_giveBack (closed : circumstances.refusal? .moveIn ≠ none)
    (error : FileError) (step : FileTree → Change) :
    Replaces circumstances start directory name files
      ((giveBack circumstances (directory ++ [hiddenName]) (directory ++ [backupName])
        (directory ++ [name]) path
        (tree.relocate (directory ++ [name]) (directory ++ [backupName]) node) error).next
          step) := by
  have backupOutside := not_above_of_node? free
  have moved := node?_relocate_target outside backupOutside present
  have awayFree := node?_relocate_self node outside
    (areApart_of_ne directory backupApart.symm)
  have away := ready.grounded.relocate outside backupOutside present
  have back := ready.of_agrees (agreesOutside_relocate_back ready.grounded outside present free)
    (away.relocate (not_above_relocate backupOutside) (not_above_relocate outside) moved)
  rw [giveBack, move_of_free (not_above_relocate backupOutside) moved awayFree]
  cases movedBack : circumstances.attempt .moveBack (.ok _) with
  | ok restored =>
      cases eq_ok_of_attempt movedBack
      exact .settled (back.isOutcome_discard error)
  | error refusal =>
      have stuck : ¬ circumstances.GivesBack := by
        intro givesBack
        have refused := refusal?_of_attempt_ok movedBack
        rw [givesBack closed] at refused
        cases refused
      exact .stranded stuck (ready.isStranded outside present free backupApart draftApart spare)

variable (hiddenApart : hiddenName ≠ backupName)
include hiddenApart

/-- The draft takes the place of what was moved away. -/
theorem IsReady.replaces_movedIn :
    Replaces circumstances start directory name files
      ⟨((tree.relocate (directory ++ [name]) (directory ++ [backupName]) node).relocate
        (directory ++ [hiddenName]) (directory ++ [name]) .directory).discardReplaced circumstances
          (directory ++ [backupName]), none⟩ := by
  have backupOutside := not_above_of_node? free
  obtain ⟨draft, holds⟩ := ready.holdsExactly_relocate outside node draftApart
    hiddenApart
  have away := ready.grounded.relocate outside backupOutside present
  refine replaces_discardReplaced
    (away.relocate (not_above_relocate ready.outside) (not_above_relocate outside) draft)
    (holds.of_eq (node?_relocate_append (not_above_relocate ready.outside)
      (not_above_relocate outside) draft))
    (areApart_of_ne directory backupApart) (not_above_relocate backupOutside) spare ?_
  exact (agreesOutside_moveIn ready.isGroundedStart ready.isSpare.1
    (ready.agreesOutside_away outside node)).mono (by simp)

/-- Exchanging what lies at a place for a draft. -/
theorem IsReady.replaces_exchange :
    Replaces circumstances start directory name files
      (tree.exchange circumstances (directory ++ [hiddenName]) (directory ++ [backupName])
        (directory ++ [name]) path) := by
  have draft := (ready.holdsExactly_relocate outside node draftApart hiddenApart).1
  have awayFree := node?_relocate_self node outside
    (areApart_of_ne directory backupApart.symm)
  rw [exchange, move_of_free outside present free]
  refine Change.next_ofStep_cases (fun error => ?_) fun away success => ?_
  · exact .settled (ready.isOutcome_refused error)
  cases eq_ok_of_attempt success
  rw [move_of_free (not_above_relocate ready.outside) draft awayFree]
  cases movedIn : circumstances.attempt .moveIn (.ok _) with
  | error refusal =>
      have closed : circumstances.refusal? .moveIn ≠ none := by
        rw [refusal?_of_attempt_ok movedIn]
        exact Option.some_ne_none refusal
      exact ready.replaces_giveBack outside present free backupApart draftApart spare closed
        ⟨refusal, path⟩ _
  | ok changed =>
      cases eq_ok_of_attempt movedIn
      exact ready.replaces_movedIn outside present free backupApart draftApart spare hiddenApart

end

/-- Installing a draft where something lies. -/
theorem IsReady.replaces_installOver
    (ready : IsReady start tree directory (directory ++ [hiddenName]) files)
    (draftApart : hiddenName ≠ name) (outside : ¬ directory ++ [name] <+: tree.home)
    (present : tree.node? (directory ++ [name]) = some node) (plain : ".." ∉ directory) :
    Replaces circumstances start directory name files
      (tree.installOver circumstances (directory ++ [hiddenName]) (directory ++ [name]) path) := by
  rw [installOver, List.dropLast_concat, List.getLastD_concat]
  split
  · exact .settled (ready.isOutcome_refused _)
  · next made backup success =>
      obtain ⟨drawn, entry, reached, free, rfl⟩ := isEntry_of_makeHidden success
      rw [resolve_of_slash tree plain] at entry reached
      subst reached
      have backupOutside := not_above_of_node? free
      have hiddenApart : hiddenName ≠ backupName name drawn := by
        rintro rfl
        rw [isDirectoryAt_iff.mp ready.isDirectory] at free
        cases free
      have spare : start.IsSpare directory (directory ++ [backupName name drawn]) := by
        refine ⟨?_, _, isHiddenName_backupName name drawn, rfl⟩
        rw [← free]
        refine (ready.agrees.node? _ fun root member => ?_).symm
        rw [List.mem_singleton.mp member]
        exact (areApart_of_ne directory hiddenApart).1
      have put := ready.grounded.put entry.inDirectory (isDirectoryAt_eq_false_of_node? free)
        .directory
      refine Change.next_ofStep_cases (fun error => ?_) fun cleared success => ?_
      · refine .settled (.refused
          [directory ++ [hiddenName], directory ++ [backupName name drawn]] put
          (fun root member => ?_) ((ready.agrees.mono (by simp)).trans
            (agreesOutside_put backupOutside ⟨_, by simp, List.prefix_rfl⟩)))
        rcases List.mem_pair.mp member with rfl | rfl
        · exact ready.isSpare
        · exact spare
      · cases eq_ok_of_attempt success
        have agrees := agreesOutside_remove_put ready.grounded free .directory
        have same : ∀ place, _ = tree.node? place :=
          fun place => agrees.node? place fun _ member => absurd member List.not_mem_nil
        exact (ready.of_agrees agrees (put.remove (not_above_put backupOutside))).replaces_exchange
          (not_above_remove (not_above_put outside)) ((same _).trans present) ((same _).trans free)
          (backupName_ne name drawn) draftApart spare hiddenApart

/-- Installing a draft by whichever way the file system tells. -/
theorem IsReady.replaces_install
    (ready : IsReady start tree directory (directory ++ [hiddenName]) files)
    (draftApart : hiddenName ≠ name) (outside : ¬ directory ++ [name] <+: tree.home)
    (plain : ".." ∉ directory ++ [name]) :
    Replaces circumstances start directory name files
      (tree.install circumstances (directory ++ [hiddenName]) (directory ++ [name]) path) := by
  rw [install]
  split
  · next asked =>
      obtain ⟨node, found, _⟩ := answer_eq_ok_true_iff.mp asked
      have present := (walk_and_node?_of_find (find_of_findIn found)).2
      rw [resolve_of_slash tree plain] at present
      exact ready.replaces_installOver draftApart outside present
        fun member => plain (List.mem_append_left _ member)
  · exact ready.replaces_installFresh outside
  · exact .settled (ready.isOutcome_refused _)

/-! ## The whole replacement -/

/-- Filling a draft that was just made, and installing it. -/
theorem IsStaged.replaces_fill
    (staged : IsStaged start tree directory (directory ++ [hiddenName]))
    (isDirectory : tree.isDirectoryAt (directory ++ [hiddenName]) = true)
    (draftApart : hiddenName ≠ name)
    (outside : ¬ directory ++ [name] <+: tree.home) (plain : ".." ∉ directory ++ [name])
    (down : hiddenName ≠ "..") (holds : tree.HoldsExactly (directory ++ [hiddenName]) [])
    (plainFiles : ∀ file ∈ files, ".." ∉ Path.partsOfString file.1)
    (distinct : (files.map fun file => Path.partsOfString file.1).Nodup) :
    Replaces circumstances start directory name files
      ((((tree.fillDraft circumstances (directory ++ [hiddenName]) files).next fun tree =>
        tree.share circumstances path).recover fun tree error =>
          ⟨tree.discard circumstances .discardDraft (directory ++ [hiddenName]), some error⟩).next
            fun tree =>
              tree.install circumstances (directory ++ [hiddenName]) (directory ++ [name])
                path) := by
  have plainDraft : ".." ∉ directory ++ [hiddenName] :=
    plain_append (fun member => plain (List.mem_append_left _ member)) (by simpa using down.symm)
  have plainTargets : ∀ file ∈ files,
      ".." ∉ (draftTarget (directory ++ [hiddenName]) file).parts :=
    fun file member => plain_append plainDraft (plainFiles file member)
  obtain ⟨filled, holdsAll⟩ := fillDraft_spec
    ⟨staged.grounded, isDirectory, staged.agrees⟩ circumstances [] plainTargets
  have sameHome := filled.agrees.home.trans staged.agrees.home.symm
  cases filling : tree.fillDraft circumstances (directory ++ [hiddenName]) files with
  | mk later error =>
      rw [filling] at filled holdsAll sameHome
      have stagedLater : IsStaged start later directory (directory ++ [hiddenName]) :=
        ⟨staged.isGroundedStart, filled.grounded, staged.isSpare, filled.agrees⟩
      cases error with
      | some error => exact .settled (stagedLater.isOutcome_discard error)
      | none =>
          have ready : IsReady start later directory (directory ++ [hiddenName]) files :=
            ⟨stagedLater, filled.isDirectory, holdsAll holds distinct rfl⟩
          have laterOutside : ¬ directory ++ [name] <+: later.home := by
            rw [sameHome]
            exact outside
          obtain ⟨error, shared⟩ := exists_share_eq circumstances later path
          dsimp only [Change.next]
          rw [shared]
          cases error with
          | some error => exact .settled (stagedLater.isOutcome_discard error)
          | none => exact ready.replaces_install draftApart laterOutside plain

/-- Whether something may be new after a replacement: a directory above the target, or something
under a hidden name beside it. -/
def MayAppear (target place : List String) (node : Node) : Prop :=
  node = .directory ∧ place <+: target ∧ place ≠ target ∨ IsHiddenIn target.dropLast place

/-- Whether all that lay at a place lies under a new hidden name beside it instead.  Everywhere else
all has stayed. -/
structure IsMovedAside (before after : FileTree) (target : List String) : Prop where
  present : (before.node? target).isSome = true
  free : after.node? target = none
  kept : ∃ hidden, IsHiddenName hidden ∧ before.node? (target.dropLast ++ [hidden]) = none ∧
    ∀ rest, after.node? (target.dropLast ++ [hidden] ++ rest) = before.node? (target ++ rest)
  keeps : ∀ place, ¬ target <+: place → before.GrowsAt after (MayAppear target) place

/-- Directories that were made above an entry left it as it was. -/
theorem GrowsTo.node?_append (grown : tree.GrowsTo start (IsOnTheWay [] directory))
    (plain : ".." ∉ directory) (name : String) (rest : List String) :
    start.node? (directory ++ [name] ++ rest) = tree.node? (directory ++ [name] ++ rest) := by
  rcases grown.growsAt (directory ++ [name] ++ rest) with same | ⟨_, _, _, onTheWay⟩
  · exact same
  · have above := prefix_of_isOnTheWay plain onTheWay
    exact absurd ((List.prefix_append _ rest).trans above) (not_below_parent directory name)

/-- What is stranded was moved aside, seen from the tree before the directories above it were
made. -/
theorem IsStranded.isMovedAside (stranded : IsStranded start after directory name)
    (grown : tree.GrowsTo start (IsOnTheWay [] directory)) (plain : ".." ∉ directory)
    (keeps : ∀ place, ¬ directory ++ [name] <+: place →
      tree.GrowsAt after (MayAppear (directory ++ [name])) place) :
    IsMovedAside tree after (directory ++ [name]) := by
  have before := grown.node?_append plain name
  obtain ⟨_, ⟨free, hidden, isHidden, rfl⟩, kept⟩ := stranded.kept
  refine ⟨?_, stranded.free, ⟨hidden, isHidden, ?_, fun rest => ?_⟩, keeps⟩
  · have top := before []
    rw [List.append_nil] at top
    rw [← top]
    exact stranded.present
  · rw [List.dropLast_concat]
    rcases grown.growsAt (directory ++ [hidden]) with same | ⟨free, _⟩
    · rw [← same, free]
    · exact free
  · rw [List.dropLast_concat, kept, before]

variable (grounded : tree.IsGrounded) (outside : ¬ tree.resolve path <+: tree.home)
  (plainFiles : ∀ file ∈ files, ".." ∉ Path.partsOfString file.1)
  (distinct : (files.map fun file => Path.partsOfString file.1).Nodup)
include grounded outside plainFiles distinct

/-- A replacement first makes missing directories above its target; all else is one of the outcomes
of an attempt that starts there. -/
theorem exists_replaces_replaceDirectoryIn :
    ∃ start directory name, tree.resolve path = directory ++ [name] ∧ start.IsGrounded ∧
      tree.GrowsTo start (IsOnTheWay [] directory) ∧
        Replaces circumstances start directory name files
          (tree.replaceDirectoryIn circumstances path files) := by
  have plain := grounded.plain_resolve path
  have filled : tree.resolve path ≠ [] := fun empty => outside (empty ▸ List.nil_prefix)
  obtain ⟨directory, name, target⟩ : ∃ directory name, tree.resolve path = directory ++ [name] :=
    ⟨_, _, (List.dropLast_concat_getLast filled).symm⟩
  rw [target] at outside plain
  have plainAbove : ".." ∉ directory := fun member => plain (List.mem_append_left _ member)
  rw [replaceDirectoryIn, target]
  simp only [List.dropLast_concat, List.getLastD_concat]
  split
  · exact ⟨tree, directory, name, rfl, grounded, GrowsTo.refl tree,
      .settled (IsOutcome.unchanged grounded _)⟩
  · have grown := growsTo_makeDirectoriesIn circumstances tree ⟨.slash, directory⟩
    have groundedAbove := grounded.makeDirectoriesIn circumstances ⟨.slash, directory⟩
    cases making : tree.makeDirectoriesIn circumstances ⟨.slash, directory⟩ with
    | mk start error =>
        rw [making] at grown groundedAbove
        refine ⟨start, directory, name, rfl, groundedAbove, grown, ?_⟩
        cases error with
        | some error => exact .settled (IsOutcome.unchanged groundedAbove error)
        | none =>
            dsimp only [Change.next]
            split
            · exact .settled (IsOutcome.unchanged groundedAbove _)
            · next made draft success =>
                obtain ⟨drawn, entry, reached, free, rfl⟩ := isEntry_of_makeHidden success
                rw [resolve_of_slash start plainAbove] at entry reached
                subst reached
                have draftOutside := not_above_of_node? free
                have staged := isStaged_put groundedAbove entry.inDirectory free
                  (isHiddenName_stagingName name drawn) .directory
                refine staged.replaces_fill
                  (isDirectoryAt_iff.mpr (node?_put_self draftOutside .directory))
                  (stagingName_ne name drawn) ?_ plain entry.isDown
                  (HoldsExactly.of_fresh groundedAbove free) plainFiles distinct
                rw [home_put, grown.home]
                exact outside

theorem IsGrounded.replaceDirectoryIn :
    (tree.replaceDirectoryIn circumstances path files).tree.IsGrounded := by
  obtain ⟨_, _, _, _, _, _, replaces⟩ :=
    exists_replaces_replaceDirectoryIn grounded outside plainFiles distinct
  exact replaces.isGrounded

theorem home_replaceDirectoryIn :
    (tree.replaceDirectoryIn circumstances path files).tree.home = tree.home := by
  obtain ⟨_, _, _, _, _, grown, replaces⟩ :=
    exists_replaces_replaceDirectoryIn grounded outside plainFiles distinct
  exact replaces.home.trans grown.home

/-- A directory that was replaced holds exactly the given files. -/
theorem holdsExactly_replaceDirectoryIn
    (accepted : (tree.replaceDirectoryIn circumstances path files).error = none) :
    (tree.replaceDirectoryIn circumstances path files).tree.HoldsExactly
      (tree.resolve path) files := by
  obtain ⟨_, _, _, target, _, _, replaces⟩ :=
    exists_replaces_replaceDirectoryIn grounded outside plainFiles distinct
  rw [target]
  exact replaces.holds_of_accepted accepted

/-- Outside a directory that was replaced, and everywhere if its replacement was refused, all stays
and only directories above the target and hidden entries beside it are new.  Or else the directory
is stranded: the file system lets neither its successor in nor the directory back. -/
theorem growsAt_or_isMovedAside_replaceDirectoryIn (circumstances : Circumstances) :
    (∀ place, ((tree.replaceDirectoryIn circumstances path files).error = none →
        ¬ tree.resolve path <+: place) →
      tree.GrowsAt (tree.replaceDirectoryIn circumstances path files).tree
        (MayAppear (tree.resolve path)) place) ∨
      ¬ circumstances.GivesBack ∧
        (tree.replaceDirectoryIn circumstances path files).error ≠ none ∧
          IsMovedAside tree (tree.replaceDirectoryIn circumstances path files).tree
            (tree.resolve path) := by
  have plain := grounded.plain_resolve path
  obtain ⟨start, directory, name, target, groundedStart, grown, replaces⟩ :=
    exists_replaces_replaceDirectoryIn grounded outside plainFiles distinct
  rw [target, List.mem_append, not_or] at plain
  rw [target]
  have through : ∀ place,
      start.GrowsAt (tree.replaceDirectoryIn circumstances path files).tree
          (fun place _ => IsHiddenIn directory place) place →
        tree.GrowsAt (tree.replaceDirectoryIn circumstances path files).tree
          (MayAppear (directory ++ [name])) place := by
    refine fun place later => ((grown.growsAt place).mono fun node onTheWay => ?_).trans
      (later.mono fun _ hidden => Or.inr ?_)
    · have above := prefix_of_isOnTheWay plain.1 onTheWay
      refine Or.inl ⟨onTheWay.1, (prefix_dropLast_iff (by simp)).mp ?_⟩
      rw [List.dropLast_concat]
      exact above
    · rw [List.dropLast_concat]
      exact hidden
  generalize tree.replaceDirectoryIn circumstances path files = change at replaces through
  cases replaces with
  | settled outcome =>
      exact Or.inl fun place notBelow => through place (outcome.growsAt groundedStart notBelow)
  | stranded stuck stranded =>
      refine Or.inr ⟨stuck, Option.some_ne_none _, ?_⟩
      exact stranded.isMovedAside grown plain.1 fun place notBelow =>
        through place (stranded.growsAt groundedStart notBelow)

end FileTree

end HomeCatalog
