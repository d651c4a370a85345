import HomeCatalog.Problem
import HomeCatalog.Proofs.Files.Outcomes
import HomeCatalog.Proofs.Text.Utf8

/-!
# Writing a file

A write into a file tree that is not refused leaves the file at its path, with the bytes that were
written.  One that is refused leaves all that was there, and what is new is a directory on the way
or lies under a hidden name beside the target.
-/

namespace HomeCatalog.FileTree

variable {after start tree : FileTree} {path : Path} {place directory draft target : List String}
  {hiddenName name text : String} {bytes : List UInt8} {circumstances : Circumstances}

/-! ## Moving a file -/

theorem not_above_of_file (present : tree.node? place = some (.file bytes)) :
    ¬ place <+: tree.home := by
  intro above
  rw [node?_of_above above] at present
  cases present

theorem isDirectoryAt_eq_false_of_file (present : tree.node? place = some (.file bytes)) :
    tree.isDirectoryAt place = false := by
  rw [isDirectoryAt, present]
  rfl

/-- A file is moved onto its target unless that is a directory. -/
theorem exists_of_installFile (present : tree.node? draft = some (.file bytes))
    (success : tree.installFile circumstances draft path = .ok after) :
    ∃ parent name, tree.IsEntry path parent name ∧
      tree.isDirectoryAt (parent ++ [name]) = false ∧
        after = tree.relocate draft (parent ++ [name]) (.file bytes) := by
  obtain ⟨place, slot, success⟩ := exists_of_bind_eq_ok (eq_ok_of_attempt success)
  obtain ⟨parent, name, entry, rfl⟩ := isEntry_of_slot slot
  refine ⟨parent, name, entry, ?_⟩
  rw [move, present] at success
  cases there : tree.node? (parent ++ [name]) with
  | none =>
      rw [there] at success
      dsimp only at success
      split_ifs at success
      cases success
      exact ⟨isDirectoryAt_eq_false_of_node? there, rfl⟩
  | some node =>
      rw [there] at success
      cases node with
      | directory => cases success
      | file old =>
          cases success
          exact ⟨isDirectoryAt_eq_false_of_file there, rfl⟩

/-- Moving a file onto a place that is no directory takes no directory away. -/
theorem keepsDirectories_relocate (present : tree.node? draft = some (.file bytes))
    (noDirectory : tree.isDirectoryAt target = false) :
    tree.KeepsDirectories (tree.relocate draft target (.file bytes)) := by
  intro place anchored
  rw [isDirectoryAt_iff, (agreesOutside_relocate (not_above_of_file present)).node?]
  · exact isDirectoryAt_iff.mp (anchored place List.prefix_rfl)
  · intro root member inside
    have directory := anchored root inside
    rcases List.mem_pair.mp member with rfl | rfl
    · rw [isDirectoryAt_eq_false_of_file present] at directory
      cases directory
    · rw [noDirectory] at directory
      cases directory

/-- A file that was moved onto its target lies at the path. -/
theorem readBytes_installFile (present : tree.node? draft = some (.file bytes))
    (success : tree.installFile circumstances draft path = .ok after) :
    after.readBytes path = .ok bytes := by
  obtain ⟨parent, name, entry, noDirectory, rfl⟩ := exists_of_installFile present success
  have targetOutside := not_above_of_isDirectoryAt_eq_false noDirectory
  have found := entry.find (home_relocate tree draft _ _)
    (keepsDirectories_relocate present noDirectory)
    (node?_relocate_target (not_above_of_file present) targetOutside present)
  rw [readBytes, found]

/-! ## What a write does with its draft -/

/-- Cleaning up after an error removes the draft or lets it lie. -/
theorem discardFile_cases (circumstances : Circumstances) (draft : List String) (path : Path)
    (tree : FileTree) (error : FileError) :
    ∃ error', discardFile circumstances draft path tree error = ⟨tree.remove draft, some error'⟩ ∨
      discardFile circumstances draft path tree error = ⟨tree, some error'⟩ := by
  rw [discardFile]
  split
  · exact ⟨error, Or.inl rfl⟩
  · exact ⟨_, Or.inr rfl⟩

/-- A draft is cleaned up, filled or not, or was filled and moved to its target. -/
theorem finishFile_cases (circumstances : Circumstances) (tree : FileTree) (draft : List String)
    (path : Path) (text : String) :
    (∃ later error, (later = tree ∨ later = tree.put draft (.file (Text.encode text))) ∧
      tree.finishFile circumstances draft path text =
        discardFile circumstances draft path later error) ∨
      ∃ after, (tree.put draft (.file (Text.encode text))).installFile circumstances draft path =
          .ok after ∧
        tree.finishFile circumstances draft path text = ⟨after, none⟩ := by
  rw [finishFile]
  cases filled : circumstances.attempt (.fill path.name)
      (.ok (tree.put draft (.file (Text.encode text)))) with
  | error refusal => exact Or.inl ⟨tree, _, Or.inl rfl, rfl⟩
  | ok later =>
      cases eq_ok_of_attempt filled
      obtain ⟨error, shared⟩ := exists_share_eq circumstances
        (tree.put draft (.file (Text.encode text))) path
      dsimp only [Change.ofStep, Change.next]
      rw [shared]
      cases error with
      | some error => exact Or.inl ⟨_, error, Or.inr rfl, rfl⟩
      | none =>
          dsimp only
          cases installed : (tree.put draft (.file (Text.encode text))).installFile circumstances
              draft path with
          | error refusal => exact Or.inl ⟨_, ⟨refusal, path⟩, Or.inr rfl, rfl⟩
          | ok after => exact Or.inr ⟨after, rfl, rfl⟩

/-! ## What was written is found again -/

theorem readBytes_finishFile (outside : ¬ draft <+: tree.home)
    (accepted : (tree.finishFile circumstances draft path text).error = none) :
    (tree.finishFile circumstances draft path text).tree.readBytes path =
      .ok (Text.encode text) := by
  rcases finishFile_cases circumstances tree draft path text with
    ⟨later, error, _, refused⟩ | ⟨after, installed, done⟩
  · obtain ⟨error', removed | left⟩ := discardFile_cases circumstances draft path later error
    · rw [refused, removed] at accepted
      cases accepted
    · rw [refused, left] at accepted
      cases accepted
  · rw [done]
    exact readBytes_installFile (node?_put_self outside _) installed

/-- After a write that was not refused the file lies at the path. -/
theorem readBytes_writeFileIn
    (accepted : (tree.writeFileIn circumstances path text).error = none) :
    (tree.writeFileIn circumstances path text).tree.readBytes path = .ok (Text.encode text) := by
  rw [writeFileIn] at accepted ⊢
  have made := Change.error_eq_none_of_next accepted
  rw [Change.next_of_error_eq_none made] at accepted ⊢
  split at accepted
  · cases accepted
  · next drafted draft success =>
      obtain ⟨drawn, _, _, free, rfl⟩ := isEntry_of_makeHidden success
      have outside := not_above_of_node? free
      exact readBytes_finishFile outside accepted

/-- A text without carriage returns is read back after a write that was not refused. -/
theorem readText_writeFile (accepted : (tree.writeFile path text).error = none)
    (plain : '\r' ∉ text.toList) :
    (tree.writeFile path text).tree.readText path = .ok text := by
  rw [readText, writeFile, readBytes_writeFileIn accepted]
  simp only [Text.ofFile?_encode plain]

/-! ## What a write comes to -/

/-- Whether a file lies at a place that was no directory before. -/
def IsWrittenAt (start : FileTree) (target : List String) (bytes : List UInt8)
    (tree : FileTree) : Prop :=
  tree.node? target = some (.file bytes) ∧ start.isDirectoryAt target = false

/-- A filled draft that is moved to its target in the same directory. -/
theorem IsStaged.isOutcome_installFile (staged : IsStaged start tree directory
      (directory ++ [hiddenName])) (inDirectory : directory = follow (tree.start path)
        path.parts.dropLast)
    (present : tree.node? (directory ++ [hiddenName]) = some (.file bytes))
    (success : tree.installFile circumstances (directory ++ [hiddenName]) path = .ok after) :
    IsOutcome start directory (tree.resolve path) (IsWrittenAt start (tree.resolve path) bytes)
      ⟨after, none⟩ := by
  obtain ⟨parent, name, entry, noDirectory, rfl⟩ := exists_of_installFile present success
  have reached : parent = directory := entry.parent_eq_follow.trans inDirectory.symm
  subst reached
  have outside := not_above_of_file present
  have targetOutside := not_above_of_isDirectoryAt_eq_false noDirectory
  rw [entry.resolve_eq]
  refine .done [] (staged.grounded.relocate outside targetOutside present)
    ⟨node?_relocate_target outside targetOutside present, ?_⟩
    (fun _ member => absurd member List.not_mem_nil)
    (agreesOutside_moveIn staged.isGroundedStart staged.isSpare.1 staged.agrees)
  -- The draft is the only thing that was added, and it is no directory.
  by_cases same : hiddenName = name
  · rw [← same]
    exact isDirectoryAt_eq_false_of_node? staged.isSpare.1
  · rw [isDirectoryAt, ← staged.agrees.node?]
    · exact noDirectory
    · intro root member
      rw [List.mem_singleton.mp member]
      exact (areApart_of_ne parent same).1

theorem IsStaged.put (staged : IsStaged start tree directory (directory ++ [hiddenName]))
    (inDirectory : tree.isDirectoryAt directory = true)
    (present : tree.node? (directory ++ [hiddenName]) = some (.file bytes)) (node : Node) :
    IsStaged start (tree.put (directory ++ [hiddenName]) node) directory
      (directory ++ [hiddenName]) :=
  ⟨staged.isGroundedStart,
    staged.grounded.put inDirectory (isDirectoryAt_eq_false_of_file present) node, staged.isSpare,
    staged.agrees.trans (agreesOutside_put staged.outside
      ⟨_, List.mem_singleton.mpr rfl, List.prefix_rfl⟩)⟩

/-- Filling a draft and moving it to its target. -/
theorem IsStaged.isOutcome_finishFile (staged : IsStaged start tree directory
      (directory ++ [hiddenName])) (inDirectory : directory = follow (tree.start path)
        path.parts.dropLast) (isDirectory : tree.isDirectoryAt directory = true)
    (present : tree.node? (directory ++ [hiddenName]) = some (.file bytes)) :
    IsOutcome start directory (tree.resolve path)
      (IsWrittenAt start (tree.resolve path) (Text.encode text))
      (tree.finishFile circumstances (directory ++ [hiddenName]) path text) := by
  have filled := staged.put isDirectory present (.file (Text.encode text))
  rcases finishFile_cases circumstances tree (directory ++ [hiddenName]) path text with
    ⟨later, error, origin, refused⟩ | ⟨after, installed, done⟩
  · have stagedLater : IsStaged start later directory (directory ++ [hiddenName]) := by
      rcases origin with rfl | rfl
      · exact staged
      · exact filled
    obtain ⟨error', removed | left⟩ :=
      discardFile_cases circumstances (directory ++ [hiddenName]) path later error
    · rw [refused, removed]
      exact stagedLater.isOutcome_remove error'
    · rw [refused, left]
      exact stagedLater.isOutcome_refused error'
  · rw [done]
    exact filled.isOutcome_installFile inDirectory (node?_put_self staged.outside _) installed

/-- Whether something may be new after a file was written: a directory to which its path leads on
the way, or something under a hidden name beside the file. -/
def MayAppearFor (tree : FileTree) (path : Path) (place : List String) (node : Node) : Prop :=
  IsOnTheWay (tree.start path) path.parts.dropLast place node ∨
    IsHiddenIn (tree.resolve path.parent) place

section

variable (grounded : tree.IsGrounded)
include grounded

/-- A write first makes missing directories on its way; all else is one of the outcomes of an
attempt that starts there. -/
theorem exists_isOutcome_writeFileIn :
    ∃ start, start.IsGrounded ∧
      tree.GrowsTo start (IsOnTheWay (tree.start path) path.parts.dropLast) ∧
        IsOutcome start (tree.resolve path.parent) (tree.resolve path)
          (IsWrittenAt start (tree.resolve path) (Text.encode text))
          (tree.writeFileIn circumstances path text) := by
  rw [writeFileIn]
  have grown := growsTo_makeDirectoriesIn circumstances tree path.parent
  have groundedAbove := grounded.makeDirectoriesIn circumstances path.parent
  cases making : tree.makeDirectoriesIn circumstances path.parent with
  | mk start error =>
      rw [making] at grown groundedAbove
      refine ⟨start, groundedAbove, grown, ?_⟩
      rw [← resolve_eq_of_home grown.home, ← resolve_eq_of_home grown.home]
      cases error with
      | some error => exact IsOutcome.unchanged groundedAbove error
      | none =>
          dsimp only [Change.next]
          split
          · exact IsOutcome.unchanged groundedAbove _
          · next made draft success =>
              obtain ⟨drawn, entry, reached, free, rfl⟩ := isEntry_of_makeHidden success
              subst reached
              have staged := isStaged_put groundedAbove entry.inDirectory free
                (isHiddenName_draftName path.name drawn) (.file [])
              have below : start.GrowsTo _ fun _ _ => True := growsTo_put free (.file []) trivial
              exact staged.isOutcome_finishFile (by rfl)
                (below.isDirectoryAt entry.inDirectory)
                (node?_put_self (not_above_of_node? free) (.file []))

theorem IsGrounded.writeFileIn : (tree.writeFileIn circumstances path text).tree.IsGrounded := by
  obtain ⟨_, _, _, outcome⟩ := exists_isOutcome_writeFileIn grounded
  exact outcome.isGrounded

theorem home_writeFileIn : (tree.writeFileIn circumstances path text).tree.home = tree.home := by
  obtain ⟨_, _, grown, outcome⟩ := exists_isOutcome_writeFileIn grounded
  exact outcome.home.trans grown.home

/-- A file that was written lies at the place to which its path leads. -/
theorem node?_writeFileIn (accepted : (tree.writeFileIn circumstances path text).error = none) :
    (tree.writeFileIn circumstances path text).tree.node? (tree.resolve path) =
      some (.file (Text.encode text)) := by
  obtain ⟨_, _, _, outcome⟩ := exists_isOutcome_writeFileIn grounded
  exact (outcome.holds_of_accepted accepted).1

/-- Besides a file that was written, and everywhere if it was not, all stays and only directories
on the way and hidden entries beside the target are new. -/
theorem growsAt_writeFileIn
    (apart : (tree.writeFileIn circumstances path text).error = none → place ≠ tree.resolve path) :
    tree.GrowsAt (tree.writeFileIn circumstances path text).tree (tree.MayAppearFor path)
      place := by
  obtain ⟨start, groundedStart, grown, outcome⟩ := exists_isOutcome_writeFileIn grounded
  by_cases below : (tree.writeFileIn circumstances path text).error = none ∧
      tree.resolve path <+: place
  · -- Nothing lies below a file, and nothing lay below what was no directory.
    obtain ⟨accepted, rest, split⟩ := below
    obtain ⟨present, noDirectory⟩ := outcome.holds_of_accepted accepted
    have proper : rest ≠ [] := by
      rintro rfl
      exact apart accepted (by rw [← split, List.append_nil])
    have noDirectoryBefore : tree.isDirectoryAt (tree.resolve path) = false := by
      rw [Bool.eq_false_iff]
      exact fun directory => Bool.eq_false_iff.mp noDirectory (grown.isDirectoryAt directory)
    refine Or.inl ?_
    rw [← split, grounded.node?_append_eq_none noDirectoryBefore proper]
    exact outcome.isGrounded.node?_append_eq_none (isDirectoryAt_eq_false_of_file present) proper
  · refine ((grown.growsAt place).mono fun _ onTheWay => Or.inl onTheWay).trans
      ((outcome.growsAt groundedStart ?_).mono fun _ hidden => Or.inr hidden)
    exact fun accepted inside => below ⟨accepted, inside⟩

end

end HomeCatalog.FileTree
