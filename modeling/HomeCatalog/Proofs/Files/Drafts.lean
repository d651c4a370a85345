import HomeCatalog.Proofs.Files.Outcomes

/-!
# Filling a draft

Filling a draft changes nothing outside it, whether or not it is refused on the way.  A draft that
was filled holds exactly the given files, and the directories above them.
-/

namespace HomeCatalog.FileTree

variable {before after start tree : FileTree} {path : Path} {place draft : List String}
  {circumstances : Circumstances}

/-! ## What a directory holds -/

/-- Whether a place below a directory is that of one of some files, with its bytes. -/
def IsFileOf (files : List (String × String)) (rest : List String) (bytes : List UInt8) : Prop :=
  ∃ file ∈ files, Path.partsOfString file.1 = rest ∧ Text.encode file.2 = bytes

/-- Whether a place below a directory is the directory itself or one above some of the files. -/
def IsDirectoryOf (files : List (String × String)) (rest : List String) : Prop :=
  rest = [] ∨ ∃ file ∈ files, rest <+: Path.partsOfString file.1 ∧
    rest ≠ Path.partsOfString file.1

/-- Whether a directory holds exactly some files. -/
structure HoldsExactly (tree : FileTree) (root : List String) (files : List (String × String)) :
    Prop where
  file_iff : ∀ rest bytes, tree.node? (root ++ rest) = some (.file bytes) ↔
    IsFileOf files rest bytes
  directory_iff : ∀ rest, tree.node? (root ++ rest) = some .directory ↔ IsDirectoryOf files rest

theorem isFileOf_concat {files : List (String × String)} {file : String × String}
    {rest : List String} {bytes : List UInt8} :
    IsFileOf (files ++ [file]) rest bytes ↔ IsFileOf files rest bytes ∨
      Path.partsOfString file.1 = rest ∧ Text.encode file.2 = bytes := by
  simp [IsFileOf, or_and_right, exists_or]

theorem isDirectoryOf_concat {files : List (String × String)} {file : String × String}
    {rest : List String} :
    IsDirectoryOf (files ++ [file]) rest ↔ IsDirectoryOf files rest ∨
      rest <+: Path.partsOfString file.1 ∧ rest ≠ Path.partsOfString file.1 := by
  simp [IsDirectoryOf, or_and_right, exists_or, or_assoc]

theorem HoldsExactly.of_eq {source target : List String} {files : List (String × String)}
    (holds : before.HoldsExactly source files)
    (same : ∀ rest, after.node? (target ++ rest) = before.node? (source ++ rest)) :
    after.HoldsExactly target files := by
  refine ⟨fun rest bytes => ?_, fun rest => ?_⟩
  · rw [same, holds.file_iff]
  · rw [same, holds.directory_iff]

/-- A directory that was just made holds nothing. -/
theorem HoldsExactly.of_fresh (grounded : tree.IsGrounded) (free : tree.node? draft = none) :
    (tree.put draft .directory).HoldsExactly draft [] := by
  have outside := not_above_of_node? free
  have below : ∀ rest, rest ≠ [] → (tree.put draft .directory).node? (draft ++ rest) = none := by
    intro rest proper
    have apart : draft ++ rest ≠ draft := by simpa using proper
    rw [node?_put_of_ne outside _ apart]
    exact grounded.node?_eq_none_of_below free (List.prefix_append draft rest)
  have top : (tree.put draft .directory).node? draft = some .directory :=
    node?_put_self outside .directory
  refine ⟨fun rest bytes => ?_, fun rest => ?_⟩
  · by_cases last : rest = []
    · simp [last, top, IsFileOf]
    · simp [below rest last, IsFileOf]
  · by_cases last : rest = []
    · simp [last, top, IsDirectoryOf]
    · simp [below rest last, last, IsDirectoryOf]

/-! ## Writing one file -/

theorem isEntry_of_overwrite {bytes : List UInt8}
    (success : tree.overwrite path bytes = .ok after) :
    ∃ parent name, tree.IsEntry path parent name ∧
      tree.isDirectoryAt (parent ++ [name]) = false ∧
        after = tree.put (parent ++ [name]) (.file bytes) := by
  obtain ⟨place, slot, success⟩ := exists_of_bind_eq_ok success
  obtain ⟨parent, name, entry, rfl⟩ := isEntry_of_slot slot
  split_ifs at success with taken
  cases success
  exact ⟨parent, name, entry, by simpa using taken, rfl⟩

/-- What is known of a tree while a draft is filled. -/
structure IsFilling (start tree : FileTree) (draft : List String) : Prop where
  grounded : tree.IsGrounded
  isDirectory : tree.isDirectoryAt draft = true
  agrees : start.AgreesOutside tree [draft]

section

variable {file : String × String}

/-- Making the directories above a file of a draft changes nothing outside the draft. -/
theorem IsFilling.makeDirectoriesIn (filling : IsFilling start tree draft)
    (circumstances : Circumstances)
    (plain : ".." ∉ (draftTarget draft file).parts) :
    IsFilling start
      (tree.makeDirectoriesIn circumstances (draftTarget draft file).parent).tree draft := by
  have grown := growsTo_makeDirectoriesIn circumstances tree (draftTarget draft file).parent
  have grounded := filling.grounded.makeDirectoriesIn circumstances
    (draftTarget draft file).parent
  refine ⟨grounded, grown.isDirectoryAt filling.isDirectory,
    filling.agrees.trans ⟨grown.home, fun place apart => ?_⟩⟩
  rcases grown.growsAt place with same | ⟨free, node, _, onTheWay⟩
  · exact same
  · have shorter := List.dropLast_prefix (draftTarget draft file).parts
    have inside : place <+: draft ++ Path.partsOfString file.1 :=
      (prefix_of_isOnTheWay (fun member => plain (shorter.subset member)) onTheWay).trans shorter
    have notBelow : ¬ draft <+: place := apart draft (List.mem_singleton.mpr rfl)
    -- What lies above the draft is there already.
    have above : place <+: draft :=
      (List.prefix_or_prefix_of_prefix inside (List.prefix_append draft _)).resolve_right notBelow
    have present := filling.grounded.isDirectoryAt_of_above filling.isDirectory above
    rw [isDirectoryAt_iff.mp present] at free
    cases free

/-- A file of a draft is written at its place in the draft. -/
theorem exists_of_overwrite_draftTarget {bytes : List UInt8}
    (plain : ".." ∉ (draftTarget draft file).parts)
    (success : tree.overwrite (draftTarget draft file) bytes = .ok after) :
    ∃ parent name, draft ++ Path.partsOfString file.1 = parent ++ [name] ∧
      tree.isDirectoryAt parent = true ∧ tree.isDirectoryAt (parent ++ [name]) = false ∧
        after = tree.put (parent ++ [name]) (.file bytes) := by
  obtain ⟨parent, name, entry, noDirectory, written⟩ := isEntry_of_overwrite success
  have reached := (resolve_of_slash tree plain).symm.trans entry.resolve_eq
  exact ⟨parent, name, reached, entry.inDirectory, noDirectory, written⟩

theorem IsFilling.overwrite (filling : IsFilling start tree draft) {bytes : List UInt8}
    (plain : ".." ∉ (draftTarget draft file).parts)
    (success : tree.overwrite (draftTarget draft file) bytes = .ok after) :
    IsFilling start after draft := by
  obtain ⟨parent, name, reached, inDirectory, noDirectory, rfl⟩ :=
    exists_of_overwrite_draftTarget plain success
  have outside := not_above_of_isDirectoryAt_eq_false noDirectory
  have apart : draft ≠ parent ++ [name] := by
    intro same
    rw [← same, filling.isDirectory] at noDirectory
    cases noDirectory
  refine ⟨filling.grounded.put inDirectory noDirectory _, ?_, filling.agrees.trans ?_⟩
  · rw [isDirectoryAt_iff, node?_put_of_ne outside _ apart]
    exact isDirectoryAt_iff.mp filling.isDirectory
  · exact agreesOutside_put outside
      ⟨draft, List.mem_singleton.mpr rfl, reached ▸ List.prefix_append draft _⟩

/-- Writing a file of a draft changes nothing outside the draft. -/
theorem IsFilling.fillFile (filling : IsFilling start tree draft) (circumstances : Circumstances)
    (plain : ".." ∉ (draftTarget draft file).parts) :
    IsFilling start (tree.fillFile circumstances draft file).tree draft := by
  have made := filling.makeDirectoriesIn circumstances plain
  refine Change.next_induction (motive := fun tree => IsFilling start tree draft) made ?_
  rcases Change.tree_ofStep _ (draftTarget draft file) _ with same | success
  · rw [same]
    exact made
  · exact made.overwrite plain (eq_ok_of_attempt success)

/-! ## What a filled draft holds -/

/-- Making directories on the way to a place adds the directories above it. -/
theorem node?_makeDirectoriesIn_eq_directory_iff {parts rest : List String}
    (grounded : tree.IsGrounded) (plain : ".." ∉ draft ++ parts)
    (accepted : (tree.makeDirectoriesIn circumstances ⟨.slash, draft ++ parts⟩).error = none) :
    (tree.makeDirectoriesIn circumstances ⟨.slash, draft ++ parts⟩).tree.node? (draft ++ rest) =
        some .directory ↔
      tree.node? (draft ++ rest) = some .directory ∨ rest <+: parts := by
  have grown := growsTo_makeDirectoriesIn circumstances tree ⟨.slash, draft ++ parts⟩
  constructor
  · intro present
    rcases grown.growsAt (draft ++ rest) with same | ⟨_, _, _, onTheWay⟩
    · exact Or.inl (same ▸ present)
    · have inside := prefix_of_isOnTheWay plain onTheWay
      exact Or.inr ((List.prefix_append_right_inj draft).mp inside)
  · rintro (present | above)
    · exact isDirectoryAt_iff.mp (grown.isDirectoryAt (isDirectoryAt_iff.mpr present))
    · have made := isDirectoryAt_iff.mpr
        (walk_and_node?_of_find (find_makeDirectoriesIn accepted)).2
      rw [resolve_of_slash _ plain] at made
      have groundedMade := grounded.makeDirectoriesIn circumstances ⟨.slash, draft ++ parts⟩
      exact isDirectoryAt_iff.mp (groundedMade.isDirectoryAt_of_above made
        ((List.prefix_append_right_inj draft).mpr above))

/-- Making directories on the way to a place leaves the files. -/
theorem node?_makeDirectoriesIn_eq_file_iff {bytes : List UInt8} :
    (tree.makeDirectoriesIn circumstances path).tree.node? place = some (.file bytes) ↔
      tree.node? place = some (.file bytes) := by
  rcases (growsTo_makeDirectoriesIn circumstances tree path).growsAt place with
    same | ⟨free, node, present, isNew, _⟩
  · rw [same]
  · simp [free, present, isNew]

/-- A file that is put below directories is added to what they hold. -/
theorem holdsExactly_put {done : List (String × String)}
    (files : ∀ rest bytes, tree.node? (draft ++ rest) = some (.file bytes) ↔
      IsFileOf done rest bytes)
    (directories : ∀ rest, tree.node? (draft ++ rest) = some .directory ↔ IsDirectoryOf done rest ∨
      rest <+: Path.partsOfString file.1 ∧ rest ≠ Path.partsOfString file.1)
    (noDirectory : tree.isDirectoryAt (draft ++ Path.partsOfString file.1) = false)
    (fresh : Path.partsOfString file.1 ∉ done.map fun file => Path.partsOfString file.1) :
    (tree.put (draft ++ Path.partsOfString file.1)
      (.file (Text.encode file.2))).HoldsExactly draft (done ++ [file]) := by
  have outside := not_above_of_isDirectoryAt_eq_false noDirectory
  have noDirectoryThere := mt isDirectoryAt_iff.mpr (Bool.eq_false_iff.mp noDirectory)
  refine ⟨fun rest bytes => ?_, fun rest => ?_⟩
  · rw [isFileOf_concat, node?_put outside]
    by_cases same : rest = Path.partsOfString file.1
    · subst same
      have absent : ¬ IsFileOf done (Path.partsOfString file.1) bytes := by
        rintro ⟨other, member, parts, _⟩
        exact fresh (List.mem_map.mpr ⟨other, member, parts⟩)
      simp [absent]
    · rw [if_neg fun equal => same (List.append_cancel_left equal), files]
      exact ⟨Or.inl, fun either => either.resolve_right fun written => same written.1.symm⟩
  · rw [isDirectoryOf_concat, ← directories, node?_put outside]
    by_cases same : rest = Path.partsOfString file.1
    · subst same
      simp [noDirectoryThere]
    · rw [if_neg fun equal => same (List.append_cancel_left equal)]

/-- A file that was written into a draft is added to what the draft holds. -/
theorem HoldsExactly.fillFile {done : List (String × String)} (holds : tree.HoldsExactly draft done)
    (filling : IsFilling start tree draft) (plain : ".." ∉ (draftTarget draft file).parts)
    (fresh : Path.partsOfString file.1 ∉ done.map fun file => Path.partsOfString file.1)
    (accepted : (tree.fillFile circumstances draft file).error = none) :
    (tree.fillFile circumstances draft file).tree.HoldsExactly draft (done ++ [file]) := by
  rw [FileTree.fillFile] at accepted ⊢
  have provided := Change.error_eq_none_of_next accepted
  rw [Change.next_of_error_eq_none provided] at accepted ⊢
  have made := filling.makeDirectoriesIn circumstances plain
  have success := eq_ok_of_attempt (Change.eq_ok_of_ofStep accepted)
  obtain ⟨parent, name, reached, _, noDirectory, written⟩ :=
    exists_of_overwrite_draftTarget plain success
  rw [← reached] at noDirectory written
  have proper : Path.partsOfString file.1 ≠ [] := by
    intro empty
    rw [empty, List.append_nil, made.isDirectory] at noDirectory
    cases noDirectory
  have parentParts : (draftTarget draft file).parent =
      ⟨.slash, draft ++ (Path.partsOfString file.1).dropLast⟩ := by
    rw [draftTarget, Path.parent, List.dropLast_append_of_ne_nil proper]
  have plainParent : ".." ∉ draft ++ (Path.partsOfString file.1).dropLast := by
    rw [← List.dropLast_append_of_ne_nil proper]
    exact fun member => plain (List.mem_of_mem_dropLast member)
  rw [written]
  refine holdsExactly_put (fun rest bytes => ?_) (fun rest => ?_) noDirectory fresh
  · rw [node?_makeDirectoriesIn_eq_file_iff, holds.file_iff]
  · rw [← prefix_dropLast_iff proper, ← holds.directory_iff]
    rw [parentParts] at provided ⊢
    exact node?_makeDirectoriesIn_eq_directory_iff filling.grounded plainParent provided

end

/-! ## Filling a whole draft -/

/-- Filling a draft changes nothing outside the draft, and only a draft that was filled without
refusal holds exactly the files. -/
theorem fillDraft_spec {files : List (String × String)} (filling : IsFilling start tree draft)
    (circumstances : Circumstances) (done : List (String × String))
    (plain : ∀ file ∈ files, ".." ∉ (draftTarget draft file).parts) :
    IsFilling start (tree.fillDraft circumstances draft files).tree draft ∧
      (tree.HoldsExactly draft done →
        ((done ++ files).map fun file => Path.partsOfString file.1).Nodup →
        (tree.fillDraft circumstances draft files).error = none →
        (tree.fillDraft circumstances draft files).tree.HoldsExactly draft (done ++ files)) := by
  induction files generalizing tree done with
  | nil =>
      refine ⟨filling, fun holds _ _ => ?_⟩
      rw [List.append_nil]
      exact holds
  | cons file rest ih =>
      have plainFile := plain file List.mem_cons_self
      have plainRest := fun other member => plain other (List.mem_cons_of_mem file member)
      have filled := filling.fillFile circumstances plainFile
      refine ⟨Change.next_induction (motive := fun tree => IsFilling start tree draft) filled
        (ih filled done plainRest).1, fun holds distinct accepted => ?_⟩
      have first := Change.error_eq_none_of_next accepted
      rw [fillDraft, Change.next_of_error_eq_none first] at accepted ⊢
      have fresh : Path.partsOfString file.1 ∉ done.map fun file => Path.partsOfString file.1 := by
        rw [List.map_append, List.map_cons] at distinct
        exact fun member => (List.nodup_append.mp distinct).2.2 _ member _ List.mem_cons_self rfl
      have holdsFirst := holds.fillFile filling plainFile fresh first
      rw [List.append_cons] at distinct ⊢
      exact (ih filled (done ++ [file]) plainRest).2 holdsFirst distinct accepted

end HomeCatalog.FileTree
