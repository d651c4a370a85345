import HomeCatalog.Proofs.Files.Walking

/-!
# What a write adds to a tree

Before a write changes anything it only adds: the missing directories on its way, and something
under a hidden name.  A tree grows if whatever lay in it stays as it was.
-/

namespace HomeCatalog.FileTree

variable {before after tree made : FileTree} {path directory : Path} {place : List String}
  {name : String} {node : Node} {circumstances : Circumstances}

/-! ## Growing -/

/-- Whether a place is as it was, or new and allowed to be. -/
def GrowsAt (before after : FileTree) (mayBeNew : List String → Node → Prop)
    (place : List String) : Prop :=
  after.node? place = before.node? place ∨
    before.node? place = none ∧ ∃ node, after.node? place = some node ∧ mayBeNew place node

/-- Whether nothing in a tree has changed except for what is new. -/
structure GrowsTo (before after : FileTree) (mayBeNew : List String → Node → Prop) : Prop where
  home : after.home = before.home
  growsAt : ∀ place, before.GrowsAt after mayBeNew place

section

variable {mayBeNew : List String → Node → Prop}

theorem GrowsAt.of_eq (same : after.node? place = before.node? place) :
    before.GrowsAt after mayBeNew place :=
  Or.inl same

theorem GrowsAt.trans {last : FileTree} (first : before.GrowsAt after mayBeNew place)
    (second : after.GrowsAt last mayBeNew place) : before.GrowsAt last mayBeNew place := by
  rcases second with same | ⟨freeAfter, new⟩
  · rcases first with same' | ⟨free, new⟩
    · exact Or.inl (same.trans same')
    · exact Or.inr ⟨free, by rwa [same]⟩
  · rcases first with same | ⟨_, node, taken, _⟩
    · exact Or.inr ⟨same ▸ freeAfter, new⟩
    · rw [taken] at freeAfter
      cases freeAfter

theorem GrowsAt.mono {mayBeNewToo : List String → Node → Prop}
    (grows : before.GrowsAt after mayBeNew place)
    (wider : ∀ node, mayBeNew place node → mayBeNewToo place node) :
    before.GrowsAt after mayBeNewToo place := by
  rcases grows with same | ⟨free, node, taken, new⟩
  · exact Or.inl same
  · exact Or.inr ⟨free, node, taken, wider node new⟩

/-- Whatever lay at a place still lies there. -/
theorem GrowsAt.node?_eq_some (grows : before.GrowsAt after mayBeNew place)
    (present : before.node? place = some node) : after.node? place = some node := by
  rcases grows with same | ⟨free, _⟩
  · rw [same, present]
  · rw [present] at free
    cases free

theorem GrowsTo.refl (tree : FileTree) : tree.GrowsTo tree mayBeNew :=
  ⟨rfl, fun _ => Or.inl rfl⟩

theorem GrowsTo.trans {last : FileTree} (first : before.GrowsTo after mayBeNew)
    (second : after.GrowsTo last mayBeNew) : before.GrowsTo last mayBeNew :=
  ⟨second.home.trans first.home, fun place => (first.growsAt place).trans (second.growsAt place)⟩

theorem GrowsTo.isDirectoryAt (grows : before.GrowsTo after mayBeNew)
    (isDirectory : before.isDirectoryAt place = true) : after.isDirectoryAt place = true :=
  isDirectoryAt_iff.mpr ((grows.growsAt place).node?_eq_some (isDirectoryAt_iff.mp isDirectory))

/-- Putting something at a free place lets a tree grow. -/
theorem growsTo_put (free : tree.node? place = none) (node : Node)
    (new : mayBeNew place node) :
    tree.GrowsTo (tree.put place node) mayBeNew := by
  refine ⟨rfl, fun other => ?_⟩
  have outside := not_above_of_node? free
  by_cases same : other = place
  · subst same
    exact Or.inr ⟨free, node, node?_put_self outside node, new⟩
  · exact Or.inl (node?_put_of_ne outside node same)

end

/-! ## Steps that may be refused -/

theorem eq_ok_of_attempt {α : Type} {operation : Operation} {result : Except Refusal α}
    {value : α} (success : circumstances.attempt operation result = .ok value) :
    result = .ok value := by
  rw [Circumstances.attempt] at success
  split at success
  · cases success
  · exact success

/-- A step that the tree allows is refused only by the file system itself. -/
theorem refusal?_of_attempt_ok {α : Type} {operation : Operation} {value : α} {refusal : Refusal}
    (refused : circumstances.attempt operation (.ok value) = .error refusal) :
    circumstances.refusal? operation = some refusal := by
  rw [Circumstances.attempt] at refused
  split at refused
  · next other found =>
      cases refused
      exact found
  · cases refused

/-- A question is answered with yes if something fitting was found. -/
theorem answer_eq_ok_true_iff {question : Node → Bool} {found : Except Refusal Node} :
    answer path question found = .ok true ↔ ∃ node, found = .ok node ∧ question node = true := by
  cases found with
  | ok node => simp [answer]
  | error refusal =>
      rw [answer]
      split <;> simp

/-- What a file system tells is so. -/
theorem find_of_findIn {operation : Operation}
    (found : tree.findIn circumstances operation path = .ok node) : tree.find path = .ok node := by
  rw [findIn] at found
  split at found
  · cases found
  · exact eq_ok_of_attempt found

theorem find_of_isDirectory (present : tree.isDirectory circumstances path = .ok true) :
    tree.find path = .ok .directory := by
  obtain ⟨node, found, isDirectory⟩ := answer_eq_ok_true_iff.mp present
  rw [find_of_findIn found, eq_of_beq isDirectory]

namespace Change

variable {change : Change} {step : FileTree → Change}

theorem next_of_error_eq_none (done : change.error = none) :
    change.next step = step change.tree := by
  rw [next, done]

theorem next_of_error_eq_some {error : FileError} (refused : change.error = some error) :
    change.next step = change := by
  rw [next, refused]

theorem error_eq_none_of_next (done : (change.next step).error = none) : change.error = none := by
  cases refused : change.error with
  | none => rfl
  | some error =>
      rw [next_of_error_eq_some refused, refused] at done
      cases done

/-- What holds after the first step and is kept by the second holds after both. -/
theorem next_induction {motive : FileTree → Prop} (first : motive change.tree)
    (second : motive (step change.tree).tree) : motive (change.next step).tree := by
  rw [next]
  split
  · exact second
  · exact first

end Change

/-! ## Making directories -/

theorem isEntry_of_makeDirectory (success : tree.makeDirectory circumstances path = .ok made) :
    ∃ parent name, tree.IsEntry path parent name ∧ tree.node? (parent ++ [name]) = none ∧
      made = tree.put (parent ++ [name]) .directory := by
  have success := eq_ok_of_attempt success
  cases created : tree.create path .directory with
  | error refusal =>
      rw [created] at success
      cases success
  | ok pair =>
      obtain ⟨grown, place⟩ := pair
      rw [created] at success
      cases success
      obtain ⟨parent, name, entry, rfl, free, rfl⟩ := isEntry_of_create created
      exact ⟨parent, name, entry, free, rfl⟩

theorem tree_acceptDirectory (circumstances : Circumstances) (tree : FileTree) (path : Path)
    (refusal : Refusal) : (tree.acceptDirectory circumstances path refusal).tree = tree := by
  rw [acceptDirectory]
  split <;> rfl

/-- Providing a directory makes it or changes nothing. -/
theorem tree_provideDirectory (circumstances : Circumstances) (tree : FileTree) (path : Path) :
    (tree.provideDirectory circumstances path).tree = tree ∨
      tree.makeDirectory circumstances path =
        .ok (tree.provideDirectory circumstances path).tree := by
  rw [provideDirectory]
  cases tree.makeDirectory circumstances path with
  | ok made => exact Or.inr rfl
  | error refusal =>
      refine Or.inl ?_
      split
      · next impossible => cases impossible
      · rfl
      · exact tree_acceptDirectory circumstances tree path _

/-- What a tree has is still so after missing directories were made, if every directory that is made
on the way keeps it so. -/
theorem makeDirectoriesWithin_induction {motive : FileTree → Prop} (depth : Nat) {path : Path}
    (step : ∀ tree made parts, parts <+: path.parts →
      tree.makeDirectory circumstances ⟨path.root, parts⟩ = .ok made → motive tree → motive made)
    (initial : motive tree) :
    motive (makeDirectoriesWithin circumstances depth tree path).tree := by
  have provided : ∀ tree, motive tree →
      motive (tree.provideDirectory circumstances path).tree := by
    intro tree holds
    rcases tree_provideDirectory circumstances tree path with same | success
    · rwa [same]
    · exact step tree _ path.parts List.prefix_rfl success holds
  induction depth generalizing tree path with
  | zero => exact provided tree initial
  | succ depth ih =>
      rw [makeDirectoriesWithin]
      split
      · have above : motive (makeDirectoriesWithin circumstances depth tree path.parent).tree := by
          have stepAbove : ∀ tree made parts, parts <+: path.parent.parts →
              tree.makeDirectory circumstances ⟨path.parent.root, parts⟩ = .ok made →
                motive tree → motive made :=
            fun tree made parts inside =>
              step tree made parts (inside.trans (List.dropLast_prefix path.parts))
          refine ih stepAbove initial fun tree holds => ?_
          rcases tree_provideDirectory circumstances tree path.parent with same | success
          · rwa [same]
          · exact stepAbove tree _ _ List.prefix_rfl success holds
        exact Change.next_induction above (provided _ above)
      · exact provided tree initial

/-- Whether something is a directory to which the first components of a path lead. -/
def IsOnTheWay (origin parts place : List String) (node : Node) : Prop :=
  node = .directory ∧ ∃ first, first <+: parts ∧ place = follow origin first

/-- Making directories only adds directories on the way. -/
theorem growsTo_makeDirectoriesIn (circumstances : Circumstances) (tree : FileTree)
    (path : Path) :
    tree.GrowsTo (tree.makeDirectoriesIn circumstances path).tree
      (IsOnTheWay (tree.start path) path.parts) := by
  refine makeDirectoriesWithin_induction (motive := fun later =>
    tree.GrowsTo later (IsOnTheWay (tree.start path) path.parts)) _ ?_ (GrowsTo.refl tree)
  intro later made parts inside success grown
  obtain ⟨parent, name, entry, free, rfl⟩ := isEntry_of_makeDirectory success
  refine grown.trans (growsTo_put free .directory ⟨rfl, parts, inside, ?_⟩)
  rw [← entry.resolve_eq, resolve, start_eq_of_home grown.home]
  rfl

theorem IsGrounded.makeDirectoriesIn (grounded : tree.IsGrounded)
    (circumstances : Circumstances) (path : Path) :
    (tree.makeDirectoriesIn circumstances path).tree.IsGrounded := by
  refine makeDirectoriesWithin_induction (motive := IsGrounded) _ ?_ grounded
  intro later made parts _ success grounded
  obtain ⟨parent, name, entry, free, rfl⟩ := isEntry_of_makeDirectory success
  exact grounded.put entry.inDirectory (isDirectoryAt_eq_false_of_node? free) .directory

/-- A directory that was made is found at its path. -/
theorem find_of_makeDirectory (success : tree.makeDirectory circumstances path = .ok made) :
    made.find path = .ok .directory := by
  obtain ⟨parent, name, entry, free, rfl⟩ := isEntry_of_makeDirectory success
  have grows : tree.GrowsTo (tree.put (parent ++ [name]) .directory) fun _ _ => True :=
    growsTo_put free .directory trivial
  exact entry.find grows.home
    (fun place anchored => grows.isDirectoryAt (anchored place List.prefix_rfl))
    (node?_put_self (not_above_of_node? free) .directory)

theorem find_provideDirectory
    (accepted : (tree.provideDirectory circumstances path).error = none) :
    (tree.provideDirectory circumstances path).tree.find path = .ok .directory := by
  rw [provideDirectory] at accepted ⊢
  split at accepted
  · next made success => exact find_of_makeDirectory success
  · cases accepted
  · rw [acceptDirectory] at accepted ⊢
    split at accepted
    · next present => exact find_of_isDirectory present
    · cases accepted
    · cases accepted

/-- Making directories leaves a directory at the path. -/
theorem find_makeDirectoriesIn
    (accepted : (tree.makeDirectoriesIn circumstances path).error = none) :
    (tree.makeDirectoriesIn circumstances path).tree.find path = .ok .directory := by
  rw [makeDirectoriesIn] at accepted ⊢
  cases depth : path.parts.length with
  | zero =>
      rw [depth] at accepted
      exact find_provideDirectory accepted
  | succ depth' =>
      rw [depth, makeDirectoriesWithin] at accepted
      rw [makeDirectoriesWithin]
      split at accepted
      · have done := Change.error_eq_none_of_next accepted
        rw [Change.next_of_error_eq_none done] at accepted ⊢
        exact find_provideDirectory accepted
      · exact find_provideDirectory accepted

/-! ## Places that are spelled out -/

theorem plain_append {left right : List String} (first : ".." ∉ left) (second : ".." ∉ right) :
    ".." ∉ left ++ right := by
  rw [List.mem_append, not_or]
  exact ⟨first, second⟩

theorem resolve_of_slash (tree : FileTree) {parts : List String} (plain : ".." ∉ parts) :
    tree.resolve ⟨.slash, parts⟩ = parts :=
  follow_of_plain [] plain

/-- Directories that are made on the way to a place are places above it. -/
theorem prefix_of_isOnTheWay {parts : List String} {node : Node} (plain : ".." ∉ parts)
    (onTheWay : IsOnTheWay [] parts place node) : place <+: parts := by
  obtain ⟨_, first, inside, rfl⟩ := onTheWay
  rw [follow_of_plain [] fun member => plain (inside.subset member)]
  exact inside

/-- The names above a place lead to the places strictly above it. -/
theorem prefix_dropLast_iff {parts rest : List String} (proper : parts ≠ []) :
    rest <+: parts.dropLast ↔ rest <+: parts ∧ rest ≠ parts := by
  have split := List.dropLast_concat_getLast proper
  constructor
  · intro above
    refine ⟨above.trans (List.dropLast_prefix parts), ?_⟩
    rintro rfl
    have length := above.length_le
    rw [List.length_dropLast] at length
    have filled := List.length_pos_of_ne_nil proper
    omega
  · rintro ⟨above, apart⟩
    rw [← split] at above
    rcases List.prefix_concat_iff.mp above with same | above
    · exact absurd (same.trans split) apart
    · exact above

/-! ## Hidden names -/

/-- Whether a name is left out when the visible entries of a directory are listed. -/
def IsHiddenName (name : String) : Prop :=
  name.toList.head? = some '.'

/-- Whether a place is that of a hidden entry of a directory, or lies below one. -/
def IsHiddenIn (directory place : List String) : Prop :=
  ∃ name rest, IsHiddenName name ∧ place = directory ++ name :: rest

theorem isHiddenName_draftName (name drawn : String) : IsHiddenName (draftName name drawn) := by
  simp [IsHiddenName, draftName]

theorem isHiddenName_stagingName (name drawn : String) :
    IsHiddenName (stagingName name drawn) := by
  simp [IsHiddenName, stagingName]

theorem isHiddenName_backupName (name drawn : String) :
    IsHiddenName (backupName name drawn) := by
  simp [IsHiddenName, backupName]

theorem ne_of_length_lt {hidden name : String} (longer : name.length < hidden.length) :
    hidden ≠ name :=
  fun same => absurd (congrArg String.length same) (Nat.ne_of_gt longer)

theorem stagingName_ne (name drawn : String) : stagingName name drawn ≠ name := by
  apply ne_of_length_lt
  simp only [stagingName, String.length_append]
  have dot : ".".length = 1 := by decide
  omega

theorem backupName_ne (name drawn : String) : backupName name drawn ≠ name := by
  apply ne_of_length_lt
  simp only [backupName, String.length_append]
  have dot : ".".length = 1 := by decide
  omega

theorem exists_of_createHidden {nameOf : Nat → String} {attempts index : Nat}
    (success : tree.createHidden directory nameOf node attempts index = .ok (made, place)) :
    ∃ index, tree.create (directory.child (nameOf index)) node = .ok (made, place) := by
  induction attempts generalizing index with
  | zero => cases success
  | succ attempts ih =>
      rw [createHidden] at success
      split at success
      · exact ih success
      · exact ⟨index, success⟩

/-- Something under a hidden name is new in its directory. -/
theorem isEntry_of_makeHidden {operation : Operation} {naming : String → String}
    (success : tree.makeHidden circumstances operation directory naming node = .ok (made, place)) :
    ∃ drawn, tree.IsEntry (directory.child (naming drawn)) (tree.resolve directory)
        (naming drawn) ∧
      place = tree.resolve directory ++ [naming drawn] ∧ tree.node? place = none ∧
        made = tree.put place node := by
  obtain ⟨index, created⟩ := exists_of_createHidden (eq_ok_of_attempt success)
  obtain ⟨parent, name, entry, rfl, free, rfl⟩ := isEntry_of_create created
  have named : naming (circumstances.draw index) = name := by
    have last := entry.isNamed
    rw [Path.name?, Path.child, List.getLast?_concat] at last
    exact Option.some.inj last
  have reached : parent = tree.resolve directory := by
    rw [entry.parent_eq_follow, Path.child, List.dropLast_concat]
    rfl
  subst reached
  refine ⟨circumstances.draw index, ?_, ?_, free, rfl⟩
  · rw [← named] at entry
    exact entry
  · rw [named]

end HomeCatalog.FileTree
