import HomeCatalog.Proofs.Entries
import HomeCatalog.Proofs.Text.Trimming

/-!
# Words

A word is made up of letters, numbers and underscores.  No such character is white space, and
lower-casing one never makes white space or a quote of it.  Nor does changing its case ever make a
slash, a dot, a line feed or a star of it.
-/

namespace HomeCatalog.Text

/-! ## Tables -/

/-- Whether two tables of ranges have nothing in common, range by range. -/
def areApart (left right : List (Nat × Nat)) : Bool :=
  left.all fun one => right.all fun other => one.2 < other.1 || other.2 < one.1

/-- A code point is covered by at most one of two tables that have nothing in common. -/
theorem covers_eq_false_of_areApart {left right : List (Nat × Nat)}
    (apart : areApart left right = true) {point : Nat} (covered : covers left point = true) :
    covers right point = false := by
  by_contra both
  obtain ⟨one, inLeft, low, high⟩ := exists_range_of_covers covered
  obtain ⟨other, inRight, otherLow, otherHigh⟩ := exists_range_of_covers (by simpa using both)
  have disjoint := List.all_eq_true.mp (List.all_eq_true.mp apart one inLeft) other inRight
  simp only [Bool.or_eq_true, decide_eq_true_eq] at disjoint
  omega

theorem areApart_of_subset {left right part : List (Nat × Nat)}
    (apart : areApart left right = true) (subset : part ⊆ right) : areApart left part = true := by
  rw [areApart, List.all_eq_true] at apart ⊢
  intro one inLeft
  have disjoint := List.all_eq_true.mp (apart one inLeft)
  exact List.all_eq_true.mpr fun other inPart => disjoint other (subset inPart)

/-- The code points to which a table of shifts leads. -/
def imagesOf (table : List Shift) : List (Nat × Nat) :=
  table.map fun shift =>
    ((shift.run.first + shift.distance).toNat, (shift.run.last + shift.distance).toNat)

/-- The code points of white space, and of the marks that texts and paths are built with. -/
def markRanges : List (Nat × Nat) :=
  blankRanges ++ [('\n'.toNat, '\n'.toNat), ('"'.toNat, '"'.toNat), ('*'.toNat, '*'.toNat),
    ('.'.toNat, '/'.toNat)]

/-- No letter or number is a mark, and no change of case makes one. -/
theorem areApart_markRanges :
    areApart alphanumericRanges markRanges = true ∧
      areApart (imagesOf lowerShifts) markRanges = true ∧
      areApart (imagesOf upperShifts) markRanges = true := by
  decide +kernel

/-- Letters, numbers and underscores are no marks. -/
theorem covers_of_isWordChar {ranges : List (Nat × Nat)} (marks : ranges ⊆ markRanges)
    (underscore : covers ranges '_'.toNat = false) {c : Char} (word : isWordChar c = true) :
    covers ranges c.toNat = false := by
  rw [isWordChar, Bool.or_eq_true] at word
  rcases word with alphanumeric | same
  · exact covers_eq_false_of_areApart (areApart_of_subset areApart_markRanges.1 marks) alphanumeric
  · rwa [eq_of_beq same]

/-- A letter, a number or an underscore is no white space. -/
theorem isBlank_of_isWordChar {c : Char} (word : isWordChar c = true) : isBlank c = false :=
  covers_of_isWordChar (List.subset_append_left _ _) (by decide) word

/-- A digit is a number. -/
theorem isWordChar_of_isDigit {c : Char} (digit : c.isDigit = true) : isWordChar c = true := by
  have isDigit : 48 ≤ c.toNat ∧ c.toNat ≤ 57 := by
    simpa [Char.isDigit, UInt32.le_iff_toNat_le] using digit
  have covered : ∀ value < 10, covers alphanumericRanges (48 + value) = true := by decide
  have alphanumeric := covered (c.toNat - 48) (by omega)
  rw [Nat.add_sub_of_le isDigit.1] at alphanumeric
  rw [isWordChar, isAlphanumeric, alphanumeric]
  rfl

/-- What changing case makes of a character: another one, a listed text, or the character itself. -/
theorem mapCase_cases (table : List Shift) (expansions : List (Char × List Char)) (c : Char) :
    (∃ image, shift? table c = some image ∧ mapCase table expansions c = [image]) ∨
      (∃ images, (c, images) ∈ expansions ∧ mapCase table expansions c = images) ∨
      mapCase table expansions c = [c] := by
  rw [mapCase]
  split
  · next image shifted => exact Or.inl ⟨image, shifted, rfl⟩
  · cases expanded : expansions.lookup c with
    | none => exact Or.inr (Or.inr rfl)
    | some images => exact Or.inr (Or.inl ⟨images, Entries.mem_of_lookup expanded, rfl⟩)

/-! ## Lower case -/

/-- Whether a character is neither white space nor a quote. -/
def isSolid (c : Char) : Bool :=
  !isBlank c && c != '"'

/-- The code points of all other characters. -/
def unsolidRanges : List (Nat × Nat) :=
  blankRanges ++ [('"'.toNat, '"'.toNat)]

theorem exists_range_of_not_isSolid {c : Char} (unsolid : isSolid c = false) :
    ∃ range ∈ unsolidRanges, range.1 ≤ c.toNat ∧ c.toNat ≤ range.2 := by
  rw [isSolid, Bool.and_eq_false_iff] at unsolid
  rcases unsolid with blank | mark
  · have covered : covers blankRanges c.toNat = true := by simpa [isBlank] using blank
    obtain ⟨range, member, bounds⟩ := exists_range_of_covers covered
    exact ⟨range, List.mem_append_left _ member, bounds⟩
  · have same : c = '"' := by simpa using mark
    subst same
    exact ⟨('"'.toNat, '"'.toNat), List.mem_append_right _ (by simp), le_rfl, le_rfl⟩

theorem toNat_ofNat_of_isValidChar {point : Nat} (valid : point.isValidChar) :
    (Char.ofNat point).toNat = point := by
  rw [Char.ofNat, dif_pos valid]
  rfl

theorem toNat_ofNat (point : Nat) :
    (Char.ofNat point).toNat = point ∨ (Char.ofNat point).toNat = 0 := by
  by_cases valid : point.isValidChar
  · exact Or.inl (toNat_ofNat_of_isValidChar valid)
  · right
    simp [Char.ofNat, valid, Char.toNat]

/-- A table of shifts leads to the characters of its own code points. -/
theorem exists_of_shift? {table : List Shift} {c image : Char}
    (shifted : shift? table c = some image) :
    ∃ range ∈ imagesOf table, ∃ point, range.1 ≤ point ∧ point ≤ range.2 ∧
      image = Char.ofNat point := by
  obtain ⟨shift, found, rfl⟩ := Option.map_eq_some_iff.mp shifted
  obtain ⟨member, contained⟩ := mem_of_findRun found
  simp only [Run.contains, Bool.and_eq_true, decide_eq_true_eq] at contained
  obtain ⟨⟨low, high⟩, _⟩ := contained
  exact ⟨_, List.mem_map_of_mem member, _, by dsimp only; omega, by dsimp only; omega, rfl⟩

/-- A table of shifts leads to none of some code points if its own are apart from them. -/
theorem avoids_of_shift? {table : List Shift} {ranges : List (Nat × Nat)} {c image : Char}
    (apart : areApart (imagesOf table) ranges = true) (positive : ∀ range ∈ ranges, 0 < range.1)
    (shifted : shift? table c = some image) :
    ∀ range ∈ ranges, image.toNat < range.1 ∨ range.2 < image.toNat := by
  obtain ⟨images, inTable, point, low, high, rfl⟩ := exists_of_shift? shifted
  intro range inRanges
  have disjoint := List.all_eq_true.mp (List.all_eq_true.mp apart _ inTable) range inRanges
  simp only [Bool.or_eq_true, decide_eq_true_eq] at disjoint
  have inImage := toNat_ofNat point
  have nonzero := positive range inRanges
  omega

/-- A table of shifts leads to solid characters if its code points are apart from all others. -/
theorem isSolid_of_shift? {table : List Shift} {c image : Char}
    (apart : areApart (imagesOf table) unsolidRanges = true)
    (shifted : shift? table c = some image) : isSolid image = true := by
  by_contra unsolid
  obtain ⟨range, inRanges, above, below⟩ := exists_range_of_not_isSolid (by simpa using unsolid)
  have avoided := avoids_of_shift? apart (by decide) shifted range inRanges
  omega

/-- Lower-casing a solid character gives solid characters, and at least one. -/
theorem isSolid_lowerChar {c : Char} (solid : isSolid c = true) :
    lowerChar c ≠ [] ∧ ∀ d ∈ lowerChar c, isSolid d = true := by
  rcases mapCase_cases lowerShifts lowerExpansions c with
    ⟨image, shifted, lowered⟩ | ⟨images, listed, lowered⟩ | lowered <;> rw [lowerChar, lowered]
  · have apart : areApart (imagesOf lowerShifts) unsolidRanges = true :=
      areApart_of_subset areApart_markRanges.2.1 (by decide)
    simpa using isSolid_of_shift? apart shifted
  · have sound : ∀ entry ∈ lowerExpansions, entry.2 ≠ [] ∧
        entry.2.all isSolid = true := by decide
    obtain ⟨filled, solidImages⟩ := sound (c, images) listed
    exact ⟨filled, List.all_eq_true.mp solidImages⟩
  · simpa using solid

/-! ## Upper case -/

/-- Whether a character separates neither directories nor the suffix of a file name. -/
def isStemChar (c : Char) : Bool :=
  c != '/' && c != '.'

/-- The code points of the other characters. -/
def separatorRanges : List (Nat × Nat) :=
  [('.'.toNat, '/'.toNat)]

theorem isStemChar_iff {c : Char} :
    isStemChar c = true ↔ covers separatorRanges c.toNat = false := by
  have slash : '/'.toNat = 47 := rfl
  have dot : '.'.toNat = 46 := rfl
  simp only [isStemChar, separatorRanges, covers, ← Char.toNat_inj, bne_iff_ne, Bool.and_eq_true,
    ne_eq, slash, dot]
  split <;> simp <;> omega

theorem isStemChar_of_isWordChar {c : Char} (word : isWordChar c = true) :
    isStemChar c = true :=
  isStemChar_iff.mpr (covers_of_isWordChar (by decide) (by decide) word)

/-- Changing case leads to none of some code points if neither the shifts nor the expansions do. -/
theorem covers_mapCase {table : List Shift} {expansions : List (Char × List Char)}
    {ranges : List (Nat × Nat)} (apart : areApart (imagesOf table) ranges = true)
    (positive : ∀ range ∈ ranges, 0 < range.1)
    (expanded : (expansions.all fun entry => entry.2.all fun d => !covers ranges d.toNat) = true)
    {c : Char} (outside : covers ranges c.toNat = false) :
    ∀ d ∈ mapCase table expansions c, covers ranges d.toNat = false := by
  rcases mapCase_cases table expansions c with
    ⟨image, shifted, changed⟩ | ⟨images, listed, changed⟩ | changed <;> rw [changed]
  · rw [List.forall_mem_singleton]
    by_contra covered
    obtain ⟨range, member, low, high⟩ := exists_range_of_covers (by simpa using covered)
    have avoided := avoids_of_shift? apart positive shifted range member
    omega
  · simpa using List.all_eq_true.mp expanded (c, images) listed
  · simpa using outside

/-- Upper-casing a letter or a number makes no separator. -/
theorem isStemChar_upperChar {c : Char} (word : isWordChar c = true) :
    ∀ d ∈ upperChar c, isStemChar d = true := by
  simp only [isStemChar_iff]
  exact covers_mapCase (areApart_of_subset areApart_markRanges.2.2 (by decide)) (by decide)
    (by decide) (isStemChar_iff.mp (isStemChar_of_isWordChar word))

/-! ## The character that ends names -/

/-- The code points of the characters that end lines, or open and close comments. -/
def loudRanges : List (Nat × Nat) :=
  [('\n'.toNat, '\n'.toNat), ('*'.toNat, '*'.toNat)]

/-- Whether a character is none of those. -/
def isQuiet (c : Char) : Bool :=
  !covers loudRanges c.toNat

theorem isQuiet_of_isWordChar {c : Char} (word : isWordChar c = true) : isQuiet c = true := by
  rw [isQuiet, covers_of_isWordChar (by decide) (by decide) word]
  rfl

/-- Changing the case of a letter or a number makes no line feed and no star. -/
theorem isQuiet_upperChar {c : Char} (word : isWordChar c = true) :
    ∀ d ∈ upperChar c, isQuiet d = true := by
  have quiet := isQuiet_of_isWordChar word
  simp only [isQuiet, Bool.not_eq_true'] at quiet ⊢
  exact covers_mapCase (areApart_of_subset areApart_markRanges.2.2 (by decide)) (by decide)
    (by decide) quiet

theorem isQuiet_lowerChar {c : Char} (word : isWordChar c = true) :
    ∀ d ∈ lowerChar c, isQuiet d = true := by
  have quiet := isQuiet_of_isWordChar word
  simp only [isQuiet, Bool.not_eq_true'] at quiet ⊢
  exact covers_mapCase (areApart_of_subset areApart_markRanges.2.1 (by decide)) (by decide)
    (by decide) quiet

theorem isQuiet_lowerHead {cs : List Char} (word : ∀ c ∈ cs, isWordChar c = true) :
    ∀ c ∈ lowerHead cs, isQuiet c = true := by
  cases cs with
  | nil => simp [lowerHead]
  | cons first rest =>
      rw [lowerHead, List.forall_mem_append]
      constructor
      · exact isQuiet_lowerChar (word first List.mem_cons_self)
      · exact fun c member => isQuiet_of_isWordChar (word c (List.mem_cons_of_mem _ member))

/-! ## Words -/

/-- Whether a text is not empty and made up of solid characters. -/
structure IsSolidText (cs : List Char) : Prop where
  filled : cs ≠ []
  solid : ∀ c ∈ cs, isSolid c = true

/-- Whether a text is not empty and made up of letters, numbers and underscores. -/
structure IsWord (cs : List Char) : Prop where
  filled : cs ≠ []
  chars : ∀ c ∈ cs, isWordChar c = true

theorem IsWord.isSolidText {cs : List Char} (word : IsWord cs) : IsSolidText cs := by
  constructor
  · exact word.filled
  · intro c member
    have isWordChar_c := word.chars c member
    have unmarked : c ≠ '"' := by
      rintro rfl
      exact absurd isWordChar_c (by decide)
    simp [isSolid, isBlank_of_isWordChar isWordChar_c, unmarked]

theorem IsWord.append {left right : List Char} (leftWord : IsWord left) (rightWord : IsWord right) :
    IsWord (left ++ right) :=
  ⟨by simp [leftWord.filled], List.forall_mem_append.mpr ⟨leftWord.chars, rightWord.chars⟩⟩

/-- Lower-casing the first character keeps a text solid. -/
theorem isSolidText_lowerHead {cs : List Char} (solid : IsSolidText cs) :
    IsSolidText (lowerHead cs) := by
  cases cs with
  | nil => exact absurd rfl solid.filled
  | cons first rest =>
      obtain ⟨filled, image⟩ := isSolid_lowerChar (solid.solid first (by simp))
      refine ⟨by simp [lowerHead, filled], ?_⟩
      rw [lowerHead, List.forall_mem_append]
      exact ⟨image, fun c member => solid.solid c (List.mem_cons_of_mem _ member)⟩

theorem IsSolidText.isTrimmed {cs : List Char} (solid : IsSolidText cs) : IsTrimmed cs := by
  have ends : ∀ c ∈ cs, isBlank c = false := by
    intro c member
    have isSolid_c := solid.solid c member
    rw [isSolid, Bool.and_eq_true] at isSolid_c
    simpa using isSolid_c.1
  apply isTrimmed_of_ends
  · exact fun c first => ends c (List.mem_of_mem_head? first)
  · exact fun c last => ends c (List.mem_of_mem_getLast? last)

theorem IsSolidText.absent {cs : List Char} (solid : IsSolidText cs) {c : Char}
    (unsolid : isSolid c = false) : c ∉ cs := by
  intro member
  rw [solid.solid c member] at unsolid
  cases unsolid

end HomeCatalog.Text
