import HomeCatalog.Proofs.Text.Capitals
import Mathlib.Data.List.Infix

/-!
# Small letters

Lower-casing may lengthen a text, and what becomes of a sigma depends on its neighbours.  The basic
Latin letters are out of reach of both.  But for k, to which the Kelvin sign is lower-cased too, the
small form of such a letter comes from the letter and its capital alone.  So a text ends in a word
of such letters, in whatever letter case, exactly if its lower-case form ends in that of the word.
-/

namespace HomeCatalog.Text

/-! ## Letters -/

/-- The code points of the basic Latin letters without k. -/
def plainLetterRanges : List (Nat × Nat) :=
  [('A'.toNat, 'J'.toNat), ('L'.toNat, 'Z'.toNat), ('a'.toNat, 'j'.toNat), ('l'.toNat, 'z'.toNat)]

/-- Whether a character is a basic Latin letter and no k. -/
def isPlainLetter (c : Char) : Bool :=
  covers plainLetterRanges c.toNat

theorem lt_of_isPlainLetter {c : Char} (plain : isPlainLetter c = true) : c.toNat < 128 := by
  have small : ∀ range ∈ plainLetterRanges, range.2 < 128 := by decide
  obtain ⟨range, member, _, high⟩ := exists_range_of_covers plain
  exact high.trans_lt (small range member)

theorem isWordChar_of_isPlainLetter {c : Char} (plain : isPlainLetter c = true) :
    isWordChar c = true := by
  have alphanumeric : ∀ range ∈ plainLetterRanges,
      coversBetween range.1 range.2 alphanumericRanges = true := by decide
  obtain ⟨range, member, low, high⟩ := exists_range_of_covers plain
  rw [isWordChar, isAlphanumeric, covers_of_coversBetween low high (alphanumeric range member)]
  rfl

/-- What holds of the first 128 code points holds of their characters. -/
theorem forall_of_lt {motive : Char → Prop} (every : ∀ point < 128, motive (Char.ofNat point))
    {c : Char} (basic : c.toNat < 128) : motive c := by
  have holds := every c.toNat basic
  rwa [Char.ofNat_toNat] at holds

/-- Lower-casing changes the case of basic Latin letters as usual. -/
theorem lowerChar_of_lt {c : Char} (basic : c.toNat < 128) : lowerChar c = [c.toLower] :=
  forall_of_lt (motive := fun c => lowerChar c = [c.toLower]) (by decide +kernel) basic

theorem toLower_of_le {c : Char} (foreign : 128 ≤ c.toNat) : c.toLower = c := by
  have beyond : 'Z'.val.toNat < c.val.toNat := lt_of_lt_of_le (by decide) foreign
  apply dif_neg
  rintro ⟨_, high⟩
  exact absurd (UInt32.le_iff_toNat_le.mp high) (Nat.not_le.mpr beyond)

/-- Both cases of a plain letter are plain letters. -/
@[simp] theorem isPlainLetter_toLower (c : Char) : isPlainLetter c.toLower = isPlainLetter c := by
  rcases Nat.lt_or_ge c.toNat 128 with basic | foreign
  · exact forall_of_lt (motive := fun c => isPlainLetter c.toLower = isPlainLetter c)
      (by decide +kernel) basic
  · rw [toLower_of_le foreign]

theorem lowerChar_ne_nil (c : Char) : lowerChar c ≠ [] := by
  rcases mapCase_cases lowerShifts lowerExpansions c with
    ⟨image, _, lowered⟩ | ⟨images, listed, lowered⟩ | lowered <;> rw [lowerChar, lowered]
  · exact List.cons_ne_nil _ _
  · have filled : ∀ entry ∈ lowerExpansions, entry.2 ≠ [] := by decide
    exact filled (c, images) listed
  · exact List.cons_ne_nil _ _

/-- Beyond the first 128 characters no character is lower-cased to a single plain letter. -/
theorem isPlainLetter_of_shift? {c image : Char} (foreign : 128 ≤ c.toNat)
    (shifted : shift? lowerShifts c = some image) : isPlainLetter image = false := by
  have others : lowerShifts = ⟨⟨0x41, 0x5A, 1⟩, 32⟩ :: lowerShifts.tail := rfl
  have apart : areApart (imagesOf lowerShifts.tail) plainLetterRanges = true := by decide +kernel
  rw [others, shift?, findRun, if_neg (by dsimp only; omega)] at shifted
  by_contra plain
  rw [Bool.not_eq_false] at plain
  obtain ⟨range, member, low, high⟩ := exists_range_of_covers plain
  have avoided := avoids_of_shift? apart (by decide) shifted range member
  omega

/-- Beyond the first 128 characters no character is lower-cased to a text that ends in a plain
letter. -/
theorem isPlainLetter_last_lowerChar {c d : Char} (foreign : 128 ≤ c.toNat)
    (last : d ∈ (lowerChar c).getLast?) : isPlainLetter d = false := by
  rcases mapCase_cases lowerShifts lowerExpansions c with
    ⟨image, shifted, lowered⟩ | ⟨images, listed, lowered⟩ | lowered <;>
      rw [lowerChar, lowered] at last
  · obtain rfl := Option.mem_some_iff.mp last
    exact isPlainLetter_of_shift? foreign shifted
  · -- A dotted capital I is lower-cased to two characters, of which the last is the dot.
    have dotted : ∀ entry ∈ lowerExpansions,
        (entry.2.getLast?.all fun last => !isPlainLetter last) = true := by decide
    have ends := dotted (c, images) listed
    rw [Option.mem_def.mp last, Option.all_some, Bool.not_eq_true'] at ends
    exact ends
  · obtain rfl := Option.mem_some_iff.mp last
    by_contra plain
    rw [Bool.not_eq_false] at plain
    exact absurd (lt_of_isPlainLetter plain) (Nat.not_lt.mpr foreign)

/-! ## Texts -/

/-- What a character is lower-cased to is not empty, and if it ends in a plain letter, it is that
letter alone. -/
theorem exists_lowerAfter_cons (before : List Char) (c : Char) (rest : List Char) :
    ∃ piece, lowerAfter before (c :: rest) = piece ++ lowerAfter (c :: before) rest ∧
      piece ≠ [] ∧ ∀ d ∈ piece.getLast?, isPlainLetter d = true → piece = [c.toLower] := by
  refine ⟨_, rfl, ?_⟩
  split
  · refine ⟨List.cons_ne_nil _ _, ?_⟩
    intro d last plain
    have sigma : d = 'ς' ∨ d = 'σ' := by
      rw [List.getLast?_singleton, Option.mem_some_iff] at last
      rw [← last, finalOrMedialSigma]
      split
      · exact Or.inl rfl
      · exact Or.inr rfl
    rcases sigma with rfl | rfl <;> exact absurd plain (by decide)
  · refine ⟨lowerChar_ne_nil c, ?_⟩
    intro d last plain
    rcases Nat.lt_or_ge c.toNat 128 with basic | foreign
    · exact lowerChar_of_lt basic
    · rw [isPlainLetter_last_lowerChar foreign last] at plain
      cases plain

/-- A text that is lower-cased to plain letters is made up of them. -/
theorem lowerAfter_eq_map_of_image {before cs : List Char}
    (plain : ∀ d ∈ lowerAfter before cs, isPlainLetter d = true) :
    lowerAfter before cs = cs.map Char.toLower := by
  induction cs generalizing before with
  | nil => rfl
  | cons c rest ih =>
      obtain ⟨piece, lowered, filled, single⟩ := exists_lowerAfter_cons before c rest
      rw [lowered, List.forall_mem_append] at plain
      have last := List.getLast?_eq_some_getLast filled
      rw [lowered, ih plain.2, single _ last (plain.1 _ (List.getLast_mem filled))]
      rfl

/-- Plain letters are lower-cased one by one. -/
theorem lowerAfter_eq_map {before cs : List Char} (plain : ∀ c ∈ cs, isPlainLetter c = true) :
    lowerAfter before cs = cs.map Char.toLower := by
  induction cs generalizing before with
  | nil => rfl
  | cons c rest ih =>
      rw [List.forall_mem_cons] at plain
      have noSigma : c ≠ 'Σ' := by
        rintro rfl
        exact absurd plain.1 (by decide)
      rw [lowerAfter, if_neg noSigma, lowerChar_of_lt (lt_of_isPlainLetter plain.1), ih plain.2]
      rfl

/-- The end of a text is lower-cased to the end of its lower-case form. -/
theorem isSuffix_lowerAfter_append (before left right : List Char) :
    lowerAfter (left.reverse ++ before) right <:+ lowerAfter before (left ++ right) := by
  induction left generalizing before with
  | nil => exact List.suffix_rfl
  | cons c rest ih =>
      have ends := ih (c :: before)
      rw [List.reverse_cons, List.append_assoc]
      exact ends.trans (List.suffix_append _ _)

/-- If a text is lower-cased to one that ends in plain letters, then so many of its last letters are
lower-cased to them. -/
theorem exists_isSuffix_of_lowerAfter {before cs word : List Char}
    (plain : ∀ d ∈ word, isPlainLetter d = true) (ends : word <:+ lowerAfter before cs) :
    ∃ ending, ending <:+ cs ∧ ending.map Char.toLower = word := by
  induction cs generalizing before with
  | nil => exact ⟨[], List.suffix_rfl, (List.suffix_nil.mp ends).symm⟩
  | cons c rest ih =>
      obtain ⟨piece, lowered, _, single⟩ := exists_lowerAfter_cons before c rest
      rw [lowered] at ends
      rcases List.suffix_or_suffix_of_suffix ends (List.suffix_append _ _) with inside | beyond
      · obtain ⟨ending, isSuffix, same⟩ := ih inside
        exact ⟨ending, isSuffix.trans (List.suffix_cons _ _), same⟩
      · -- The word starts within what the first character is lower-cased to, which is one letter.
        obtain ⟨front, rfl⟩ := beyond
        rw [List.suffix_append_self_iff] at ends
        rw [List.forall_mem_append] at plain
        have others := lowerAfter_eq_map_of_image plain.2
        rcases List.eq_nil_or_concat front with rfl | ⟨start, d, rfl⟩
        · exact ⟨rest, List.suffix_cons _ _, others.symm⟩
        · obtain ⟨skipped, rfl⟩ := ends
          have alone := single d (by simp) (plain.1 d (by simp))
          obtain ⟨rfl, start, small⟩ : skipped = [] ∧ start = [] ∧ d = c.toLower := by
            simpa [List.append_eq_singleton_iff] using alone
          refine ⟨c :: rest, List.suffix_rfl, ?_⟩
          rw [List.map_cons, others, start, small]
          rfl

/-- A text ends in a word of plain letters, in whatever letter case, exactly if its lower-case form
ends in that of the word. -/
theorem isSuffixOf_lower_iff {word cs : List Char} (plain : ∀ c ∈ word, isPlainLetter c = true) :
    (lower word).isSuffixOf (lower cs) = true ↔
      ∃ ending, ending <:+ cs ∧ ending.map Char.toLower = word.map Char.toLower := by
  have plainImage : ∀ d ∈ word.map Char.toLower, isPlainLetter d = true := by
    simpa using plain
  rw [List.isSuffixOf_iff_suffix, lower, lower, lowerAfter_eq_map plain]
  constructor
  · exact exists_isSuffix_of_lowerAfter plainImage
  · rintro ⟨ending, ⟨stem, rfl⟩, same⟩
    have plainEnding : ∀ c ∈ ending, isPlainLetter c = true := by
      rw [← same] at plainImage
      simpa using plainImage
    have ends := isSuffix_lowerAfter_append [] stem ending
    rwa [lowerAfter_eq_map plainEnding, same] at ends

end HomeCatalog.Text
