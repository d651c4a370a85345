import HomeCatalog.Metadata.Name
import HomeCatalog.Proofs.Text.Capitals
import HomeCatalog.Proofs.Text.Cutting

/-!
# Canonical names

Both sides of a look-up make canonical names, so what they make must not depend on how a description
is spaced, and a name that is made once must stay what it is.
-/

namespace HomeCatalog.Metadata

open Text

/-! ## Spacing -/

section

variable {α β : Type}

/-- Keep one of each run of spaces. -/
def collapse (isSpace : α → Bool) : List α → List α
  | [] => []
  | first :: rest =>
      if isSpace first && rest.head?.any isSpace then collapse isSpace rest
      else first :: collapse isSpace rest

theorem map_collapse (isSpace : β → Bool) (image : α → β) (items : List α) :
    (collapse (isSpace ∘ image) items).map image = collapse isSpace (items.map image) := by
  induction items with
  | nil => rfl
  | cons first rest ih =>
      have next : (rest.map image).head?.any isSpace = rest.head?.any (isSpace ∘ image) := by
        rw [List.head?_map, Option.any_map]
        rfl
      rw [List.map_cons, collapse, collapse, next, Function.comp_apply]
      split
      · exact ih
      · rw [List.map_cons, ih]

theorem getLast?_collapse (isSpace : α → Bool) (items : List α) :
    (collapse isSpace items).getLast? = items.getLast? := by
  induction items with
  | nil => rfl
  | cons first rest ih =>
      rw [collapse]
      split
      · next spaces =>
          cases rest with
          | nil => simp at spaces
          | cons second rest => rw [ih, List.getLast?_cons_cons]
      · rw [List.getLast?_cons, List.getLast?_cons, ih]

end

/-- Keep one of each run of spaces in a text. -/
abbrev collapseSpaces : List Char → List Char :=
  collapse (· == ' ')

theorem head?_collapseSpaces (cs : List Char) : (collapseSpaces cs).head? = cs.head? := by
  induction cs with
  | nil => rfl
  | cons first rest ih =>
      rw [collapseSpaces, collapse]
      split
      · next spaces =>
          cases rest with
          | nil => simp at spaces
          | cons second rest =>
              simp only [List.head?_cons, Option.any_some, Bool.and_eq_true, beq_iff_eq] at spaces
              rw [ih, List.head?_cons, List.head?_cons, spaces.1, spaces.2]
      · rfl

/-- Words that are empty leave nothing behind. -/
theorem exists_splitOn_collapseSpaces (cs : List Char) :
    ∃ word words others, splitOn ' ' cs = word :: words ∧
      splitOn ' ' (collapseSpaces cs) = word :: others ∧
      others.flatMap upperHead = words.flatMap upperHead := by
  induction cs with
  | nil => exact ⟨[], [], [], rfl, rfl, rfl⟩
  | cons first rest ih =>
      obtain ⟨word, words, others, whole, collapsed, same⟩ := ih
      rw [splitOn_cons, whole, collapseSpaces, collapse]
      by_cases spaces : (first == ' ' && rest.head?.any (· == ' ')) = true
      · rw [if_pos spaces]
        cases rest with
        | nil => simp at spaces
        | cons second rest =>
            simp only [List.head?_cons, Option.any_some, Bool.and_eq_true, beq_iff_eq] at spaces
            rw [splitOn_cons, if_pos spaces.2] at whole
            obtain ⟨rfl, rfl⟩ := List.cons.inj whole
            rw [if_pos spaces.1]
            exact ⟨[], [] :: _, others, rfl, collapsed, same⟩
      · rw [if_neg spaces, splitOn_cons, collapsed]
        split
        · exact ⟨[], word :: words, word :: others, rfl, rfl, by simp [same]⟩
        · exact ⟨first :: word, words, others, rfl, rfl, same⟩

/-- A description without white space at its ends, and with each run of spaces collapsed to one. -/
def tidied (description : Wide) : Wide :=
  let isMargin (point : CodePoint) := isBlank point.plain
  ⟨collapse (fun point => point.plain == ' ')
    ((description.points.dropWhile isMargin).rdropWhile isMargin)⟩

theorem plain_tidied (description : Wide) :
    (tidied description).plain = collapseSpaces (strip description.plain) := by
  have margins : strip description.plain =
      ((description.points.dropWhile (isBlank ∘ CodePoint.plain)).rdropWhile
        (isBlank ∘ CodePoint.plain)).map CodePoint.plain := by
    simp only [strip_eq_rdropWhile, Wide.plain, List.rdropWhile, List.dropWhile_map,
      ← List.map_reverse]
  rw [margins]
  exact map_collapse (· == ' ') CodePoint.plain _

/-- Collapsing spaces leaves a trimmed text trimmed. -/
theorem strip_collapseSpaces_strip (cs : List Char) :
    strip (collapseSpaces (strip cs)) = collapseSpaces (strip cs) := by
  have trimmed : IsTrimmed (collapseSpaces (strip cs)) := by
    apply isTrimmed_of_ends
    · rw [head?_collapseSpaces, head?_strip]
      intro c first
      simpa [isInk] using List.find?_some first
    · rw [getLast?_collapse, getLast?_strip]
      intro c last
      simpa [isInk] using List.find?_some last
  exact trimmed

/-! ## Names -/

theorem toList_canonicalName (description : String) :
    (canonicalName description).toList =
      ((splitOn ' ' (strip description.toList)).flatMap upperHead).filterMap nameChar? :=
  String.toList_ofList

/-- A canonical name is the same however its description is spaced. -/
theorem canonicalNameOf_tidied (description : Wide) :
    canonicalNameOf (tidied description) = canonicalNameOf description := by
  obtain ⟨word, words, others, whole, collapsed, same⟩ :=
    exists_splitOn_collapseSpaces (strip description.plain)
  apply String.toList_injective
  rw [canonicalNameOf, canonicalNameOf, toList_canonicalName, toList_canonicalName,
    String.toList_ofList, String.toList_ofList, plain_tidied, strip_collapseSpaces_strip, whole,
    collapsed, List.flatMap_cons, List.flatMap_cons, same]

theorem isWordChar_of_nameChar? {c d : Char} (kept : nameChar? c = some d) :
    isWordChar d = true := by
  rw [nameChar?] at kept
  split at kept
  · obtain rfl := Option.some.inj kept
    decide
  · split at kept
    · next word => exact Option.some.inj kept ▸ word
    · cases kept

theorem isWordChar_of_mem_canonicalName {description : String} {c : Char}
    (member : c ∈ (canonicalName description).toList) : isWordChar c = true := by
  rw [toList_canonicalName, List.mem_filterMap] at member
  obtain ⟨_, _, kept⟩ := member
  exact isWordChar_of_nameChar? kept

/-- A word character stays in a name as it is. -/
theorem nameChar?_of_isWordChar {c : Char} (word : isWordChar c = true) :
    nameChar? c = some c := by
  have noDot : c ≠ '.' := by
    rintro rfl
    exact absurd word (by decide)
  rw [nameChar?, if_neg noDot, if_pos word]

/-- A word is its own canonical name if upper-casing leaves its first character as it is. -/
theorem canonicalName_of_isWord {first : Char} {rest : List Char}
    (word : IsWord (first :: rest)) (capital : upperChar first = [first]) :
    canonicalName (String.ofList (first :: rest)) = String.ofList (first :: rest) := by
  have oneWord : ' ' ∉ first :: rest := by
    intro space
    exact absurd (word.chars ' ' space) (by decide)
  have kept : (first :: rest).filterMap nameChar? = first :: rest := by
    have every := List.filterMap_congr fun c member => nameChar?_of_isWordChar (word.chars c member)
    exact every.trans List.filterMap_some
  have trimmed : strip (first :: rest) = first :: rest := word.isSolidText.isTrimmed
  rw [canonicalName, String.toList_ofList, trimmed, splitOn_of_absent oneWord,
    List.flatMap_singleton, upperHead, capital, List.singleton_append, kept]

/-- The upper-case form of a word character or a dot starts a name with a capital. -/
theorem exists_capital {c : Char} (starts : isWordChar c = true ∨ c = '.') :
    ∃ first rest capital, upperChar c = first :: rest ∧ nameChar? first = some capital ∧
      upperChar capital = [capital] := by
  rcases starts with word | rfl
  · obtain ⟨first, rest, upper, isWordChar_first, settled⟩ := exists_cons_of_isWordChar word
    exact ⟨first, rest, first, upper, nameChar?_of_isWordChar isWordChar_first, settled⟩
  · have underscore : upperChar '_' = ['_'] := by decide +kernel
    have dot : upperChar '.' = ['.'] := by decide +kernel
    exact ⟨'.', [], '_', dot, by decide, underscore⟩

/-- A name starts with what upper-casing makes of the first character of its description. -/
theorem exists_cons_canonicalName {description : String} {c : Char}
    (head : description.toList.find? isInk = some c) (starts : isWordChar c = true ∨ c = '.') :
    ∃ capital rest, (canonicalName description).toList = capital :: rest ∧
      upperChar capital = [capital] := by
  obtain ⟨first, others, capital, upper, kept, settled⟩ := exists_capital starts
  have ink : isInk c = true := List.find?_some head
  have noSpace : c ≠ ' ' := by
    rintro rfl
    exact absurd ink (by decide)
  obtain ⟨rest, trimmed⟩ := List.head?_eq_some_iff.mp ((head?_strip _).trans head)
  obtain ⟨word, words, pieces⟩ := List.exists_cons_of_ne_nil (splitOn_ne_nil ' ' rest)
  rw [toList_canonicalName, trimmed, splitOn_cons, if_neg noSpace, pieces, consHead,
    List.flatMap_cons, upperHead, upper, List.cons_append, List.cons_append,
    List.filterMap_cons_some kept]
  exact ⟨capital, _, rfl, settled⟩

/-- The name by which a description is looked up is made up of word characters.  It does not depend
on the white space around the description, nor on how often a space between words is repeated.  If
the first character that is no white space is a word character or a dot, the name is its own
canonical name. -/
theorem canonicalNameOf_stable (description : Wide) :
    (∀ c ∈ (canonicalNameOf description).toList, isWordChar c = true) ∧
    canonicalNameOf (tidied description) = canonicalNameOf description ∧
    ((∀ c ∈ description.plain.find? isInk, isWordChar c = true ∨ c = '.') →
      canonicalNameOf (Wide.ofString (canonicalNameOf description)) =
        canonicalNameOf description) := by
  have word : ∀ c ∈ (canonicalNameOf description).toList, isWordChar c = true :=
    fun c member => isWordChar_of_mem_canonicalName member
  refine ⟨word, canonicalNameOf_tidied description, ?_⟩
  intro starts
  rw [canonicalNameOf, Wide.ofString, Wide.plain_ofList, String.ofList_toList]
  cases head : description.plain.find? isInk with
  | none =>
      have blank : strip description.plain = [] := by
        rw [← List.head?_eq_none_iff, head?_strip, head]
      have empty : canonicalNameOf description = "" := by
        rw [canonicalNameOf, canonicalName, String.toList_ofList, blank]
        rfl
      rw [empty]
      rfl
  | some c =>
      have starting := starts c head
      rw [← String.toList_ofList (l := description.plain)] at head
      obtain ⟨capital, rest, shape, settled⟩ := exists_cons_canonicalName head starting
      have isWord : IsWord (capital :: rest) := by
        refine ⟨List.cons_ne_nil _ _, ?_⟩
        rw [← shape]
        exact word
      have again := canonicalName_of_isWord isWord settled
      rwa [← shape, String.ofList_toList] at again

/-- A letter whose upper-case form is two letters, a dot and white space of several kinds. -/
theorem canonicalNameOf_sharpLetter :
    let description := Wide.ofString "\t\u00dfalt-dust  PM2.5 (level)\u3000"
    canonicalNameOf description = "SSaltdustPM2_5level" ∧
      canonicalNameOf (tidied description) = "SSaltdustPM2_5level" ∧
      canonicalNameOf (Wide.ofString "SSaltdustPM2_5level") = "SSaltdustPM2_5level" := by
  intro description
  have name : canonicalNameOf description = "SSaltdustPM2_5level" := by decide +kernel
  have head : description.plain.find? isInk = some '\u00df' := by decide +kernel
  obtain ⟨_, spaced, again⟩ := canonicalNameOf_stable description
  rw [name] at spaced again
  refine ⟨name, spaced, again ?_⟩
  rintro c first
  obtain rfl := Option.some.inj (head.symm.trans first)
  exact Or.inl (by decide)

-- Of a hyphen nothing is left, so the next letter is first when the name is taken again.
example : canonicalName "-a" = "a" ∧ canonicalName "a" = "A" := by
  decide +kernel

end HomeCatalog.Metadata
