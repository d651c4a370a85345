import HomeCatalog.Proofs.Header.Composition
import HomeCatalog.Proofs.Text.Spacing
import Mathlib.Data.List.Infix

/-!
# Headers that are written out

A header is a run of declarations, each with line comments above it and an annotation behind its
name.  White space may stand in it in many ways, and blank lines and comments without text among the
comments.  However it is laid out, reading gives back every declaration with its own comments and
its own annotation.
-/

namespace HomeCatalog.Header

/-! ## Declarations and their layout -/

/-- The text of a line comment above a declaration. -/
structure Remark where
  text : List Char
  filled : text ≠ []
  trimmed : Text.IsTrimmed text
  feedless : '\n' ∉ text
  unslashed : text.head? ≠ some '/'
  silent : ¬"HM_EXTERN".toList <:+: text

/-- What may stand between a name and its semicolon.  It may run over several lines, but then no
later line of it starts like a comment. -/
structure Annotation where
  text : List Char
  uncommented : ∀ line ∈ (Text.lines text).tail, line.find? Text.isInk ≠ some '/'
  unended : ';' ∉ text
  apart : ∀ c ∈ text.head?, Text.isWordChar c = false
  silent : ¬"HM_EXTERN".toList <:+: text

/-- A line above a declaration: blank, a comment without text, or one with a remark. -/
inductive LineAbove where
  | blank (space : Text.Margin)
  | bare (indent : Text.Margin) (slashes : Nat) (rest : Text.Margin)
  | comment (indent : Text.Margin) (slashes : Nat) (gap : Text.Margin) (remark : Remark)
      (rest : Text.Margin)

/-- What starts a line comment: two slashes, and possibly more. -/
def commentMark (slashes : Nat) : List Char :=
  List.replicate (slashes + 2) '/'

namespace LineAbove

def text : LineAbove → List Char
  | blank space => space.chars
  | bare indent slashes rest => indent.chars ++ commentMark slashes ++ rest.chars
  | comment indent slashes gap remark rest =>
      indent.chars ++ (commentMark slashes ++ (gap.chars ++ remark.text)) ++ rest.chars

/-- The remark in a line, if there is one. -/
def remark? : LineAbove → Option (List Char)
  | comment _ _ _ remark _ => some remark.text
  | _ => none

end LineAbove

/-- A declaration as it is written, but for the stem of its name. -/
structure Written where
  above : List LineAbove
  indent : Text.Margin
  afterExtern : Text.Gap
  beforeStar : Text.Space
  afterStar : Text.Space
  afterConst : Text.Gap
  name : List Char
  isWord : Text.IsWord name
  annotation : Annotation

namespace Written

/-- The lines above a declaration. -/
def block (written : Written) : List Char :=
  written.above.flatMap fun line => line.text ++ ['\n']

/-- What stands in front of the name of a declaration. -/
def opening (written : Written) : List Char :=
  "HM_EXTERN".toList ++ (written.afterExtern.chars ++ ("NSString".toList ++
    (written.beforeStar.chars ++ ("*".toList ++ (written.afterStar.chars ++
      ("const".toList ++ written.afterConst.chars))))))

def text (stem : String) (written : Written) : List Char :=
  written.block ++ (written.indent.chars ++ (written.opening ++ (stem.toList ++ written.name ++
    (written.annotation.text ++ [';', '\n']))))

/-- The remarks above a declaration. -/
def remarks (written : Written) : List (List Char) :=
  written.above.filterMap LineAbove.remark?

/-- The remarks above a declaration, with single spaces between them. -/
def documentation (written : Written) : Option String :=
  if written.remarks = [] then none
  else some (String.ofList (Text.joinWith [' '] written.remarks))

/-- What is declared. -/
def declaration (written : Written) : Declaration where
  name := String.ofList written.name
  documentation := written.documentation
  deprecated := decide ("DEPRECATED".toList <:+: written.annotation.text)

/-- The service that is declared. -/
def service (written : Written) : Service where
  identifier := serviceStem ++ String.ofList written.name
  name := String.ofList written.name
  swiftName := Identifier.lowerFirst (String.ofList written.name)
  documentation := written.documentation
  deprecated := decide ("DEPRECATED".toList <:+: written.annotation.text)
  required := []
  optional := []

/-- The characteristic that is declared. -/
def characteristic (written : Written) : Characteristic where
  identifier := characteristicStem ++ String.ofList written.name
  name := String.ofList written.name
  swiftName := Identifier.lowerFirst (String.ofList written.name)
  valueKind := inferValueKind (String.ofList written.name)
  documentation := written.documentation
  deprecated := decide ("DEPRECATED".toList <:+: written.annotation.text)

end Written

/-- A header with declarations one after the other. -/
def headerText (stem : String) (declared : List Written) : String :=
  String.ofList (declared.flatMap (Written.text stem))

/-! ## Lines above a declaration -/

theorem mem_commentMark {slashes : Nat} : ∀ c ∈ commentMark slashes, c = '/' :=
  fun _ member => (List.mem_replicate.mp member).2

/-- A comment says what stands behind its slashes. -/
theorem commentBody?_commentMark (slashes : Nat) {rest : List Char}
    (unslashed : rest.head? ≠ some '/') :
    commentBody? (commentMark slashes ++ rest) = some (Text.strip rest) := by
  have marked : ['/', '/'].isPrefixOf (commentMark slashes ++ rest) = true := by
    simp [commentMark, List.replicate_succ]
  have skipped : (commentMark slashes ++ rest).dropWhile (fun c => c == '/') = rest := by
    refine Text.dropWhile_run (fun c member => by simp [mem_commentMark c member]) ?_
    intro c first
    simp only [beq_eq_false_iff_ne]
    rintro rfl
    exact unslashed first
  rw [commentBody?, if_pos marked, skipped]

/-- White space around a comment does not change what it says. -/
theorem commentBody?_strip (indent rest : Text.Margin) (slashes : Nat) {body : List Char}
    (unslashed : body.head? ≠ some '/') (solid : ∀ c ∈ body.getLast?, Text.isBlank c = false) :
    commentBody? (Text.strip (indent.chars ++ (commentMark slashes ++ body) ++ rest.chars)) =
      some (Text.strip body) := by
  have trimmed : Text.strip (commentMark slashes ++ body) = commentMark slashes ++ body := by
    refine Text.isTrimmed_of_ends ?_ ?_
    · intro c first
      obtain rfl : c = '/' := by simpa [commentMark, List.replicate_succ] using first.symm
      decide
    · intro c last
      rw [List.getLast?_append, Option.or_eq_some_iff] at last
      rcases last with inBody | ⟨_, inMark⟩
      · exact solid c inBody
      · rw [mem_commentMark c (List.mem_of_getLast? inMark)]
        decide
  rw [Text.strip_of_margins, trimmed, commentBody?_commentMark slashes unslashed]

/-- A line that starts with something else than a slash ends a run of comments. -/
theorem commentsAbove_of_ink {line : List Char} {c : Char} (ink : line.find? Text.isInk = some c)
    (apart : c ≠ '/') (above : List (List Char)) : commentsAbove (line :: above) = [] := by
  rw [← Text.head?_strip, List.head?_eq_some_iff] at ink
  obtain ⟨rest, trimmed⟩ := ink
  have code : commentBody? (Text.strip line) = none := by
    rw [commentBody?_eq_none_iff, trimmed]
    rintro ⟨after, shape⟩
    exact apart (List.cons.inj shape).1.symm
  rw [commentsAbove, code, trimmed]
  rfl

namespace LineAbove

theorem feed_notMem_text (line : LineAbove) : '\n' ∉ line.text := by
  have unmarked : ∀ slashes, '\n' ∉ commentMark slashes :=
    fun slashes member => absurd (mem_commentMark _ member) (by decide)
  cases line with
  | blank space => exact space.feedless
  | bare indent slashes rest => simp [text, indent.feedless, unmarked, rest.feedless]
  | comment indent slashes gap remark rest =>
      simp [text, indent.feedless, unmarked, gap.feedless, remark.feedless, rest.feedless]

/-- No declaration starts in a line above one. -/
theorem silent_text (line : LineAbove) : ¬"HM_EXTERN".toList <:+: line.text := by
  have unmarked : ∀ slashes, ∀ c ∈ commentMark slashes, c ∉ "HM_EXTERN".toList := by
    intro slashes c member
    rw [mem_commentMark c member]
    decide
  have filled : "HM_EXTERN".toList ≠ [] := by decide
  intro inside
  cases line with
  | blank space =>
      rw [text, ← List.append_nil space.chars] at inside
      exact filled (List.infix_nil.mp
        (Text.infix_of_append_left (notMem_extern_of_blank space.blank) filled inside))
  | bare indent slashes rest =>
      have marked := Text.infix_of_append_left (notMem_extern_of_blank indent.blank) filled
        (Text.infix_of_append_right (notMem_extern_of_blank rest.blank) filled inside)
      rw [← List.append_nil (commentMark slashes)] at marked
      exact filled (List.infix_nil.mp (Text.infix_of_append_left (unmarked slashes) filled marked))
  | comment indent slashes gap remark rest =>
      have marked := Text.infix_of_append_left (notMem_extern_of_blank indent.blank) filled
        (Text.infix_of_append_right (notMem_extern_of_blank rest.blank) filled inside)
      have body := Text.infix_of_append_left (unmarked slashes) filled marked
      exact remark.silent (Text.infix_of_append_left (notMem_extern_of_blank gap.blank) filled body)

/-- A line above a declaration adds its remark to the comments. -/
theorem commentsAbove_text (line : LineAbove) (above : List (List Char)) :
    commentsAbove (line.text :: above) = line.remark?.toList ++ commentsAbove above := by
  cases line with
  | blank space =>
      rw [commentsAbove, text, Text.strip_margin]
      rfl
  | bare indent slashes rest =>
      have empty : commentBody? (Text.strip (indent.chars ++ (commentMark slashes ++ []) ++
          rest.chars)) = some (Text.strip []) :=
        commentBody?_strip indent rest slashes (by simp) (by simp)
      rw [List.append_nil] at empty
      rw [commentsAbove, text, empty]
      rfl
  | comment indent slashes gap remark rest =>
      have unslashed : (gap.chars ++ remark.text).head? ≠ some '/' := by
        intro first
        rw [List.head?_append, Option.or_eq_some_iff] at first
        rcases first with inGap | ⟨_, inRemark⟩
        · exact Text.notMem_of_blank gap.blank (by decide) (List.mem_of_mem_head? inGap)
        · exact remark.unslashed inRemark
      have solid : ∀ c ∈ (gap.chars ++ remark.text).getLast?, Text.isBlank c = false := by
        intro c last
        rw [List.getLast?_append, List.getLast?_eq_some_getLast remark.filled] at last
        cases last
        exact remark.trimmed.solid_getLast remark.filled
      have body : Text.strip (gap.chars ++ remark.text) = remark.text := by
        rw [Text.strip_append_of_blank (List.all_eq_true.mpr gap.blank), remark.trimmed]
      have comment := commentBody?_strip indent rest slashes unslashed solid
      rw [body] at comment
      rw [commentsAbove, text, comment]
      cases shape : remark.text with
      | nil => exact absurd shape remark.filled
      | cons c cs => simp [remark?, shape]

end LineAbove

theorem commentsAbove_map_text (above : List LineAbove) :
    commentsAbove (above.map LineAbove.text) = above.filterMap LineAbove.remark? := by
  induction above with
  | nil => rfl
  | cons line above ih =>
      rw [List.map_cons, LineAbove.commentsAbove_text, ih, List.filterMap_cons]
      cases line.remark? <;> rfl

namespace Written

variable (written : Written)

theorem lines_block_append (rest : List Char) :
    Text.lines (written.block ++ rest) = written.above.map LineAbove.text ++ Text.lines rest := by
  rw [block]
  induction written.above with
  | nil => rfl
  | cons line above ih =>
      rw [List.flatMap_cons, List.append_assoc, List.append_assoc, List.singleton_append,
        Text.lines_append_feed, ih, Text.lines, Text.splitOn_of_absent line.feed_notMem_text]
      rfl

/-- The documentation of a declaration is what its own comments say. -/
theorem documentationAfter_block :
    documentationAfter (written.block ++ written.indent.chars) = written.documentation := by
  have found : commentsAbove (Text.lines (written.block ++ written.indent.chars)).reverse =
      written.remarks.reverse := by
    have indented : Text.lines written.indent.chars = [written.indent.chars] :=
      Text.splitOn_of_absent written.indent.feedless
    rw [lines_block_append, indented, List.reverse_append, List.reverse_singleton,
      List.singleton_append, commentsAbove, Text.strip_margin, ← List.map_reverse,
      commentsAbove_map_text, List.filterMap_reverse]
    rfl
  rw [documentationAfter, found, documentation]
  split
  · next empty => rw [if_pos (List.reverse_eq_nil_iff.mp empty)]
  · next filled => rw [if_neg (by simpa using filled), List.reverse_reverse]

/-- The lines above a declaration are passed over. -/
theorem declarationsFrom_block (stem : String) (before rest : List Char) :
    declarationsFrom stem 0 before (written.block ++ rest) =
      declarationsFrom stem 0 (written.block.reverse ++ before) rest := by
  rw [block]
  induction written.above generalizing before with
  | nil => rfl
  | cons line above ih =>
      rw [List.flatMap_cons, List.append_assoc, List.append_assoc, List.singleton_append,
        declarationsFrom_of_silent line.silent_text (by decide), ih]
      simp

end Written

/-! ## The words of a declaration -/

@[simp] theorem word?_append (word : String) (rest : List Char) :
    word? word (word.toList ++ rest) = some rest := by
  rw [word?, List.isPrefixOf?_eq_some_iff_append_eq]

/-- A word stands behind white space without any of its own. -/
structure IsSolidFront (word : List Char) : Prop where
  filled : word ≠ []
  solid : ∀ c ∈ word, Text.isBlank c = false

section

variable {word : List Char}

theorem IsSolidFront.head? (front : IsSolidFront word) (rest : List Char) :
    ∀ c ∈ (word ++ rest).head?, Text.isBlank c = false := by
  intro c first
  rw [List.head?_append_of_ne_nil _ front.filled] at first
  exact front.solid c (List.mem_of_mem_head? first)

theorem IsSolidFront.blanks?_append (front : IsSolidFront word) (gap : Text.Gap)
    (rest : List Char) : blanks? (gap.chars ++ (word ++ rest)) = some (word ++ rest) := by
  have skipped := Text.dropWhile_run gap.blank (front.head? rest)
  have blank := gap.blank
  cases shape : gap.chars with
  | nil => exact absurd shape gap.filled
  | cons c spaces =>
      rw [shape] at skipped blank
      have first := blank c List.mem_cons_self
      rw [List.cons_append, List.dropWhile_cons_of_pos first] at skipped
      rw [List.cons_append, blanks?, if_pos first, skipped]

theorem IsSolidFront.skipBlanks_append (front : IsSolidFront word) (space : Text.Space)
    (rest : List Char) : skipBlanks (space.chars ++ (word ++ rest)) = word ++ rest :=
  Text.dropWhile_run space.blank (front.head? rest)

end

theorem isSolidFront_of_isWord {word : List Char} (isWord : Text.IsWord word) :
    IsSolidFront word :=
  ⟨isWord.filled, fun c member => Text.isBlank_of_isWordChar (isWord.chars c member)⟩

/-- The characters of a declaration are passed over. -/
theorem declarationsFrom_of_skip (stem : String) (taken before rest : List Char) :
    declarationsFrom stem taken.length before (taken ++ rest) =
      declarationsFrom stem 0 (taken.reverse ++ before) rest := by
  induction taken generalizing before with
  | nil => rfl
  | cons c taken ih =>
      rw [List.length_cons, List.cons_append, declarationsFrom, ih]
      simp

/-- A declaration is found where it starts, and the search goes on behind its name. -/
theorem declarationsFrom_of_named? {stem : String} {taken name after : List Char}
    (found : named? stem (taken ++ after) = some (name, after)) (filled : taken ≠ [])
    (before : List Char) :
    declarationsFrom stem 0 before (taken ++ after) =
      ⟨String.ofList name, documentationAfter before.reverse, isDeprecated after⟩ ::
        declarationsFrom stem 0 (taken.reverse ++ before) after := by
  cases taken with
  | nil => exact absurd rfl filled
  | cons c taken =>
      have length : (taken ++ after).length - after.length = taken.length := by simp
      rw [List.cons_append] at found
      rw [List.cons_append, declarationsFrom, found]
      dsimp only
      rw [length, declarationsFrom_of_skip]
      simp

namespace Written

variable (written : Written) {stem : String}

theorem declarator?_opening (stemWord : Text.IsWord stem.toList) (rest : List Char) :
    declarator? stem (written.opening ++ (stem.toList ++ rest)) = some rest := by
  have type : IsSolidFront "NSString".toList :=
    ⟨by decide, Text.isBlank_eq_false_of_all_isInk (by decide)⟩
  have star : IsSolidFront "*".toList := ⟨by decide, Text.isBlank_eq_false_of_all_isInk (by decide)⟩
  have const : IsSolidFront "const".toList :=
    ⟨by decide, Text.isBlank_eq_false_of_all_isInk (by decide)⟩
  unfold declarator? opening
  simp only [List.append_assoc, Option.bind_eq_bind, word?_append,
    Option.bind_some, type.blanks?_append, star.skipBlanks_append, const.skipBlanks_append,
    (isSolidFront_of_isWord stemWord).blanks?_append]

theorem slash_notMem_opening : '/' ∉ written.opening := by
  have unslashed : ∀ {spaces : List Char}, (∀ c ∈ spaces, Text.isBlank c = true) → '/' ∉ spaces :=
    fun blank => Text.notMem_of_blank blank (by decide)
  unfold opening
  simp only [List.mem_append, not_or]
  exact ⟨by decide, unslashed written.afterExtern.blank, by decide,
    unslashed written.beforeStar.blank, by decide, unslashed written.afterStar.blank, by decide,
    unslashed written.afterConst.blank⟩

theorem isDeprecated_annotation (rest : List Char) :
    isDeprecated (written.annotation.text ++ ';' :: rest) =
      decide ("DEPRECATED".toList <:+: written.annotation.text) := by
  rw [isDeprecated, Text.cut_append_cons written.annotation.unended, Bool.eq_iff_iff,
    Text.contains_iff_infix, decide_eq_true_iff]

/-- A declaration is found by its name, as long as its annotation does not go on with it. -/
theorem named?_opening (stemWord : Text.IsWord stem.toList) :
    named? stem (written.opening ++ (stem.toList ++ written.name) ++
        (written.annotation.text ++ [';', '\n'])) =
      some (written.name, written.annotation.text ++ [';', '\n']) := by
  have boundary : ∀ c ∈ (written.annotation.text ++ [';', '\n']).head?,
      Text.isWordChar c = false := by
    intro c first
    rw [List.head?_append, Option.mem_def, Option.or_eq_some_iff] at first
    rcases first with inText | ⟨_, inEnd⟩
    · exact written.annotation.apart c inText
    · cases inEnd
      decide
  have filled : ¬written.name.isEmpty = true := by simpa using written.isWord.filled
  rw [named?, List.append_assoc, List.append_assoc stem.toList,
    written.declarator?_opening stemWord]
  simp only [Option.bind_eq_bind, Option.bind_some,
    Text.takeWhile_run written.isWord.chars boundary,
    Text.dropWhile_run written.isWord.chars boundary, if_neg filled]

/-- A written declaration is what its text declares. -/
theorem declarationsFrom_text (stemWord : Text.IsWord stem.toList) :
    declarationsFrom stem 0 [] (written.text stem) = [written.declaration] := by
  have filled : written.opening ++ (stem.toList ++ written.name) ≠ [] := by
    simp [written.isWord.filled]
  have found := declarationsFrom_of_named? (written.named?_opening stemWord) filled
    (written.indent.chars.reverse ++ (written.block.reverse ++ []))
  have blank : ∀ c ∈ ['\n'], Text.isBlank c = true := List.all_eq_true.mp (by decide)
  have ended : ∀ before, declarationsFrom stem 0 before ['\n'] = [] :=
    fun before => declarationsFrom_of_blank blank before []
  have above : (written.indent.chars.reverse ++ (written.block.reverse ++ [])).reverse =
      written.block ++ written.indent.chars := by simp
  unfold Written.text
  rw [declarationsFrom_block, declarationsFrom_of_blank written.indent.blank,
    ← List.append_assoc written.opening, found, above, documentationAfter_block,
    isDeprecated_annotation, declarationsFrom_of_silent written.annotation.silent (by decide),
    ended]
  rfl

/-- The line with the name of a declaration starts with something else than a slash. -/
theorem exists_ink_of_name (stemWord : Text.IsWord stem.toList) {above : List (List Char)}
    {last : List Char}
    (shape : Text.lines (written.indent.chars ++ written.opening ++ (stem.toList ++ written.name)) =
      above ++ [last]) : ∃ c, last.find? Text.isInk = some c ∧ c ≠ '/' := by
  have named : Text.IsWord (stem.toList ++ written.name) := stemWord.append written.isWord
  have feedless : '\n' ∉ stem.toList ++ written.name :=
    fun member => absurd (named.chars _ member) (by decide)
  obtain ⟨front, opened, before, whole⟩ :=
    Text.splitOn_append_of_absent_right feedless (written.indent.chars ++ written.opening)
  obtain ⟨-, same⟩ := List.append_inj' (shape.symm.trans whole) rfl
  obtain rfl : last = opened ++ (stem.toList ++ written.name) := (List.cons.inj same).1
  have unslashed : '/' ∉ opened ++ (stem.toList ++ written.name) := by
    have inLines : opened ∈ Text.splitOn '\n' (written.indent.chars ++ written.opening) := by
      simp [before]
    intro member
    rcases List.mem_append.mp member with inOpened | inName
    · rcases List.mem_append.mp (Text.subset_of_mem_splitOn inLines inOpened) with
        inIndent | inOpening
      · exact Text.notMem_of_blank written.indent.blank (by decide) inIndent
      · exact written.slash_notMem_opening inOpening
    · exact absurd (named.chars _ inName) (by decide)
  obtain ⟨c, ink⟩ : ∃ c, (opened ++ (stem.toList ++ written.name)).find? Text.isInk = some c := by
    obtain ⟨letter, inName⟩ := List.exists_mem_of_ne_nil _ named.filled
    rw [← Option.isSome_iff_exists, List.find?_isSome]
    refine ⟨letter, List.mem_append_right _ inName, ?_⟩
    simp [Text.isInk, Text.isBlank_of_isWordChar (named.chars letter inName)]
  refine ⟨c, ink, ?_⟩
  rintro rfl
  exact unslashed (List.mem_of_find?_eq_some ink)

/-- The last line of a declaration starts with something else than a slash. -/
theorem exists_ink_of_semicolon (stemWord : Text.IsWord stem.toList) :
    ∃ above last c, Text.lines (written.indent.chars ++ written.opening ++
      (stem.toList ++ written.name) ++ (written.annotation.text ++ [';'])) = above ++ [last] ∧
      last.find? Text.isInk = some c ∧ c ≠ '/' := by
  obtain ⟨above, opened, first, later, before, behind, whole⟩ :=
    Text.lines_append (written.indent.chars ++ written.opening ++ (stem.toList ++ written.name))
      (written.annotation.text ++ [';'])
  have semicolon : '\n' ∉ [';'] := by decide
  obtain ⟨front, final, noted, closed⟩ :=
    Text.splitOn_append_of_absent_right semicolon written.annotation.text
  obtain ⟨c, ink, apart⟩ := written.exists_ink_of_name stemWord before
  rw [Text.lines, closed] at behind
  cases front with
  | nil =>
      -- The semicolon stands on the line of the name.
      obtain ⟨rfl, rfl⟩ := List.cons.inj behind
      refine ⟨above, opened ++ (final ++ [';']), c, whole, ?_, apart⟩
      rw [List.find?_append, ink, Option.some_or]
  | cons start front =>
      -- It stands on a later line of the annotation.
      obtain ⟨rfl, rfl⟩ := List.cons.inj behind
      have uncommented := written.annotation.uncommented final (by simp [Text.lines, noted])
      have whole' : Text.lines (written.indent.chars ++ written.opening ++
          (stem.toList ++ written.name) ++ (written.annotation.text ++ [';'])) =
          (above ++ (opened ++ start) :: front) ++ [final ++ [';']] := whole.trans (by simp)
      cases inFinal : final.find? Text.isInk with
      | none => exact ⟨_, _, ';', whole', by rw [List.find?_append, inFinal]; rfl, by decide⟩
      | some d =>
          refine ⟨_, _, d, whole', by rw [List.find?_append, inFinal, Option.some_or], ?_⟩
          rintro rfl
          exact uncommented inFinal

/-- The last line of a written declaration is no comment. -/
theorem commentsAbove_text (stemWord : Text.IsWord stem.toList) :
    commentsAbove (Text.lines (written.block ++ (written.indent.chars ++ written.opening ++
      (stem.toList ++ written.name) ++ (written.annotation.text ++ [';'])))).reverse = [] := by
  obtain ⟨above, last, c, shape, ink, apart⟩ := written.exists_ink_of_semicolon stemWord
  rw [lines_block_append, shape, ← List.append_assoc, List.reverse_append, List.reverse_singleton,
    List.singleton_append, commentsAbove_of_ink ink apart]

/-- A written declaration is a whole statement. -/
theorem isClosed_text (stemWord : Text.IsWord stem.toList) : IsClosed (written.text stem) := by
  have shape : written.text stem =
      written.block ++ (written.indent.chars ++ written.opening ++
        (stem.toList ++ written.name) ++ (written.annotation.text ++ [';'])) ++ ['\n'] := by
    unfold Written.text
    simp only [List.append_assoc, List.cons_append, List.nil_append]
  constructor
  case feed =>
    rw [shape, List.getLast?_concat]
  case code =>
    refine ⟨written.block ++ (written.indent.chars ++ (written.opening ++
      (stem.toList ++ written.name ++ written.annotation.text))), ['\n'], ?_,
      List.all_eq_true.mp (by decide)⟩
    unfold Written.text
    simp only [List.append_assoc]
  case undocumented =>
    have closed := written.commentsAbove_text stemWord
    rw [shape, Text.lines_append_feed, List.reverse_append]
    exact closed

end Written

/-- A header declares what is written in it, in order. -/
theorem declarations_headerText {stem : String} (stemWord : Text.IsWord stem.toList)
    (declared : List Written) :
    declarations stem (headerText stem declared) = declared.map Written.declaration := by
  rw [declarations, headerText, String.toList_ofList]
  induction declared with
  | nil => rfl
  | cons written declared ih =>
      rw [List.flatMap_cons, (written.isClosed_text stemWord).declarationsFrom_append stemWord, ih,
        written.declarationsFrom_text stemWord]
      rfl

/-- The services and characteristics of a header are those written in it, in order, each with its
own comments and its own annotation. -/
theorem entries_headerText (declared : List Written) :
    services (headerText serviceStem declared) = declared.map Written.service ∧
      characteristics (headerText characteristicStem declared) =
        declared.map Written.characteristic := by
  constructor
  · rw [services, declarations_headerText isWord_serviceStem, List.map_map]
    rfl
  · rw [characteristics, declarations_headerText isWord_characteristicStem, List.map_map]
    rfl

/-! ## A header of two declarations -/

def lampRemark : Remark :=
  ⟨"A lamp.".toList, by decide, by decide, by decide, by decide, by decide⟩

def oldRemark : Remark :=
  ⟨"Old // and dim.".toList, by decide, by decide, by decide, by decide, by decide⟩

/-- A declaration below comments with gaps between them, and with an annotation of two lines. -/
def oldLamp : Written where
  above := [
    .comment (Text.spaces 0) 1 (Text.spaces 1) lampRemark (Text.spaces 1),
    .blank (Text.spaces 2),
    .bare (Text.spaces 0) 0 (Text.spaces 0),
    .comment (Text.spaces 2) 0 (Text.spaces 0) oldRemark (Text.spaces 0) ]
  indent := Text.spaces 0
  afterExtern := ⟨(Text.spaces 1).toSpace, by decide⟩
  beforeStar := (Text.spaces 1).toSpace
  afterStar := (Text.spaces 0).toSpace
  afterConst := ⟨⟨"\n    ".toList, List.all_eq_true.mp (by decide)⟩, by decide⟩
  name := "Lamp".toList
  isWord := ⟨by decide, List.all_eq_true.mp (by decide)⟩
  annotation := ⟨"\n    API_DEPRECATED(\"dim\")".toList, by decide, by decide, fun c first => by
    obtain rfl : '\n' = c := Option.some.inj first
    decide, by decide⟩

/-- A declaration with nothing above it and nothing behind its name. -/
def bareFan : Written where
  above := []
  indent := Text.spaces 0
  afterExtern := ⟨(Text.spaces 1).toSpace, by decide⟩
  beforeStar := (Text.spaces 0).toSpace
  afterStar := (Text.spaces 1).toSpace
  afterConst := ⟨(Text.spaces 1).toSpace, by decide⟩
  name := "Fan2".toList
  isWord := ⟨by decide, List.all_eq_true.mp (by decide)⟩
  annotation := ⟨[], by decide, by decide, fun _ => nofun, by decide⟩

/-- Both declarations are read, the second one without the comments and the annotation of the
first. -/
theorem entries_headerText_twoDeclarations :
    headerText serviceStem [oldLamp, bareFan] =
        "/// A lamp. \n  \n//\n  //Old // and dim.\n" ++
          "HM_EXTERN NSString *const\n    HMServiceTypeLamp\n    API_DEPRECATED(\"dim\");\n" ++
          "HM_EXTERN NSString* const HMServiceTypeFan2;\n" ∧
      services (headerText serviceStem [oldLamp, bareFan]) =
        [ ⟨"HMServiceTypeLamp", "Lamp", "lamp", some "A lamp. Old // and dim.", true, [], []⟩,
          ⟨"HMServiceTypeFan2", "Fan2", "fan2", none, false, [], []⟩ ] ∧
      (characteristics (headerText characteristicStem [oldLamp, bareFan])).map
          (fun entry => (entry.identifier, entry.documentation, entry.deprecated)) =
        [ ("HMCharacteristicTypeLamp", some "A lamp. Old // and dim.", true),
          ("HMCharacteristicTypeFan2", none, false) ] := by
  obtain ⟨services, characteristics⟩ := entries_headerText [oldLamp, bareFan]
  refine ⟨by decide +kernel, ?_, ?_⟩
  · rw [services]
    decide +kernel
  · rw [characteristics]
    decide +kernel

end HomeCatalog.Header
