import HomeCatalog.Proofs.Text.Spacing
import HomeCatalog.Stub.Symbols

/-!
# The exports of a stub

The scanner reads a stub line by line.  Nothing is listed in front of the line `exports:`, nor
behind the key of the next section.  So what a stub exports is what the lines between the two list,
whatever else stands in it.
-/

namespace HomeCatalog.Stub

/-! ## Lines that count -/

/-- The lines of a text that count: trimmed, and not empty. -/
def countedLines (cs : List Char) : List (List Char) :=
  ((Text.lines cs).map Text.strip).filter fun line => !line.isEmpty

theorem trimmedLines_ofList (cs : List Char) :
    trimmedLines (String.ofList cs) = countedLines cs := by
  rw [trimmedLines, countedLines, String.toList_ofList]

theorem countedLines_append_feed (left right : List Char) :
    countedLines (left ++ '\n' :: right) = countedLines left ++ countedLines right := by
  rw [countedLines, Text.lines_append_feed, List.map_append, List.filter_append]
  rfl

/-- The lines of pieces that stand below each other are those of every piece. -/
theorem countedLines_joinWith (pieces : List (List Char)) :
    countedLines (Text.joinWith ['\n'] pieces) = pieces.flatMap countedLines := by
  induction pieces using Text.joinWith.induct with
  | case1 => rfl
  | case2 piece => rw [Text.joinWith, List.flatMap_singleton]
  | case3 piece rest others ih =>
      rw [Text.joinWith, List.append_assoc, List.singleton_append, countedLines_append_feed, ih,
        List.flatMap_cons]
      exact others

theorem countedLines_of_feedless {line : List Char} (feedless : '\n' ∉ line) :
    countedLines line = if Text.strip line = [] then [] else [Text.strip line] := by
  rw [countedLines, Text.lines, Text.splitOn_of_absent feedless]
  cases shape : Text.strip line <;> simp [shape]

/-! ## Reading -/

/-- Whether reading lines from one position lists some symbols and goes on at another position. -/
def Reads (start finish : Position) (lines symbols : List (List Char)) : Prop :=
  ∀ rest, symbolsFrom start (lines ++ rest) = symbols ++ symbolsFrom finish rest

namespace Reads

theorem nil (position : Position) : Reads position position [] [] :=
  fun _ => rfl

theorem append {start middle finish : Position} {lines later symbols others : List (List Char)}
    (first : Reads start middle lines symbols) (second : Reads middle finish later others) :
    Reads start finish (lines ++ later) (symbols ++ others) := by
  intro rest
  rw [List.append_assoc, first, second, List.append_assoc]

theorem single (position : Position) (line : List Char) :
    Reads position (step position line).1 [line] (step position line).2 :=
  fun _ => rfl

/-- Parts that lead back to a position may follow each other in any number. -/
theorem flatMap {α : Type} {position : Position} {lines symbols : α → List (List Char)}
    {parts : List α} (every : ∀ part ∈ parts, Reads position position (lines part) (symbols part)) :
    Reads position position (parts.flatMap lines) (parts.flatMap symbols) := by
  induction parts with
  | nil => exact nil position
  | cons part parts ih =>
      obtain ⟨first, others⟩ := List.forall_mem_cons.mp every
      exact first.append (ih others)

/-- Parts that list nothing are passed over. -/
theorem silent {α : Type} {position : Position} {lines : α → List (List Char)} {parts : List α}
    (every : ∀ part ∈ parts, Reads position position (lines part) []) :
    Reads position position (parts.flatMap lines) [] := by
  have empty : parts.flatMap (fun _ => ([] : List (List Char))) = [] := by simp
  have passed := flatMap every
  rwa [empty] at passed

/-- A line is read in one step. -/
theorem line {position finish : Position} {symbols : List (List Char)} {cs : List Char}
    (feedless : '\n' ∉ cs) (read : step position (Text.strip cs) = (finish, symbols))
    (filled : Text.strip cs ≠ []) : Reads position finish (countedLines cs) symbols := by
  rw [countedLines_of_feedless feedless, if_neg filled]
  have stepped := single position (Text.strip cs)
  rwa [read] at stepped

end Reads

/-! ## Steps outside and inside of the exports -/

/-- Where the lines below `exports:` stand. -/
def Position.inside : Position := ⟨true, false, false⟩

theorem startsWith_iff {word : String} {cs : List Char} :
    startsWith word cs = true ↔ word.toList <+: cs :=
  List.isPrefixOf_iff_prefix

theorem startsWith_eq_false_iff {word : String} {cs : List Char} :
    startsWith word cs = false ↔ ¬word.toList <+: cs := by
  rw [← startsWith_iff, Bool.not_eq_true]

theorem blockLine_of_not_inBlockList {position : Position} (free : position.inBlockList = false)
    (line : List Char) : blockLine position line = (position, []) := by
  rw [blockLine, free]
  rfl

/-- Outside of the exports nothing counts but their key. -/
theorem step_start {line : List Char} (other : ¬"exports:".toList <+: line) :
    step .start line = (.start, []) := by
  unfold step
  simp only [Position.start, Bool.false_and, startsWith_eq_false_iff.mpr other,
    blockLine_of_not_inBlockList]
  simp

theorem step_exports {position : Position} (unlisted : position.inFlowList = false)
    {line : List Char} (exports : "exports:".toList <+: line) :
    step position line = (.inside, []) := by
  unfold step
  simp only [unlisted, startsWith_iff.mpr exports]
  rfl

/-- Inside of the exports a line with a value is passed over, unless it is that of the symbols. -/
theorem step_inside {line : List Char} (other : ¬"symbols:".toList <+: keyText line)
    (valued : endsInColon line = false) : step .inside line = (.inside, []) := by
  unfold step
  have passed : isSectionKey line = false := by
    unfold isSectionKey
    simp [valued]
  cases exports : startsWith "exports:" line with
  | true => rfl
  | false =>
      simp only [Position.inside, Bool.true_and, startsWith_eq_false_iff.mpr other,
        blockLine_of_not_inBlockList, passed]
      rfl

/-- The key of another section ends the exports, also below a block list. -/
theorem step_sectionKey (inBlockList : Bool) {line : List Char}
    (noExports : ¬"exports:".toList <+: line) (noSymbols : ¬"symbols:".toList <+: line)
    (noDash : ¬"-".toList <+: line) (noComment : ¬"#".toList <+: line)
    (colon : endsInColon line = true) : step ⟨true, inBlockList, false⟩ line = (.start, []) := by
  have key : isSectionKey line = true := by
    have apart : ∀ {word : List Char}, ¬word <+: line → (line != word) = true := by
      intro word absent
      rw [bne_iff_ne]
      rintro rfl
      exact absent List.prefix_rfl
    simp only [isSectionKey, startsWith_eq_false_iff.mpr noDash,
      startsWith_eq_false_iff.mpr noComment, colon, apart noExports, apart noSymbols]
    rfl
  have undashed : keyText line = line := by
    have noEntry : ¬"- ".toList <+: line :=
      fun starts => noDash (List.IsPrefix.trans (by decide) starts)
    rw [keyText, startsWith_eq_false_iff.mpr noEntry]
    rfl
  have passed : blockLine ⟨true, inBlockList, false⟩ line = (⟨true, inBlockList, false⟩, []) := by
    simp only [blockLine, startsWith_eq_false_iff.mpr noDash, colon]
    cases inBlockList <;> simp
  unfold step
  simp only [startsWith_eq_false_iff.mpr noExports, undashed, startsWith_eq_false_iff.mpr noSymbols,
    passed, key]
  rfl

/-! ## Keys -/

/-- The key of a line inside of the exports, other than that of the symbols. -/
structure Key where
  chars : List Char
  feedless : '\n' ∉ chars
  solid : ∀ c ∈ chars.head?, Text.isBlank c = false
  undashed : ¬"- ".toList <+: chars
  other : ¬"symbols:".toList <+: chars ++ [':']

/-- A word with a colon at its end starts a key where the key ends, or not at all. -/
theorem prefix_key_of_prefix {word key rest : List Char} (colonless : ':' ∉ word)
    (starts : word ++ [':'] <+: key ++ ':' :: rest) : word ++ [':'] <+: key ++ [':'] := by
  have ahead : key ++ [':'] <+: key ++ ':' :: rest := by
    rw [List.prefix_append_right_inj]
    exact List.cons_prefix_cons.mpr ⟨rfl, List.nil_prefix⟩
  rcases List.prefix_or_prefix_of_prefix starts ahead with inKey | inWord
  · exact inKey
  · rcases List.prefix_concat_iff.mp inWord with same | short
    · exact ⟨[], by simp [same]⟩
    · exact absurd (short.subset (by simp)) colonless

namespace Key

variable (key : Key) (rest : List Char)

theorem solid_colon : ∀ c ∈ (key.chars ++ ':' :: rest).head?, Text.isBlank c = false := by
  have solid := key.solid
  cases shape : key.chars with
  | nil => rintro _ ⟨⟩; decide
  | cons c cs => rwa [shape] at solid

theorem not_symbols_prefix : ¬"symbols:".toList <+: key.chars ++ ':' :: rest := by
  intro starts
  have word : "symbols:".toList = "symbols".toList ++ [':'] := by decide
  rw [word] at starts
  exact key.other (word ▸ prefix_key_of_prefix (by decide) starts)

theorem keyText_colon : keyText (key.chars ++ ':' :: rest) = key.chars ++ ':' :: rest := by
  have undashed : ¬"- ".toList <+: key.chars ++ ':' :: rest := by
    have apart := key.undashed
    have marks : "- ".toList = ['-', ' '] := by decide
    rw [marks] at apart ⊢
    cases shape : key.chars with
    | nil => simp
    | cons c cs =>
        rw [shape] at apart
        cases cs with
        | nil => simp
        | cons d cs => simpa using apart
  rw [keyText, startsWith_eq_false_iff.mpr undashed]
  rfl

/-- Behind a dash the key is found as well. -/
theorem keyText_dash (dash : Text.Margin) :
    keyText ("- ".toList ++ (dash.chars ++ (key.chars ++ ':' :: rest))) =
      key.chars ++ ':' :: rest := by
  have dashed :
      startsWith "- " ("- ".toList ++ (dash.chars ++ (key.chars ++ ':' :: rest))) = true :=
    startsWith_iff.mpr (List.prefix_append _ _)
  rw [keyText, dashed]
  exact Text.dropWhile_run dash.blank (key.solid_colon rest)

end Key

/-! ## Entries on one line -/

/-- An entry of the exports with a bracketed value on the line of its key. -/
structure Entry where
  indent : Text.Margin
  key : Key
  gap : Text.Margin
  value : List Char
  feedless : '\n' ∉ value
  rest : Text.Margin

namespace Entry

variable (entry : Entry)

def body : List Char :=
  entry.key.chars ++ ':' :: (entry.gap.chars ++ '[' :: (entry.value ++ [']']))

/-- An entry on a line of its own. -/
def line : List Char :=
  entry.indent.chars ++ entry.body ++ entry.rest.chars

/-- An entry behind the dash that starts a group. -/
def dashedLine (dash : Text.Margin) : List Char :=
  entry.indent.chars ++ ("- ".toList ++ (dash.chars ++ entry.body)) ++ entry.rest.chars

theorem feed_notMem_body : '\n' ∉ entry.body := by
  simp [body, entry.key.feedless, entry.gap.feedless, entry.feedless]

theorem getLast?_body (left : List Char) : (left ++ entry.body).getLast? = some ']' := by
  have shape : left ++ entry.body = left ++ (entry.key.chars ++ ':' :: (entry.gap.chars ++
      '[' :: entry.value)) ++ [']'] := by simp [body]
  rw [shape, List.getLast?_concat]

/-- A line is passed over that reads as an entry once it is trimmed. -/
theorem reads_of_keyText {cs : List Char} (feedless : '\n' ∉ cs)
    (first : ∀ c ∈ cs.head?, Text.isBlank c = false) (last : cs.getLast? = some ']')
    (keyed : keyText cs = entry.body) :
    Reads .inside .inside (countedLines (entry.indent.chars ++ cs ++ entry.rest.chars)) [] := by
  have trimmed : Text.strip (entry.indent.chars ++ cs ++ entry.rest.chars) = cs := by
    rw [Text.strip_of_margins]
    refine Text.isTrimmed_of_ends first ?_
    intro c ends
    rw [last] at ends
    cases ends
    decide
  refine Reads.line ?_ ?_ ?_
  · simp [entry.indent.feedless, feedless, entry.rest.feedless]
  · rw [trimmed]
    refine step_inside ?_ ?_
    · rw [keyed]
      exact entry.key.not_symbols_prefix _
    · rw [endsInColon, last]
      decide
  · rw [trimmed]
    rintro rfl
    cases last

theorem reads_line : Reads .inside .inside (countedLines entry.line) [] :=
  entry.reads_of_keyText entry.feed_notMem_body (entry.key.solid_colon _) (entry.getLast?_body [])
    (entry.key.keyText_colon _)

theorem reads_dashedLine (dash : Text.Margin) :
    Reads .inside .inside (countedLines (entry.dashedLine dash)) [] := by
  have feedless : '\n' ∉ "- ".toList ++ (dash.chars ++ entry.body) := by
    simp [dash.feedless, entry.feed_notMem_body]
  have last : ("- ".toList ++ (dash.chars ++ entry.body)).getLast? = some ']' := by
    rw [← List.append_assoc]
    exact entry.getLast?_body _
  refine entry.reads_of_keyText feedless ?_ last (entry.key.keyText_dash _ dash)
  rintro c first
  obtain rfl : c = '-' := by simpa using first.symm
  decide

end Entry

/-! ## What stands around the exports -/

/-- A line that does not open the exports. -/
structure OtherLine where
  chars : List Char
  feedless : '\n' ∉ chars
  other : ¬"exports:".toList <+: Text.strip chars

theorem OtherLine.reads (line : OtherLine) :
    Reads .start .start (countedLines line.chars) [] := by
  by_cases blank : Text.strip line.chars = []
  · rw [countedLines_of_feedless line.feedless, if_pos blank]
    exact Reads.nil _
  · exact Reads.line line.feedless (step_start line.other) blank

/-- The line with the key of the section below the exports.  A dash in front of it would make it an
entry of a list, and a number sign a comment. -/
structure SectionLine where
  indent : Text.Margin
  key : Key
  rest : Text.Margin
  unexported : ¬"exports:".toList <+: key.chars ++ [':']
  apart : ∀ c ∈ key.chars.head?, c ≠ '-' ∧ c ≠ '#'

namespace SectionLine

variable (line : SectionLine)

def chars : List Char :=
  line.indent.chars ++ (line.key.chars ++ [':']) ++ line.rest.chars

theorem reads (inBlockList : Bool) :
    Reads ⟨true, inBlockList, false⟩ .start (countedLines line.chars) [] := by
  have trimmed : Text.strip line.chars = line.key.chars ++ [':'] := by
    rw [chars, Text.strip_of_margins]
    refine Text.isTrimmed_of_ends (line.key.solid_colon []) ?_
    intro c last
    rw [List.getLast?_concat] at last
    cases last
    decide
  have unmarked : ∀ mark : Char, mark ≠ ':' → (∀ c ∈ line.key.chars.head?, c ≠ mark) →
      ¬[mark] <+: line.key.chars ++ [':'] := by
    intro mark noColon absent
    cases shape : line.key.chars with
    | nil => simpa using noColon
    | cons c cs =>
        rw [shape] at absent
        simpa using (absent c rfl).symm
  refine Reads.line ?_ ?_ ?_
  · simp [chars, line.indent.feedless, line.key.feedless, line.rest.feedless]
  · rw [trimmed]
    exact step_sectionKey inBlockList line.unexported line.key.other
      (unmarked '-' (by decide) fun c first => (line.apart c first).1)
      (unmarked '#' (by decide) fun c first => (line.apart c first).2)
      (by rw [endsInColon, List.getLast?_concat]; decide)
  · rw [trimmed]
    simp

end SectionLine

/-- A stub with one block of exports, but for what stands in the block. -/
structure Outline where
  before : List OtherLine
  indent : Text.Margin
  rest : Text.Margin
  next : SectionLine
  after : List OtherLine

namespace Outline

variable (outline : Outline)

/-- The line that opens the exports. -/
def exportsLine : List Char :=
  outline.indent.chars ++ "exports:".toList ++ outline.rest.chars

/-- The parts of a stub, with those of its exports in their place. -/
def parts (exported : List (List Char)) : List (List Char) :=
  outline.before.map OtherLine.chars ++ outline.exportsLine :: (exported ++
    outline.next.chars :: outline.after.map OtherLine.chars)

/-- The stub with its parts below each other. -/
def text (exported : List (List Char)) : String :=
  String.ofList (Text.joinWith ['\n'] (outline.parts exported))

theorem reads_exportsLine : Reads .start .inside (countedLines outline.exportsLine) [] := by
  have trimmed : Text.strip outline.exportsLine = "exports:".toList := by
    rw [exportsLine, Text.strip_of_margins]
    decide
  refine Reads.line ?_ ?_ ?_
  · simp [exportsLine, outline.indent.feedless, outline.rest.feedless]
  · rw [trimmed]
    exact step_exports rfl List.prefix_rfl
  · rw [trimmed]
    decide

theorem reads_others (lines : List OtherLine) :
    Reads .start .start ((lines.map OtherLine.chars).flatMap countedLines) [] := by
  rw [List.flatMap_map]
  exact Reads.silent fun line _ => line.reads

/-- A stub exports what its exports list. -/
theorem exportedSymbols_text {exported symbols : List (List Char)} {inBlockList : Bool}
    (listed : Reads .inside ⟨true, inBlockList, false⟩ (exported.flatMap countedLines) symbols) :
    exportedSymbols (outline.text exported) = (symbols.map String.ofList).eraseDups := by
  have whole : Reads .start .start ((outline.parts exported).flatMap countedLines) symbols := by
    have read := (reads_others outline.before).append (outline.reads_exportsLine.append
      (listed.append ((outline.next.reads inBlockList).append (reads_others outline.after))))
    simpa [parts] using read
  have found := whole []
  rw [List.append_nil, symbolsFrom, List.append_nil] at found
  rw [exportedSymbols, text, trimmedLines_ofList, countedLines_joinWith, found]

end Outline

/-- A word that is a key. -/
def wordKey (word : List Char) (feedless : '\n' ∉ word)
    (unspaced : word.any Text.isBlank = false) (undashed : ¬"- ".toList <+: word)
    (other : ¬"symbols:".toList <+: word ++ [':']) : Key :=
  ⟨word, feedless, fun c first => Text.eq_false_of_any unspaced c (List.mem_of_mem_head? first),
    undashed, other⟩

/-- The key with the architectures of a group. -/
def architecturesKey : Key :=
  wordKey "archs".toList (by decide) (by decide) (by decide) (by decide)

/-- A stub with nothing but exports in front of another section. -/
def bareOutline : Outline where
  before := []
  indent := Text.spaces 0
  rest := Text.spaces 0
  next := ⟨Text.spaces 0,
    wordKey "undefineds".toList (by decide) (by decide) (by decide) (by decide), Text.spaces 0,
    by decide, fun c first => by
      obtain rfl : 'u' = c := Option.some.inj first
      decide⟩
  after := []

end HomeCatalog.Stub
