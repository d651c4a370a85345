import HomeCatalog.Proofs.Stub.Outline

/-!
# Exports in flow lists

A flow list stands in brackets, with commas between its items, and may run over any number of lines.
The lines are read one by one, so it has to make no difference how a list is broken.  A stub whose
groups hold flow lists exports the items of these lists, and nothing else that stands in brackets.
-/

namespace HomeCatalog.Stub

/-! ## The symbols of a list -/

/-- The symbols in a piece of a flow list that has no closing bracket. -/
def symbolsIn (piece : List Char) : List (List Char) :=
  ((Text.splitOn ',' piece).map fun token =>
    Text.trim isQuoteMark (Text.strip token)).filter fun symbol => !symbol.isEmpty

theorem flowSymbols_of_unclosed {piece : List Char} (unclosed : ']' ∉ piece) :
    flowSymbols piece = symbolsIn piece := by
  rw [flowSymbols, Text.cut_of_absent unclosed]
  rfl

theorem flowSymbols_append_bracket {piece : List Char} (unclosed : ']' ∉ piece)
    (rest : List Char) : flowSymbols (piece ++ ']' :: rest) = symbolsIn piece := by
  rw [flowSymbols, Text.cut_append_cons unclosed]
  rfl

theorem leavesOpen_of_unclosed {piece : List Char} (unclosed : ']' ∉ piece) :
    leavesOpen piece = true := by
  rw [leavesOpen, Text.cut_of_absent unclosed]
  rfl

theorem leavesOpen_append_bracket {piece : List Char} (unclosed : ']' ∉ piece)
    (rest : List Char) : leavesOpen (piece ++ ']' :: rest) = false := by
  rw [leavesOpen, Text.cut_append_cons unclosed]
  rfl

theorem symbolsIn_append_comma (left right : List Char) :
    symbolsIn (left ++ ',' :: right) = symbolsIn left ++ symbolsIn right := by
  rw [symbolsIn, Text.splitOn_append_separator, List.map_append, List.filter_append]
  rfl

section

variable {spaces : List Char} (blank : ∀ c ∈ spaces, Text.isBlank c = true)

include blank

theorem symbolsIn_of_blank : symbolsIn spaces = [] := by
  have undivided : ',' ∉ spaces := Text.notMem_of_blank blank (by decide)
  rw [symbolsIn, Text.splitOn_of_absent undivided, List.map_singleton,
    Text.strip_eq_nil_iff.mpr blank]
  rfl

theorem symbolsIn_blank_append (cs : List Char) : symbolsIn (spaces ++ cs) = symbolsIn cs := by
  have undivided : ',' ∉ spaces := Text.notMem_of_blank blank (by decide)
  obtain ⟨first, later, alone, whole⟩ := Text.splitOn_append_of_absent_left undivided cs
  rw [symbolsIn, whole, symbolsIn, alone, List.map_cons, List.map_cons,
    Text.strip_append_of_blank (List.all_eq_true.mpr blank)]

theorem symbolsIn_append_blank (cs : List Char) : symbolsIn (cs ++ spaces) = symbolsIn cs := by
  have undivided : ',' ∉ spaces := Text.notMem_of_blank blank (by decide)
  obtain ⟨front, last, alone, whole⟩ := Text.splitOn_append_of_absent_right undivided cs
  rw [symbolsIn, whole, symbolsIn, alone, List.map_append, List.map_append, List.map_singleton,
    List.map_singleton, Text.strip_append_blank last blank]

end

theorem symbolsIn_dropWhile (cs : List Char) :
    symbolsIn (cs.dropWhile Text.isBlank) = symbolsIn cs := by
  conv_rhs => rw [← List.takeWhile_append_dropWhile (p := Text.isBlank) (l := cs)]
  rw [symbolsIn_blank_append fun c member => List.mem_takeWhile_imp member]

theorem symbolsIn_rdropWhile (cs : List Char) :
    symbolsIn (cs.rdropWhile Text.isBlank) = symbolsIn cs := by
  conv_rhs => rw [← List.rdropWhile_append_rtakeWhile (p := Text.isBlank) (l := cs)]
  rw [symbolsIn_append_blank fun c member => List.mem_rtakeWhile_imp member]

theorem symbolsIn_strip (cs : List Char) : symbolsIn (Text.strip cs) = symbolsIn cs := by
  rw [Text.strip_eq_rdropWhile, symbolsIn_rdropWhile, symbolsIn_dropWhile]

/-! ## Lists that run over lines -/

/-- The symbols in a text, line by line. -/
def listedIn (cs : List Char) : List (List Char) :=
  (Text.lines cs).flatMap symbolsIn

theorem listedIn_of_feedless {line : List Char} (feedless : '\n' ∉ line) :
    listedIn line = symbolsIn line := by
  rw [listedIn, Text.lines, Text.splitOn_of_absent feedless, List.flatMap_singleton]

theorem listedIn_append_feed (left right : List Char) :
    listedIn (left ++ '\n' :: right) = listedIn left ++ listedIn right := by
  rw [listedIn, Text.lines_append_feed, List.flatMap_append]
  rfl

/-- A comma divides the symbols like the end of a line. -/
theorem listedIn_append_comma (left right : List Char) :
    listedIn (left ++ ',' :: right) = listedIn left ++ listedIn right := by
  obtain ⟨front, last, first, later, before, behind, whole⟩ := Text.lines_append left (',' :: right)
  obtain ⟨next, others, ahead⟩ : ∃ next others, Text.lines right = next :: others :=
    List.exists_cons_of_ne_nil (Text.splitOn_ne_nil '\n' right)
  have opened : Text.lines (',' :: right) = (',' :: next) :: others := by
    rw [Text.lines, Text.splitOn_cons, if_neg (by decide), ← Text.lines, ahead, Text.consHead]
  obtain ⟨rfl, rfl⟩ := List.cons.inj (opened.symm.trans behind)
  rw [listedIn, whole, listedIn, before, listedIn, ahead]
  simp [symbolsIn_append_comma]

section

variable {spaces : List Char}

theorem listedIn_blank_append (blank : ∀ c ∈ spaces, Text.isBlank c = true) (cs : List Char) :
    listedIn (spaces ++ cs) = listedIn cs := by
  induction spaces using Text.lines_induction with
  | single line feedless =>
      obtain ⟨first, later, alone, whole⟩ := Text.splitOn_append_of_absent_left feedless cs
      rw [listedIn, Text.lines, whole, listedIn, Text.lines, alone, List.flatMap_cons,
        symbolsIn_blank_append blank, List.flatMap_cons]
  | feed line rest feedless ih =>
      obtain ⟨lineBlank, restBlank⟩ := List.forall_mem_append.mp blank
      rw [List.append_assoc, List.cons_append, listedIn_append_feed, listedIn_of_feedless feedless,
        symbolsIn_of_blank lineBlank, ih (List.forall_mem_cons.mp restBlank).2, List.nil_append]

theorem listedIn_append_blank (blank : ∀ c ∈ spaces, Text.isBlank c = true) (cs : List Char) :
    listedIn (cs ++ spaces) = listedIn cs := by
  have within : ∀ (line : List Char), '\n' ∉ line → (∀ c ∈ line, Text.isBlank c = true) →
      listedIn (cs ++ line) = listedIn cs := by
    intro line feedless blank
    obtain ⟨front, last, alone, whole⟩ := Text.splitOn_append_of_absent_right feedless cs
    rw [listedIn, Text.lines, whole, listedIn, Text.lines, alone, List.flatMap_append,
      List.flatMap_append, List.flatMap_singleton, List.flatMap_singleton,
      symbolsIn_append_blank blank]
  induction spaces using Text.lines_induction with
  | single line feedless => exact within line feedless blank
  | feed line rest feedless ih =>
      obtain ⟨lineBlank, restBlank⟩ := List.forall_mem_append.mp blank
      have vanished := listedIn_blank_append (List.forall_mem_cons.mp restBlank).2 []
      rw [List.append_nil] at vanished
      rw [← List.append_assoc, listedIn_append_feed, within line feedless lineBlank, vanished]
      exact List.append_nil _

end

/-! ## Items -/

/-- How a symbol is quoted. -/
inductive Quoting where
  | bare
  | single
  | double

/-- The quote on both sides of a symbol. -/
def Quoting.marks : Quoting → List Char
  | bare => []
  | single => ['\'']
  | double => ['"']

/-- A symbol that can be listed. -/
structure Symbol where
  chars : List Char
  filled : chars ≠ []
  unspaced : ∀ c ∈ chars, Text.isBlank c = false
  unquoted : ∀ c ∈ chars, isQuoteMark c = false
  undivided : ',' ∉ chars
  unbracketed : ']' ∉ chars

/-- An item of a flow list, with white space on both sides. -/
structure Item where
  before : Text.Space
  quoting : Quoting
  symbol : Symbol
  after : Text.Space

namespace Item

variable (item : Item)

/-- The symbol of an item in its quotes. -/
def quoted : List Char :=
  item.quoting.marks ++ item.symbol.chars ++ item.quoting.marks

def text : List Char :=
  item.before.chars ++ (item.quoted ++ item.after.chars)

theorem isQuoteMark_of_mem_marks : ∀ c ∈ item.quoting.marks, isQuoteMark c = true :=
  List.all_eq_true.mp (by cases item.quoting <;> decide)

theorem isBlank_of_mem_quoted : ∀ c ∈ item.quoted, Text.isBlank c = false := by
  have marked : ∀ c ∈ item.quoting.marks, Text.isBlank c = false :=
    Text.isBlank_eq_false_of_all_isInk (by cases item.quoting <;> decide)
  exact List.forall_mem_append.mpr
    ⟨List.forall_mem_append.mpr ⟨marked, item.symbol.unspaced⟩, marked⟩

theorem notMem_quoted {c : Char} (unquoted : isQuoteMark c = false)
    (absent : c ∉ item.symbol.chars) : c ∉ item.quoted := by
  have unmarked : c ∉ item.quoting.marks := by
    intro member
    rw [item.isQuoteMark_of_mem_marks c member] at unquoted
    cases unquoted
  simp [quoted, unmarked, absent]

/-- An item lists its symbol, without quotes and white space. -/
theorem listedIn_text : listedIn item.text = [item.symbol.chars] := by
  have feedless : '\n' ∉ item.quoted :=
    fun member => absurd (item.isBlank_of_mem_quoted _ member) (by decide)
  have undivided : ',' ∉ item.quoted := item.notMem_quoted (by decide) item.symbol.undivided
  have trimmed : Text.strip item.quoted = item.quoted :=
    Text.isTrimmed_of_ends
      (fun c first => item.isBlank_of_mem_quoted c (List.mem_of_mem_head? first))
      (fun c last => item.isBlank_of_mem_quoted c (List.mem_of_getLast? last))
  have bare : Text.trim isQuoteMark item.quoted = item.symbol.chars :=
    Text.trim_of_runs item.isQuoteMark_of_mem_marks item.isQuoteMark_of_mem_marks
      item.symbol.filled item.symbol.unquoted
  rw [text, listedIn_blank_append item.before.blank, listedIn_append_blank item.after.blank,
    listedIn_of_feedless feedless, symbolsIn, Text.splitOn_of_absent undivided,
    List.map_singleton, trimmed, bare]
  simp [item.symbol.filled]

theorem bracket_notMem_text : ']' ∉ item.text := by
  have unbracketed : ']' ∉ item.quoted := item.notMem_quoted (by decide) item.symbol.unbracketed
  have inBefore : ']' ∉ item.before.chars := Text.notMem_of_blank item.before.blank (by decide)
  have inAfter : ']' ∉ item.after.chars := Text.notMem_of_blank item.after.blank (by decide)
  simp [text, unbracketed, inBefore, inAfter]

end Item

/-- The items of a list with commas between them list their symbols. -/
theorem listedIn_items (items : List Item) :
    listedIn (Text.joinWith [','] (items.map Item.text)) =
      items.map fun item => item.symbol.chars := by
  induction items with
  | nil => rfl
  | cons item items ih =>
      cases items with
      | nil => exact item.listedIn_text
      | cons next items =>
          rw [List.map_cons, Text.joinWith_cons_of_ne_nil _ (by simp), List.append_assoc,
            List.singleton_append, listedIn_append_comma, item.listedIn_text, ih]
          rfl

/-! ## Reading a list -/

/-- Where the lines of a flow list stand, but for its first one. -/
def Position.listing : Position := ⟨true, false, true⟩

theorem step_listing (line : List Char) :
    step .listing line = (⟨true, false, leavesOpen line⟩, flowSymbols line) := by
  unfold step
  rfl

/-- A line inside of a list is read for its symbols, and a blank one is passed over. -/
theorem reads_of_unclosed {line : List Char} (feedless : '\n' ∉ line) (unclosed : ']' ∉ line) :
    Reads .listing .listing (countedLines line) (symbolsIn line) := by
  by_cases empty : Text.strip line = []
  · rw [countedLines_of_feedless feedless, if_pos empty,
      symbolsIn_of_blank (Text.strip_eq_nil_iff.mp empty)]
    exact Reads.nil _
  · have stripUnclosed : ']' ∉ Text.strip line :=
      fun member => unclosed ((Text.strip_sublist line).subset member)
    refine Reads.line feedless ?_ empty
    rw [step_listing, leavesOpen_of_unclosed stripUnclosed, flowSymbols_of_unclosed stripUnclosed,
      symbolsIn_strip]
    rfl

/-- An open list is read up to its closing bracket, however many lines it runs over. -/
theorem reads_of_bracket {inner : List Char} (unclosed : ']' ∉ inner) (rest : Text.Margin) :
    Reads .listing .inside (countedLines (inner ++ ']' :: rest.chars)) (listedIn inner) := by
  induction inner using Text.lines_induction with
  | single line feedless =>
      have trimmed : Text.strip (line ++ ']' :: rest.chars) =
          line.dropWhile Text.isBlank ++ [']'] := by
        rw [Text.strip_append_cons (by decide), List.rdropWhile_eq_nil_iff.mpr rest.blank]
      have dropUnclosed : ']' ∉ line.dropWhile Text.isBlank :=
        fun member => unclosed ((List.dropWhile_suffix _).subset member)
      refine Reads.line ?_ ?_ ?_
      · simp [feedless, rest.feedless]
      · rw [trimmed, step_listing, leavesOpen_append_bracket dropUnclosed,
          flowSymbols_append_bracket dropUnclosed, symbolsIn_dropWhile,
          listedIn_of_feedless feedless]
        rfl
      · simp [trimmed]
  | feed line inner feedless ih =>
      rw [List.mem_append, not_or] at unclosed
      obtain ⟨lineUnclosed, laterUnclosed⟩ := unclosed
      have later := ih fun member => laterUnclosed (List.mem_cons_of_mem _ member)
      rw [List.append_assoc, List.cons_append, countedLines_append_feed, listedIn_append_feed,
        listedIn_of_feedless feedless]
      exact (reads_of_unclosed feedless lineUnclosed).append later

/-- A list of symbols, with white space around it and between the bracket and the first item. -/
structure FlowList where
  indent : Text.Margin
  gap : Text.Margin
  opening : Text.Space
  items : List Item
  rest : Text.Margin

namespace FlowList

variable (list : FlowList)

/-- The key of a list and its bracket, in front of a text. -/
def keyed (piece : List Char) : List Char :=
  list.indent.chars ++ ("symbols:".toList ++ list.gap.chars) ++ '[' :: piece

/-- What stands in the brackets. -/
def inner : List Char :=
  list.opening.chars ++ Text.joinWith [','] (list.items.map Item.text)

def text : List Char :=
  list.keyed (list.inner ++ ']' :: list.rest.chars)

/-- The symbols of the items. -/
def symbols : List (List Char) :=
  list.items.map fun item => item.symbol.chars

theorem listedIn_inner : listedIn list.inner = list.symbols := by
  rw [inner, listedIn_blank_append list.opening.blank, listedIn_items]
  rfl

theorem bracket_notMem_inner : ']' ∉ list.inner := by
  intro member
  rcases List.mem_append.mp member with inOpening | inItems
  · exact Text.notMem_of_blank list.opening.blank (by decide) inOpening
  · rcases Text.mem_of_mem_joinWith inItems with isComma | ⟨piece, inPieces, inPiece⟩
    · exact absurd isComma (by decide)
    · obtain ⟨item, _, rfl⟩ := List.mem_map.mp inPieces
      exact item.bracket_notMem_text inPiece

/-- The key of the symbols and a bracket open a list. -/
theorem step_keyed {piece : List Char} (trimmed : piece.rdropWhile Text.isBlank = piece) :
    step .inside ("symbols:".toList ++ list.gap.chars ++ '[' :: piece) =
      (⟨true, false, leavesOpen piece⟩, flowSymbols piece) := by
  rw [List.append_assoc]
  have noExports :
      ¬"exports:".toList <+: "symbols:".toList ++ (list.gap.chars ++ '[' :: piece) := by
    rintro ⟨rest, same⟩
    exact absurd (congrArg List.head? same) (by simp)
  have undashed : ¬"- ".toList <+: "symbols:".toList ++ (list.gap.chars ++ '[' :: piece) := by
    rintro ⟨rest, same⟩
    exact absurd (congrArg List.head? same) (by simp)
  have key : keyText ("symbols:".toList ++ (list.gap.chars ++ '[' :: piece)) =
      "symbols:".toList ++ (list.gap.chars ++ '[' :: piece) := by
    rw [keyText, startsWith_eq_false_iff.mpr undashed]
    rfl
  have value : Text.strip (("symbols:".toList ++ (list.gap.chars ++ '[' :: piece)).drop 8) =
      '[' :: piece := by
    have gapless : list.gap.chars.dropWhile Text.isBlank = [] :=
      List.dropWhile_eq_nil_iff.mpr list.gap.blank
    rw [List.drop_left' (by decide), Text.strip_append_cons (by decide), gapless, trimmed]
    rfl
  unfold step
  simp only [startsWith_eq_false_iff.mpr noExports, key,
    startsWith_iff.mpr (List.prefix_append _ _), value]
  rfl

/-- The line that opens a list is read for its symbols. -/
theorem reads_keyed {piece : List Char} (feedless : '\n' ∉ piece) :
    Reads .inside ⟨true, false, leavesOpen (piece.rdropWhile Text.isBlank)⟩
      (countedLines (list.keyed piece)) (flowSymbols (piece.rdropWhile Text.isBlank)) := by
  have front : (list.indent.chars ++ ("symbols:".toList ++ list.gap.chars)).dropWhile Text.isBlank =
      "symbols:".toList ++ list.gap.chars := by
    refine Text.dropWhile_run list.indent.blank ?_
    intro c first
    obtain rfl : c = 's' := by simpa using first.symm
    decide
  have trimmed : Text.strip (list.keyed piece) =
      "symbols:".toList ++ list.gap.chars ++ '[' :: piece.rdropWhile Text.isBlank := by
    rw [keyed, Text.strip_append_cons (by decide), front]
  refine Reads.line ?_ ?_ ?_
  · simp [keyed, list.indent.feedless, list.gap.feedless, feedless]
  · rw [trimmed]
    exact list.step_keyed (List.rdropWhile_idempotent _ _)
  · simp [trimmed]

/-- A list is read from its key to its closing bracket. -/
theorem reads_keyed_of_bracket {inner : List Char} (unclosed : ']' ∉ inner) :
    Reads .inside .inside (countedLines (list.keyed (inner ++ ']' :: list.rest.chars)))
      (listedIn inner) := by
  induction inner using Text.lines_induction with
  | single line feedless =>
      have trimmed : (line ++ ']' :: list.rest.chars).rdropWhile Text.isBlank = line ++ [']'] := by
        rw [Text.rdropWhile_append_cons (by decide), List.rdropWhile_eq_nil_iff.mpr list.rest.blank]
      have whole : '\n' ∉ line ++ ']' :: list.rest.chars := by simp [feedless, list.rest.feedless]
      have read := list.reads_keyed whole
      rw [trimmed, leavesOpen_append_bracket unclosed, flowSymbols_append_bracket unclosed] at read
      rw [listedIn_of_feedless feedless]
      exact read
  | feed line inner feedless ih =>
      rw [List.mem_append, not_or] at unclosed
      obtain ⟨lineUnclosed, laterUnclosed⟩ := unclosed
      have dropUnclosed : ']' ∉ line.rdropWhile Text.isBlank :=
        fun member => lineUnclosed (List.IsPrefix.subset (by apply List.rdropWhile_prefix) member)
      have first := list.reads_keyed feedless
      rw [leavesOpen_of_unclosed dropUnclosed, flowSymbols_of_unclosed dropUnclosed,
        symbolsIn_rdropWhile] at first
      have later := reads_of_bracket (fun member => laterUnclosed (List.mem_cons_of_mem _ member))
        list.rest
      have shape : list.keyed (line ++ '\n' :: inner ++ ']' :: list.rest.chars) =
          list.keyed line ++ '\n' :: (inner ++ ']' :: list.rest.chars) := by simp [keyed]
      rw [shape, countedLines_append_feed, listedIn_append_feed, listedIn_of_feedless feedless]
      exact first.append later

theorem reads : Reads .inside .inside (countedLines list.text) list.symbols := by
  rw [← listedIn_inner]
  exact list.reads_keyed_of_bracket list.bracket_notMem_inner

end FlowList

/-! ## Groups of exports -/

/-- A group of exports: an entry behind a dash, a list of symbols, and any other entries around the
list. -/
structure FlowGroup where
  dash : Text.Margin
  header : Entry
  before : List Entry
  list : FlowList
  after : List Entry

namespace FlowGroup

variable (group : FlowGroup)

/-- The parts of a group, from top to bottom. -/
def parts : List (List Char) :=
  group.header.dashedLine group.dash ::
    (group.before.map Entry.line ++ group.list.text :: group.after.map Entry.line)

/-- The symbols that a group lists. -/
def symbols : List String :=
  group.list.symbols.map String.ofList

theorem reads : Reads .inside .inside (group.parts.flatMap countedLines) group.list.symbols := by
  have entries : ∀ entries : List Entry,
      Reads .inside .inside ((entries.map Entry.line).flatMap countedLines) [] := by
    intro entries
    rw [List.flatMap_map]
    exact Reads.silent fun entry _ => entry.reads_line
  have read := (group.header.reads_dashedLine group.dash).append
    ((entries group.before).append (group.list.reads.append (entries group.after)))
  simpa [parts] using read

end FlowGroup

/-- A stub exports exactly the symbols that its groups list, each of them once. -/
theorem exportedSymbols_flowGroups (outline : Outline) (groups : List FlowGroup) :
    exportedSymbols (outline.text (groups.flatMap FlowGroup.parts)) =
      (groups.flatMap FlowGroup.symbols).eraseDups := by
  have listed : Reads .inside ⟨true, false, false⟩
      ((groups.flatMap FlowGroup.parts).flatMap countedLines)
      (groups.flatMap fun group => group.list.symbols) := by
    rw [List.flatMap_assoc]
    exact Reads.flatMap fun group _ => group.reads
  rw [outline.exportedSymbols_text listed, List.map_flatMap]
  rfl

/-! ## A stub for two architectures -/

def lampSymbol : Symbol :=
  ⟨"_Lamp".toList, by decide, Text.eq_false_of_any (by decide), Text.eq_false_of_any (by decide),
    by decide, by decide⟩

def fanSymbol : Symbol :=
  ⟨"_Fan".toList, by decide, Text.eq_false_of_any (by decide), Text.eq_false_of_any (by decide),
    by decide, by decide⟩

/-- A group whose list is broken behind a comma, with a blank line and another list below it. -/
def brokenGroup : FlowGroup where
  dash := Text.spaces 0
  header := ⟨Text.spaces 0, architecturesKey, Text.spaces 1, " armv7 ".toList, by decide,
    Text.spaces 0⟩
  before := []
  list := {
    indent := Text.spaces 2
    gap := Text.spaces 1
    opening := (Text.spaces 1).toSpace
    items := [
      ⟨(Text.spaces 0).toSpace, .bare, lampSymbol, (Text.spaces 0).toSpace⟩,
      ⟨⟨"\n\n    ".toList, List.all_eq_true.mp (by decide)⟩, .single, fanSymbol,
        (Text.spaces 1).toSpace⟩ ]
    rest := Text.spaces 0 }
  after := [⟨Text.spaces 2,
    wordKey "objc-classes".toList (by decide) (by decide) (by decide) (by decide), Text.spaces 1,
    " Lamp ".toList, by decide, Text.spaces 0⟩]

/-- A group that lists a symbol again, in other quotes. -/
def repeatedGroup : FlowGroup where
  dash := Text.spaces 0
  header := ⟨Text.spaces 0,
    wordKey "targets".toList (by decide) (by decide) (by decide) (by decide), Text.spaces 1,
    " arm64-ios ".toList, by decide, Text.spaces 0⟩
  before := []
  list := {
    indent := Text.spaces 2
    gap := Text.spaces 0
    opening := (Text.spaces 0).toSpace
    items := [⟨(Text.spaces 0).toSpace, .double, fanSymbol, (Text.spaces 0).toSpace⟩]
    rest := Text.spaces 0 }
  after := []

/-- The symbols of both groups are exported, and what stands in other brackets is not. -/
theorem exportedSymbols_twoFlowGroups :
    bareOutline.text ([brokenGroup, repeatedGroup].flatMap FlowGroup.parts) =
        "exports:\n- archs: [ armv7 ]\n  symbols: [ _Lamp,\n\n    '_Fan' ]\n" ++
          "  objc-classes: [ Lamp ]\n- targets: [ arm64-ios ]\n  symbols:[\"_Fan\"]\n" ++
          "undefineds:" ∧
      exportedSymbols (bareOutline.text ([brokenGroup, repeatedGroup].flatMap FlowGroup.parts)) =
        ["_Lamp", "_Fan"] := by
  constructor
  · decide +kernel
  · rw [exportedSymbols_flowGroups]
    decide +kernel

end HomeCatalog.Stub
