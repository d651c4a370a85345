import HomeCatalog.Proofs.Stub.BlockEntries

/-!
# Exports in block lists

A block list names one symbol on each line, behind a dash, and nothing closes it but the key of the
next section.  So the scanner, inside of a list, takes the dash in front of the next group for one
more entry: the line that opens a group is listed as a symbol, unless the group is the first one.
The symbols themselves are listed as they are, but for some with colons where a key could end.
-/

namespace HomeCatalog.Stub

/-! ## Groups of exports -/

/-- A bracket at the end of an entry stays when it is read as a symbol. -/
theorem getLast?_blockSymbol {cs : List Char} (last : cs.getLast? = some ']') :
    (blockSymbol cs).getLast? = some ']' := by
  rw [blockSymbol]
  refine Text.getLast?_trim (by decide) ?_
  split
  · next marked =>
      obtain ⟨left, right, shape⟩ := Text.contains_iff_infix.mp marked
      have member : ']' ∈ cs := List.mem_of_getLast? last
      obtain ⟨before, behind, rfl, unclosed⟩ := List.eq_append_cons_of_mem member
      rw [Text.cut_append_cons unclosed, Option.getD_some]
      refine Text.getLast?_trim (by decide) ?_
      rcases List.eq_nil_or_concat behind with rfl | ⟨front, c, rfl⟩
      · -- The first bracket would be the last character, so no colon could follow one.
        have inFront : left ++ ']' :: (':' :: right).dropLast = before := by
          simpa [List.dropLast_append_of_ne_nil] using congrArg List.dropLast shape
        exact absurd (inFront ▸ List.mem_append_right _ List.mem_cons_self) unclosed
      · rw [List.concat_eq_append] at last ⊢
        rw [← List.cons_append, ← List.append_assoc, List.getLast?_concat] at last
        rw [List.getLast?_concat, last]
  · exact last

namespace BlockGroup

variable (group : BlockGroup)

theorem getLast?_headerSymbol : group.headerSymbol.getLast? = some ']' :=
  getLast?_blockSymbol (group.header.getLast?_body [])

theorem reads_header (inBlockList : Bool) :
    Reads (.among inBlockList) (.among inBlockList)
      (countedLines (group.header.dashedLine group.dash))
      (if inBlockList then [group.headerSymbol] else []) := by
  cases inBlockList with
  | false => exact group.header.reads_dashedLine group.dash
  | true =>
      have first : ∀ c ∈ group.header.body.head?, Text.isBlank c = false :=
        group.header.key.solid_colon _
      have last := group.header.getLast?_body []
      rw [List.nil_append] at last
      have solid : ∀ c ∈ group.header.body.getLast?, Text.isBlank c = false := by
        rw [last]
        rintro c ⟨⟩
        decide
      have filled : group.header.body ≠ [] := by
        intro empty
        rw [empty] at last
        cases last
      have other : startsWith "symbols:" group.header.body = false :=
        startsWith_eq_false_iff.mpr (group.header.key.not_symbols_prefix _)
      have symbolFilled : group.headerSymbol ≠ [] := by
        intro empty
        have symbolLast := group.getLast?_headerSymbol
        rw [empty] at symbolLast
        cases symbolLast
      refine reads_dashed group.dash true group.header.indent group.header.rest solid filled
        group.header.feed_notMem_body ?_
      rw [step_dashed group.dash first solid other]
      simpa [headerSymbol] using symbolFilled

theorem reads (inBlockList : Bool) :
    Reads (.among inBlockList) (.among true) (group.parts.flatMap countedLines)
      ((if inBlockList then [group.headerSymbol] else []) ++ group.taken) := by
  have above : Reads (.among inBlockList) (.among inBlockList)
      ((group.above.map Aside.chars).flatMap countedLines) [] := by
    rw [List.flatMap_map]
    exact Reads.silent fun aside _ => aside.reads inBlockList
  have lines : Reads (.among true) (.among true)
      ((group.lines.map BlockLine.chars).flatMap countedLines) group.taken := by
    rw [List.flatMap_map]
    exact Reads.flatMap fun line _ => line.reads
  have read := (group.reads_header inBlockList).append
    (above.append ((group.key.reads inBlockList).append lines))
  simpa [parts] using read

end BlockGroup

/-- What is listed for groups, in a list of the group above or not. -/
def listedFrom : (inBlockList : Bool) → List BlockGroup → List (List Char)
  | _, [] => []
  | inBlockList, group :: rest =>
      (if inBlockList then [group.headerSymbol] else []) ++ group.taken ++ listedFrom true rest

theorem reads_groups (groups : List BlockGroup) (inBlockList : Bool) :
    ∃ inBlockListAfter, Reads (.among inBlockList) (.among inBlockListAfter)
      ((groups.flatMap BlockGroup.parts).flatMap countedLines) (listedFrom inBlockList groups) := by
  induction groups generalizing inBlockList with
  | nil => exact ⟨inBlockList, Reads.nil _⟩
  | cons group rest ih =>
      obtain ⟨after, later⟩ := ih true
      refine ⟨after, ?_⟩
      rw [List.flatMap_cons, List.flatMap_append]
      exact (group.reads inBlockList).append later

variable (outline : Outline) (groups : List BlockGroup)

theorem exportedSymbols_blockGroups :
    exportedSymbols (outline.text (groups.flatMap BlockGroup.parts)) =
      ((listedFrom false groups).map String.ofList).eraseDups := by
  obtain ⟨after, read⟩ := reads_groups groups false
  exact outline.exportedSymbols_text read

theorem exportedSymbols_inFlow :
    exportedSymbols (outline.text ((groups.map BlockGroup.inFlow).flatMap FlowGroup.parts)) =
      ((groups.flatMap BlockGroup.symbols).map String.ofList).eraseDups := by
  have listed : Reads .inside (.among false)
      (((groups.map BlockGroup.inFlow).flatMap FlowGroup.parts).flatMap countedLines)
      ((groups.map BlockGroup.inFlow).flatMap fun group => group.list.symbols) := by
    rw [List.flatMap_assoc]
    exact Reads.flatMap fun group _ => group.reads
  rw [outline.exportedSymbols_text listed, List.flatMap_map]
  rfl

theorem mem_eraseDups_map_ofList {symbol : String} {symbols : List (List Char)} :
    symbol ∈ (symbols.map String.ofList).eraseDups ↔ symbol.toList ∈ symbols := by
  rw [List.mem_eraseDups, List.mem_map]
  constructor
  · rintro ⟨chars, member, rfl⟩
    rwa [String.toList_ofList]
  · intro member
    exact ⟨symbol.toList, member, String.ofList_toList⟩

theorem headerSymbol_notMem_symbols (group : BlockGroup) :
    group.headerSymbol ∉ groups.flatMap BlockGroup.symbols := by
  intro member
  obtain ⟨other, _, inOther⟩ := List.mem_flatMap.mp member
  obtain ⟨item, _, same⟩ := List.mem_map.mp inOther
  refine item.symbol.unbracketed ?_
  rw [same]
  exact List.mem_of_getLast? group.getLast?_headerSymbol

/-- Whether groups are listed as they are: there is at most one, since the next would be opened in
the list of the first, and its lines are listed as the symbols that they name. -/
structure AreListedWhole (groups : List BlockGroup) : Prop where
  single : groups.length ≤ 1
  whole : ∀ symbol, symbol ∈ groups.flatMap BlockGroup.taken ↔
    symbol ∈ groups.flatMap BlockGroup.symbols

theorem areListedWhole_iff :
    (∀ symbol, symbol ∈ listedFrom false groups ↔ symbol ∈ groups.flatMap BlockGroup.symbols) ↔
      AreListedWhole groups := by
  have split : AreListedWhole groups ↔ groups.length ≤ 1 ∧
      ∀ symbol, symbol ∈ groups.flatMap BlockGroup.taken ↔
        symbol ∈ groups.flatMap BlockGroup.symbols :=
    ⟨fun listed => ⟨listed.single, listed.whole⟩, fun ⟨single, whole⟩ => ⟨single, whole⟩⟩
  rw [split]
  match groups with
  | [] => simp [listedFrom]
  | [group] => simp [listedFrom]
  | first :: second :: rest =>
      refine iff_of_false (fun exact => ?_) (by simp)
      have listed : second.headerSymbol ∈ listedFrom false (first :: second :: rest) := by
        simp [listedFrom]
      exact headerSymbol_notMem_symbols _ second ((exact second.headerSymbol).mp listed)

/-- Lines whose colons are clear are listed as they are. -/
theorem taken_eq_symbols {group : BlockGroup}
    (clear : ∀ entry, .listed entry ∈ group.lines → entry.IsClear) :
    group.taken = group.symbols := by
  rw [BlockGroup.taken, BlockGroup.symbols, BlockGroup.items, List.map_flatMap]
  refine List.flatMap_congr fun line member => ?_
  cases line with
  | passed aside => rfl
  | listed entry => exact BlockEntry.taken_of_isClear (clear entry member)

theorem areListedWhole_iff_of_isClear
    (clear : ∀ group ∈ groups, ∀ entry, .listed entry ∈ group.lines → entry.IsClear) :
    AreListedWhole groups ↔ groups.length ≤ 1 := by
  refine ⟨AreListedWhole.single, fun single => ⟨single, fun symbol => ?_⟩⟩
  have same : groups.flatMap BlockGroup.taken = groups.flatMap BlockGroup.symbols :=
    List.flatMap_congr fun group member => taken_eq_symbols (clear group member)
  rw [same]

/-- A stub exports exactly the symbols that its block lists name, and the same as with flow lists in
their place, just when its groups are listed as they are.  When all colons are clear, this is so
just when there is at most one group. -/
theorem exportedSymbols_blockGroups_iff :
    ((∀ symbol, symbol ∈ exportedSymbols (outline.text (groups.flatMap BlockGroup.parts)) ↔
          symbol.toList ∈ groups.flatMap BlockGroup.symbols) ↔
        AreListedWhole groups) ∧
      ((∀ symbol, symbol ∈ exportedSymbols (outline.text (groups.flatMap BlockGroup.parts)) ↔
          symbol ∈ exportedSymbols
            (outline.text ((groups.map BlockGroup.inFlow).flatMap FlowGroup.parts))) ↔
        AreListedWhole groups) ∧
      ((∀ group ∈ groups, ∀ entry, .listed entry ∈ group.lines → entry.IsClear) →
        (AreListedWhole groups ↔ groups.length ≤ 1)) := by
  have exactly : (∀ symbol,
      symbol ∈ exportedSymbols (outline.text (groups.flatMap BlockGroup.parts)) ↔
        symbol.toList ∈ groups.flatMap BlockGroup.symbols) ↔ AreListedWhole groups := by
    rw [exportedSymbols_blockGroups, ← areListedWhole_iff]
    simp only [mem_eraseDups_map_ofList]
    refine ⟨fun same symbol => ?_, fun same symbol => same symbol.toList⟩
    have listed := same (String.ofList symbol)
    rwa [String.toList_ofList] at listed
  have inFlow : ∀ symbol, symbol ∈ exportedSymbols
      (outline.text ((groups.map BlockGroup.inFlow).flatMap FlowGroup.parts)) ↔
        symbol.toList ∈ groups.flatMap BlockGroup.symbols := by
    intro symbol
    rw [exportedSymbols_inFlow]
    exact mem_eraseDups_map_ofList
  refine ⟨exactly, ?_, areListedWhole_iff_of_isClear groups⟩
  simp only [inFlow]
  exact exactly

/-! ## A stub for two architectures -/

/-- A group for some architectures. -/
def architectureGroup (architectures : List Char) (feedless : '\n' ∉ architectures)
    (lines : List BlockLine) : BlockGroup where
  dash := Text.spaces 0
  header := ⟨Text.spaces 0, architecturesKey, Text.spaces 1, architectures, feedless,
    Text.spaces 0⟩
  above := []
  key := ⟨Text.spaces 2, Text.spaces 0⟩
  lines := lines

/-- A symbol behind a dash. -/
def bareEntry (qualifier : Option Qualifier) (symbol : Symbol) (unopened : '[' ∉ symbol.chars) :
    BlockLine :=
  .listed ⟨Text.spaces 2, Text.spaces 0, qualifier, .bare, symbol, unopened, Text.spaces 0⟩

/-- A symbol that starts like the key of the symbols, and ends in a colon. -/
def colonSymbol : Symbol :=
  ⟨"symbols:x:".toList, by decide, Text.eq_false_of_any (by decide),
    Text.eq_false_of_any (by decide), by decide, by decide⟩

def armQualifier : Qualifier :=
  ⟨" 'armv7' ".toList, by decide, by decide, [' '], List.forall_mem_singleton.mpr (.inl rfl)⟩

/-- One group is listed as it is, in either form. -/
theorem exportedSymbols_oneBlockGroup :
    let groups := [architectureGroup " armv7 ".toList (by decide)
      [bareEntry none lampSymbol (by decide),
        .passed (.comment (Text.spaces 2) " fans".toList (by decide)),
        bareEntry (some armQualifier) fanSymbol (by decide)]]
    (∀ group ∈ groups, ∀ entry, .listed entry ∈ group.lines → entry.IsClear) ∧
      AreListedWhole groups ∧
      ∀ symbol, symbol ∈ exportedSymbols (bareOutline.text (groups.flatMap BlockGroup.parts)) ↔
        symbol.toList ∈ groups.flatMap BlockGroup.symbols := by
  intro groups
  obtain ⟨exactly, _, clearly⟩ := exportedSymbols_blockGroups_iff bareOutline groups
  have clear : ∀ group ∈ groups, ∀ entry, .listed entry ∈ group.lines → entry.IsClear := by
    intro group member entry listed
    rw [List.mem_singleton.mp member] at listed
    simp only [architectureGroup, bareEntry, List.mem_cons, List.not_mem_nil, or_false,
      BlockLine.listed.injEq, reduceCtorEq, false_or] at listed
    rcases listed with rfl | rfl
    · exact (by decide : ¬"symbols:".toList <+: lampSymbol.chars)
    · exact (by decide : fanSymbol.chars.head? ≠ some ':' ∧ fanSymbol.chars.getLast? ≠ some ':')
  have listed := (clearly clear).mpr (by decide)
  exact ⟨clear, listed, exactly.mpr listed⟩

/-- The line that opens the second group is listed, a symbol is taken for a key, and another one
loses its colon. -/
theorem exportedSymbols_twoBlockGroups :
    let groups := [
      architectureGroup " armv7 ".toList (by decide) [bareEntry none lampSymbol (by decide)],
      architectureGroup " arm64 ".toList (by decide) [bareEntry none fanSymbol (by decide)]]
    let colons := [architectureGroup " armv7 ".toList (by decide)
      [bareEntry none colonSymbol (by decide),
        bareEntry (some armQualifier) colonSymbol (by decide)]]
    (bareOutline.text (groups.flatMap BlockGroup.parts) =
        "exports:\n- archs: [ armv7 ]\n  symbols:\n  - _Lamp\n" ++
          "- archs: [ arm64 ]\n  symbols:\n  - _Fan\nundefineds:" ∧
      groups.flatMap BlockGroup.symbols = ["_Lamp".toList, "_Fan".toList] ∧
      exportedSymbols (bareOutline.text (groups.flatMap BlockGroup.parts)) =
        ["_Lamp", "archs: [ arm64 ]", "_Fan"]) ∧
    (bareOutline.text (colons.flatMap BlockGroup.parts) =
        "exports:\n- archs: [ armv7 ]\n  symbols:\n  - symbols:x:\n" ++
          "  - [ 'armv7' ]: symbols:x:\nundefineds:" ∧
      colons.flatMap BlockGroup.symbols = ["symbols:x:".toList, "symbols:x:".toList] ∧
      exportedSymbols (bareOutline.text (colons.flatMap BlockGroup.parts)) = ["symbols:x"]) := by
  decide +kernel

end HomeCatalog.Stub
