import HomeCatalog.Proofs.Stub.BlockLines

/-!
# Entries of a block list

An entry names a symbol behind a dash, quoted or not, with or without a qualifier in front of it.
It is listed as the symbol that it names, unless the symbol is bare and has colons where a key could
end.  A group of exports is a line that opens it, the key of the symbols, and the lines of a list.
-/

namespace HomeCatalog.Stub

/-! ## Entries -/

/-- The architectures for which alone a symbol is exported, in front of it.  Behind their colon
stand spaces and tabulators. -/
structure Qualifier where
  architectures : List Char
  unclosed : ']' ∉ architectures
  feedless : '\n' ∉ architectures
  gap : List Char
  spaced : ∀ c ∈ gap, c = ' ' ∨ c = '\t'

/-- What divides a symbol from its qualifier. -/
def isSeparator (c : Char) : Bool :=
  c == ':' || c == ' ' || c == '\t'

namespace Qualifier

variable (qualifier : Qualifier)

/-- A qualifier in front of a text. -/
def before (cs : List Char) : List Char :=
  '[' :: qualifier.architectures ++ ']' :: ':' :: (qualifier.gap ++ cs)

theorem isSeparator_of_mem_gap : ∀ c ∈ ':' :: qualifier.gap, isSeparator c = true := by
  refine List.forall_mem_cons.mpr ⟨by decide, ?_⟩
  intro c member
  rcases qualifier.spaced c member with rfl | rfl <;> decide

theorem blockSymbol_before (cs : List Char) : blockSymbol (qualifier.before cs) =
    Text.trim isQuoteMark (Text.trim isSeparator cs) := by
  have marked : Text.contains [']', ':'] (qualifier.before cs) = true :=
    Text.contains_iff_infix.mpr
      ⟨'[' :: qualifier.architectures, qualifier.gap ++ cs, by simp [before]⟩
  have unclosed : ']' ∉ '[' :: qualifier.architectures := by simp [qualifier.unclosed]
  have behind : (Text.cut ']' (qualifier.before cs)).2 = some (':' :: (qualifier.gap ++ cs)) := by
    rw [before, Text.cut_append_cons unclosed]
  have trimmed := Text.trim_append_of_run qualifier.isSeparator_of_mem_gap cs
  rw [List.cons_append] at trimmed
  rw [blockSymbol, if_pos marked, behind, ← trimmed]
  rfl

end Qualifier

/-- An entry of a block list: a dash and a symbol, which may be quoted and qualified. -/
structure BlockEntry where
  indent : Text.Margin
  dash : Text.Margin
  qualifier : Option Qualifier
  quoting : Quoting
  symbol : Symbol
  unopened : '[' ∉ symbol.chars
  rest : Text.Margin

namespace BlockEntry

variable (entry : BlockEntry)

/-- The symbol of an entry as an item of a flow list. -/
def item : Item where
  before := ⟨[], nofun⟩
  quoting := entry.quoting
  symbol := entry.symbol
  after := ⟨[], nofun⟩

/-- What stands behind the dash. -/
def body : List Char :=
  match entry.qualifier with
  | none => entry.item.quoted
  | some qualifier => qualifier.before entry.item.quoted

def chars : List Char :=
  entry.indent.chars ++ ("- ".toList ++ (entry.dash.chars ++ entry.body)) ++ entry.rest.chars

/-- The symbols that are listed for an entry.  A symbol that starts like the key of the symbols is
taken for it, and colons at the ends of a qualified symbol are taken for that of the qualifier.
Quotes protect a symbol from both. -/
def taken : List (List Char) :=
  match entry.quoting, entry.qualifier with
  | .bare, none =>
      if startsWith "symbols:" entry.symbol.chars then [] else [entry.symbol.chars]
  | .bare, some _ =>
      [Text.trim isSeparator entry.symbol.chars].filter fun symbol => !symbol.isEmpty
  | _, _ => [entry.symbol.chars]

/-- Whether the colons of a symbol cannot be taken for others. -/
def IsClear : Prop :=
  match entry.quoting, entry.qualifier with
  | .bare, none => ¬"symbols:".toList <+: entry.symbol.chars
  | .bare, some _ => entry.symbol.chars.head? ≠ some ':' ∧ entry.symbol.chars.getLast? ≠ some ':'
  | _, _ => True

theorem taken_of_isClear {entry : BlockEntry} (clear : entry.IsClear) :
    entry.taken = [entry.symbol.chars] := by
  rw [IsClear] at clear
  rw [taken]
  cases quoting : entry.quoting with
  | bare =>
      rw [quoting] at clear
      cases qualified : entry.qualifier with
      | none =>
          rw [qualified] at clear
          simp only [startsWith_eq_false_iff.mpr clear]
          rfl
      | some qualifier =>
          rw [qualified] at clear
          have kept : ∀ c ∈ entry.symbol.chars, c ≠ ':' → isSeparator c = false := by
            intro c member other
            have solid := entry.symbol.unspaced c member
            simp only [isSeparator, Bool.or_eq_false_iff, beq_eq_false_iff_ne]
            refine ⟨⟨other, ?_⟩, ?_⟩ <;> rintro rfl <;> exact absurd solid (by decide)
          have whole : Text.trim isSeparator entry.symbol.chars = entry.symbol.chars := by
            refine Text.trim_of_ends ?_ ?_
            · intro c first
              exact kept c (List.mem_of_mem_head? first) fun same => clear.1 (same ▸ first)
            · intro c last
              exact kept c (List.mem_of_getLast? last) fun same => clear.2 (same ▸ last)
          simp [whole, entry.symbol.filled]
  | single => rfl
  | double => rfl

theorem trim_quoted (item : Item) :
    Text.trim isQuoteMark item.quoted = item.symbol.chars :=
  Text.trim_of_runs item.isQuoteMark_of_mem_marks item.isQuoteMark_of_mem_marks
    item.symbol.filled item.symbol.unquoted

theorem quoted_ne_nil (item : Item) : item.quoted ≠ [] := by
  simp [Item.quoted, item.symbol.filled]

theorem quoted_of_bare (bare : entry.quoting = .bare) :
    entry.item.quoted = entry.symbol.chars := by
  simp [Item.quoted, item, bare, Quoting.marks]

/-- A quoted symbol keeps its colons behind a qualifier. -/
theorem trim_isSeparator_quoted (quoted : entry.quoting ≠ .bare) :
    Text.trim isSeparator entry.item.quoted = entry.item.quoted := by
  obtain ⟨mark, marks, unseparated⟩ :
      ∃ mark, entry.quoting.marks = [mark] ∧ isSeparator mark = false := by
    cases quoting : entry.quoting with
    | bare => exact absurd quoting quoted
    | single => exact ⟨'\'', rfl, by decide⟩
    | double => exact ⟨'"', rfl, by decide⟩
  have shape : entry.item.quoted = mark :: (entry.symbol.chars ++ [mark]) := by
    simp [Item.quoted, item, marks]
  rw [shape]
  refine Text.trim_of_ends ?_ ?_
  · rintro c ⟨⟩
    exact unseparated
  · intro c last
    rw [← List.cons_append, List.getLast?_concat] at last
    cases last
    exact unseparated

/-- Behind the dash an entry reads as the symbol that is listed for it. -/
theorem filter_blockSymbol_body
    (entered : entry.quoting = .bare → entry.qualifier = none →
      startsWith "symbols:" entry.symbol.chars = false) :
    [blockSymbol entry.body].filter (fun symbol => !symbol.isEmpty) = entry.taken := by
  have listed : [entry.symbol.chars].filter (fun symbol => !symbol.isEmpty) =
      [entry.symbol.chars] := by simp [entry.symbol.filled]
  cases qualified : entry.qualifier with
  | none =>
      have unbracketed : ']' ∉ entry.item.quoted :=
        entry.item.notMem_quoted (by decide) entry.symbol.unbracketed
      have unmarked : Text.contains [']', ':'] entry.item.quoted = false := by
        rw [Bool.eq_false_iff, Ne, Text.contains_iff_infix]
        exact fun inside => unbracketed (inside.subset (by simp))
      have body : blockSymbol entry.body = entry.symbol.chars := by
        rw [blockSymbol, BlockEntry.body, qualified]
        simp only [unmarked]
        exact trim_quoted entry.item
      rw [body, listed, taken, qualified]
      cases quoting : entry.quoting with
      | bare => rw [entered quoting qualified]; rfl
      | single => rfl
      | double => rfl
  | some qualifier =>
      have body : blockSymbol entry.body =
          Text.trim isQuoteMark (Text.trim isSeparator entry.item.quoted) := by
        rw [BlockEntry.body, qualified]
        exact qualifier.blockSymbol_before _
      rw [body, taken, qualified]
      by_cases bare : entry.quoting = .bare
      · have unquoted : ∀ c ∈ Text.trim isSeparator entry.symbol.chars, isQuoteMark c = false :=
          fun c member => entry.symbol.unquoted c (Text.mem_of_mem_trim member)
        rw [entry.quoted_of_bare bare, bare, Text.trim_of_ends
          (fun c first => unquoted c (List.mem_of_mem_head? first))
          (fun c last => unquoted c (List.mem_of_getLast? last))]
      · rw [entry.trim_isSeparator_quoted bare, trim_quoted]
        refine listed.trans ?_
        cases quoting : entry.quoting with
        | bare => exact absurd quoting bare
        | single => rfl
        | double => rfl

/-! What stands behind the dash is one line, with no white space at its ends. -/

theorem isBlank_of_mem_head?_body : ∀ c ∈ entry.body.head?, Text.isBlank c = false := by
  intro c first
  rw [body] at first
  cases qualified : entry.qualifier with
  | none =>
      rw [qualified] at first
      exact entry.item.isBlank_of_mem_quoted c (List.mem_of_mem_head? first)
  | some qualifier =>
      rw [qualified] at first
      cases first
      decide

theorem isBlank_of_mem_getLast?_body : ∀ c ∈ entry.body.getLast?, Text.isBlank c = false := by
  have ends : entry.body.getLast? = entry.item.quoted.getLast? := by
    rw [body]
    cases entry.qualifier with
    | none => rfl
    | some qualifier =>
        have shape : qualifier.before entry.item.quoted =
            ('[' :: qualifier.architectures ++ ']' :: ':' :: qualifier.gap) ++
              entry.item.quoted := by simp [Qualifier.before]
        change (qualifier.before entry.item.quoted).getLast? = _
        rw [shape, List.getLast?_append_of_ne_nil _ (quoted_ne_nil entry.item)]
  intro c last
  rw [ends] at last
  exact entry.item.isBlank_of_mem_quoted c (List.mem_of_getLast? last)

theorem body_ne_nil : entry.body ≠ [] := by
  rw [body]
  cases entry.qualifier with
  | none => exact quoted_ne_nil entry.item
  | some qualifier => exact List.cons_ne_nil _ _

theorem feed_notMem_body : '\n' ∉ entry.body := by
  have quoted : '\n' ∉ entry.item.quoted :=
    fun member => absurd (entry.item.isBlank_of_mem_quoted _ member) (by decide)
  rw [body]
  cases entry.qualifier with
  | none => exact quoted
  | some qualifier =>
      have gap : '\n' ∉ qualifier.gap :=
        fun member => absurd (qualifier.spaced _ member) (by decide)
      simp [Qualifier.before, qualifier.feedless, gap, quoted]

/-- The key of the symbols stands behind a dash when a bare symbol starts like it. -/
theorem startsWith_body (starts : startsWith "symbols:" entry.body = true) :
    entry.quoting = .bare ∧ entry.qualifier = none ∧ entry.body = entry.symbol.chars := by
  obtain ⟨behind, shape⟩ := startsWith_iff.mp starts
  have first : entry.body.head? = some 's' := by
    rw [← shape]
    rfl
  cases qualified : entry.qualifier with
  | some qualifier =>
      rw [body, qualified] at first
      cases first
  | none =>
      rw [body, qualified] at first ⊢
      cases quoting : entry.quoting with
      | bare => exact ⟨rfl, rfl, entry.quoted_of_bare quoting⟩
      | single =>
          simp [Item.quoted, item, quoting, Quoting.marks] at first
      | double =>
          simp [Item.quoted, item, quoting, Quoting.marks] at first

theorem reads : Reads (.among true) (.among true) (countedLines entry.chars) entry.taken := by
  have first := entry.isBlank_of_mem_head?_body
  have last := entry.isBlank_of_mem_getLast?_body
  refine reads_dashed entry.dash true entry.indent entry.rest last entry.body_ne_nil
    entry.feed_notMem_body ?_
  cases starts : startsWith "symbols:" entry.body with
  | true =>
      obtain ⟨bare, unqualified, whole⟩ := entry.startsWith_body starts
      obtain ⟨value, shape⟩ := startsWith_iff.mp starts
      have keyed : keyText (dashed entry.dash entry.body) = "symbols:".toList ++ value :=
        (keyText_dashed entry.dash first).trans shape.symm
      have unopened : '[' ∉ value := by
        intro member
        refine entry.unopened ?_
        rw [← whole, ← shape]
        exact List.mem_append_right _ member
      rw [step_key true (not_exports_prefix_dashed entry.dash) keyed unopened, taken, bare,
        unqualified]
      rw [whole] at starts
      simp only [starts]
      rfl
  | false =>
      rw [step_dashed entry.dash first last starts,
        entry.filter_blockSymbol_body]
      intro bare unqualified
      rwa [body, unqualified, entry.quoted_of_bare bare] at starts

end BlockEntry

/-! ## Groups -/

/-- A line of a block list. -/
inductive BlockLine where
  | passed (aside : Aside)
  | listed (entry : BlockEntry)

namespace BlockLine

def chars : BlockLine → List Char
  | passed aside => aside.chars
  | listed entry => entry.chars

/-- The items that a line stands for. -/
def items : BlockLine → List Item
  | passed _ => []
  | listed entry => [entry.item]

/-- The symbols that are listed for a line. -/
def taken : BlockLine → List (List Char)
  | passed _ => []
  | listed entry => entry.taken

theorem reads (line : BlockLine) :
    Reads (.among true) (.among true) (countedLines line.chars) line.taken := by
  cases line with
  | passed aside => exact aside.reads true
  | listed entry => exact entry.reads

end BlockLine

/-- A group of exports: an entry behind a dash, and the lines of a block list below the key of the
symbols. -/
structure BlockGroup where
  dash : Text.Margin
  header : Entry
  above : List Aside
  key : KeyLine
  lines : List BlockLine

namespace BlockGroup

variable (group : BlockGroup)

/-- The parts of a group, from top to bottom. -/
def parts : List (List Char) :=
  group.header.dashedLine group.dash ::
    (group.above.map Aside.chars ++ group.key.chars :: group.lines.map BlockLine.chars)

def items : List Item :=
  group.lines.flatMap BlockLine.items

/-- The symbols that a group lists. -/
def symbols : List (List Char) :=
  group.items.map fun item => item.symbol.chars

/-- The symbols that are listed for the lines of a group. -/
def taken : List (List Char) :=
  group.lines.flatMap BlockLine.taken

/-- What is listed for the line that opens a group, in a list of the group above. -/
def headerSymbol : List Char :=
  blockSymbol group.header.body

/-- The same group with a flow list. -/
def inFlow : FlowGroup where
  dash := group.dash
  header := group.header
  before := []
  list := {
    indent := group.key.indent
    gap := ⟨[], nofun, nofun⟩
    opening := ⟨[], nofun⟩
    items := group.items
    rest := group.key.rest }
  after := []

end BlockGroup

end HomeCatalog.Stub
