import HomeCatalog.Proofs.Stub.FlowLists

/-!
# Lines below a list's key

Inside of a list, white space and comments list nothing.  A text behind a dash is listed as one
symbol, whatever it looks like, unless it starts like the key of the symbols: that key opens a list,
behind a dash or not.
-/

namespace HomeCatalog.Stub

/-! ## Lines that list nothing -/

/-- Where a line below `exports:` stands, in a block list or not. -/
def Position.among (inBlockList : Bool) : Position := ⟨true, inBlockList, false⟩

theorem not_prefix_of_head? {word cs : List Char} (apart : word.head? ≠ cs.head?)
    (filled : word ≠ []) : ¬word <+: cs := by
  rintro ⟨rest, rfl⟩
  exact apart (List.head?_append_of_ne_nil word filled).symm

/-- A line that is blank or a comment. -/
inductive Aside where
  | blank (margin : Text.Margin)
  | comment (indent : Text.Margin) (remark : List Char) (feedless : '\n' ∉ remark)

namespace Aside

def chars : Aside → List Char
  | blank margin => margin.chars
  | comment indent remark _ => indent.chars ++ '#' :: remark

theorem step_comment (inBlockList : Bool) (remark : List Char) :
    step (.among inBlockList) ('#' :: remark) = (.among inBlockList, []) := by
  have apart : ∀ word : String, word.toList.head? ≠ some '#' → word.toList ≠ [] →
      startsWith word ('#' :: remark) = false :=
    fun word other filled => startsWith_eq_false_iff.mpr (not_prefix_of_head? other filled)
  have undashed : keyText ('#' :: remark) = '#' :: remark := by
    rw [keyText, apart "- " (by decide) (by decide)]
    rfl
  have marked : startsWith "#" ('#' :: remark) = true :=
    startsWith_iff.mpr (List.prefix_append ['#'] remark)
  have passed : blockLine (.among inBlockList) ('#' :: remark) = (.among inBlockList, []) := by
    rw [blockLine, apart "-" (by decide) (by decide), marked]
    cases inBlockList <;> rfl
  have noKey : isSectionKey ('#' :: remark) = false := by simp [isSectionKey, marked]
  unfold step
  simp only [apart "exports:" (by decide) (by decide), undashed,
    apart "symbols:" (by decide) (by decide), passed, noKey]
  simp [Position.among]

theorem reads (inBlockList : Bool) (aside : Aside) :
    Reads (.among inBlockList) (.among inBlockList) (countedLines aside.chars) [] := by
  cases aside with
  | blank margin =>
      rw [chars, countedLines_of_feedless margin.feedless, if_pos (Text.strip_margin margin)]
      exact Reads.nil _
  | comment indent remark feedless =>
      have indented : indent.chars.dropWhile Text.isBlank = [] :=
        List.dropWhile_eq_nil_iff.mpr indent.blank
      have trimmed : Text.strip (indent.chars ++ '#' :: remark) =
          '#' :: remark.rdropWhile Text.isBlank := by
        rw [Text.strip_append_cons (by decide), indented]
        rfl
      refine Reads.line ?_ ?_ ?_
      · simp [chars, indent.feedless, feedless]
      · rw [chars, trimmed]
        exact step_comment inBlockList _
      · simp [chars, trimmed]

end Aside

/-! ## Steps inside of a list -/

/-- The key of the symbols opens a block list when no bracket follows. -/
theorem step_key (inBlockList : Bool) {line value : List Char}
    (noExports : ¬"exports:".toList <+: line)
    (keyed : keyText line = "symbols:".toList ++ value) (unopened : '[' ∉ value) :
    step (.among inBlockList) line = (.among true, []) := by
  have starts : startsWith "symbols:" (keyText line) = true :=
    startsWith_iff.mpr (keyed ▸ List.prefix_append _ _)
  have dropped : (keyText line).drop 8 = value := by
    rw [keyed, List.drop_left' (by decide)]
  -- This decides which case of the scanner's match on the value applies.
  have noBracket : ∀ piece, Text.strip value ≠ '[' :: piece := by
    intro piece opened
    refine unopened ((Text.strip_sublist value).subset ?_)
    rw [opened]
    exact List.mem_cons_self
  unfold step
  simp only [Position.among, startsWith_eq_false_iff.mpr noExports, starts, dropped,
    Bool.false_eq_true, Bool.and_self, if_false, if_true]

/-- A dash in front of a text. -/
def dashed (gap : Text.Margin) (body : List Char) : List Char :=
  "- ".toList ++ (gap.chars ++ body)

section

variable {body : List Char} (gap : Text.Margin)

theorem not_exports_prefix_dashed : ¬"exports:".toList <+: dashed gap body :=
  not_prefix_of_head? (by simp [dashed]) (by decide)

theorem keyText_dashed (first : ∀ c ∈ body.head?, Text.isBlank c = false) :
    keyText (dashed gap body) = body := by
  have starts : startsWith "- " (dashed gap body) = true :=
    startsWith_iff.mpr (List.prefix_append _ _)
  rw [keyText, starts]
  exact Text.dropWhile_run gap.blank first

/-- Any other text behind a dash is taken for a symbol. -/
theorem step_dashed (first : ∀ c ∈ body.head?, Text.isBlank c = false)
    (last : ∀ c ∈ body.getLast?, Text.isBlank c = false)
    (other : startsWith "symbols:" body = false) :
    step (.among true) (dashed gap body) =
      (.among true, [blockSymbol body].filter fun symbol => !symbol.isEmpty) := by
  have starts : startsWith "-" (dashed gap body) = true :=
    startsWith_iff.mpr ⟨' ' :: (gap.chars ++ body), rfl⟩
  have behind : Text.strip ((dashed gap body).drop 1) = body := by
    have spaces : ∀ c ∈ ' ' :: gap.chars, Text.isBlank c = true :=
      List.forall_mem_cons.mpr ⟨by decide, gap.blank⟩
    change Text.strip (' ' :: gap.chars ++ body) = body
    rw [Text.strip_append_of_blank (List.all_eq_true.mpr spaces)]
    exact Text.isTrimmed_of_ends first last
  have noKey : isSectionKey (dashed gap body) = false := by simp [isSectionKey, starts]
  have entered : blockLine (.among true) (dashed gap body) =
      (.among true, [blockSymbol body].filter fun symbol => !symbol.isEmpty) := by
    rw [blockLine, starts, behind]
    rfl
  unfold step
  simp only [startsWith_eq_false_iff.mpr (not_exports_prefix_dashed gap),
    keyText_dashed gap first, other, entered, noKey]
  simp [Position.among]

theorem reads_dashed {finish : Position} {symbols : List (List Char)} (inBlockList : Bool)
    (indent rest : Text.Margin) (last : ∀ c ∈ body.getLast?, Text.isBlank c = false)
    (filled : body ≠ []) (feedless : '\n' ∉ body)
    (read : step (.among inBlockList) (dashed gap body) = (finish, symbols)) :
    Reads (.among inBlockList) finish
      (countedLines (indent.chars ++ dashed gap body ++ rest.chars)) symbols := by
  have trimmed : Text.strip (indent.chars ++ dashed gap body ++ rest.chars) = dashed gap body := by
    rw [Text.strip_of_margins]
    refine Text.isTrimmed_of_ends ?_ ?_
    · rintro c opening
      obtain rfl : c = '-' := by simpa [dashed] using opening.symm
      decide
    · intro c ending
      rw [dashed, List.getLast?_append_of_ne_nil _ (by simp [filled]),
        List.getLast?_append_of_ne_nil _ filled] at ending
      exact last c ending
  refine Reads.line ?_ ?_ ?_
  · simp [dashed, indent.feedless, gap.feedless, feedless, rest.feedless]
  · rw [trimmed]
    exact read
  · rw [trimmed]
    exact List.cons_ne_nil _ _

end

/-- The line with the key of the symbols. -/
structure KeyLine where
  indent : Text.Margin
  rest : Text.Margin

namespace KeyLine

variable (line : KeyLine)

def chars : List Char :=
  line.indent.chars ++ "symbols:".toList ++ line.rest.chars

theorem reads (inBlockList : Bool) :
    Reads (.among inBlockList) (.among true) (countedLines line.chars) [] := by
  have trimmed : Text.strip line.chars = "symbols:".toList := by
    rw [chars, Text.strip_of_margins]
    decide
  refine Reads.line ?_ ?_ ?_
  · simp [chars, line.indent.feedless, line.rest.feedless]
  · have keyed : keyText "symbols:".toList = "symbols:".toList ++ [] := by decide
    rw [trimmed]
    exact step_key inBlockList (by decide) keyed List.not_mem_nil
  · rw [trimmed]
    decide

end KeyLine

end HomeCatalog.Stub
