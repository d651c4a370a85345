import HomeCatalog.Proofs.CatalogFile.Writing

/-!
# Which names are read back

Names are written as they are.  Trimming and unquoting only shorten a text, so a name is read back
unless one of them applies to it.
-/

namespace HomeCatalog.CatalogFile

/-- Whether a text of at least two characters starts and ends with a quote. -/
def IsQuoted (text : String) : Prop :=
  2 ≤ text.toList.length ∧ text.toList.head? = some '"' ∧ text.toList.getLast? = some '"'

instance (text : String) : Decidable (IsQuoted text) :=
  inferInstanceAs (Decidable (_ ∧ _ ∧ _))

/-- Whether a name is read back as it is written: it has neither white space nor quotes at its
ends. -/
structure IsPlainName (name : String) : Prop where
  trimmed : Text.IsTrimmed name.toList
  unquoted : ¬ IsQuoted name

instance (name : String) : Decidable (IsPlainName name) :=
  decidable_of_iff (Text.IsTrimmed name.toList ∧ ¬ IsQuoted name)
    ⟨fun ⟨trimmed, unquoted⟩ => ⟨trimmed, unquoted⟩,
      fun isPlain => ⟨isPlain.trimmed, isPlain.unquoted⟩⟩

/-! ## Quotes -/

theorem length_unescape_le (cs : List Char) : (unescape cs).length ≤ cs.length := by
  induction cs using unescape.induct with
  | case1 => simp [unescape]
  | case2 c => simp [unescape]
  | case3 c next rest escape ih =>
      have short : (escapedChar next).length ≤ 2 := by
        rw [escapedChar]
        split
        · simp
        · split
          · simp
          · split <;> simp
      rw [unescape, if_pos escape, List.length_append, List.length_cons, List.length_cons]
      omega
  | case4 c next rest plain ih =>
      rw [unescape, if_neg plain, List.length_cons, List.length_cons]
      exact Nat.succ_le_succ ih

theorem betweenQuotes?_cons (first : Char) (rest : List Char) :
    betweenQuotes? (first :: rest) =
      if first = '"' ∧ rest.getLast? = some '"' then some rest.dropLast else none := by
  by_cases mark : first = '"'
  · subst mark
    simp [betweenQuotes?]
  · simp [betweenQuotes?, mark]

theorem isQuoted_iff {text : String} {first : Char} {rest : List Char}
    (shape : text.toList = first :: rest) :
    IsQuoted text ↔ first = '"' ∧ rest.getLast? = some '"' := by
  rw [IsQuoted, shape]
  cases rest with
  | nil => simp
  | cons second rest => simp

/-- There is a text between quotes only in a quoted text, and it is shorter. -/
theorem betweenQuotes?_eq_some {text : String} {inner : List Char}
    (between : betweenQuotes? text.toList = some inner) :
    IsQuoted text ∧ inner.length < text.toList.length := by
  cases shape : text.toList with
  | nil => simp [shape, betweenQuotes?] at between
  | cons first rest =>
      rw [shape, betweenQuotes?_cons] at between
      split at between
      · next marks =>
          cases between
          refine ⟨(isQuoted_iff shape).mpr marks, ?_⟩
          rw [List.length_dropLast, List.length_cons]
          omega
      · cases between

/-- There is such a text in every quoted one. -/
theorem betweenQuotes?_eq_none {text : String}
    (between : betweenQuotes? text.toList = none) : ¬ IsQuoted text := by
  cases shape : text.toList with
  | nil => simp [IsQuoted, shape]
  | cons first rest =>
      rw [shape, betweenQuotes?_cons] at between
      rw [isQuoted_iff shape]
      intro marks
      rw [if_pos marks] at between
      cases between

/-- Unquoting keeps the texts that are not quoted, and shortens all others. -/
theorem unquote_eq_self {text : String} (unquoted : ¬ IsQuoted text) : unquote text = text := by
  rw [unquote]
  split
  · next between => exact absurd (betweenQuotes?_eq_some between).1 unquoted
  · rfl

theorem length_unquote_lt {text : String} (quoted : IsQuoted text) :
    (unquote text).toList.length < text.toList.length := by
  rw [unquote]
  split
  · next inner between =>
      have short := (betweenQuotes?_eq_some between).2
      rw [String.toList_ofList]
      exact Nat.lt_of_le_of_lt (length_unescape_le inner) short
  · next between => exact absurd quoted (betweenQuotes?_eq_none between)

theorem length_unquote_le (text : String) :
    (unquote text).toList.length ≤ text.toList.length := by
  by_cases quoted : IsQuoted text
  · exact Nat.le_of_lt (length_unquote_lt quoted)
  · rw [unquote_eq_self quoted]

/-! ## Names -/

/-- A name is read back exactly if it is not empty and plain. -/
theorem restoredName?_eq_self_iff {name : String} :
    restoredName? name = some name ↔ name ≠ "" ∧ IsPlainName name := by
  constructor
  · intro back
    rw [restoredName?, Option.filter_eq_some_iff] at back
    obtain ⟨restored, filled⟩ := back
    rw [restored?] at restored
    split at restored
    · cases restored
    · rw [Option.some.injEq] at restored
      -- Neither step may have shortened the name.
      have sublist := Text.strip_sublist name.toList
      have short := length_unquote_le (String.ofList (Text.strip name.toList))
      rw [restored, String.toList_ofList] at short
      have trimmed : Text.strip name.toList = name.toList :=
        sublist.eq_of_length (Nat.le_antisymm sublist.length_le short)
      rw [trimmed, String.ofList_toList] at restored
      refine ⟨by simpa using filled, trimmed, ?_⟩
      intro quoted
      have shorter := length_unquote_lt quoted
      rw [restored] at shorter
      exact Nat.lt_irrefl _ shorter
  · rintro ⟨filled, trimmed, unquoted⟩
    have trimmed_eq : Text.strip name.toList = name.toList := trimmed
    have nonempty : name.toList.isEmpty = false := by simpa using filled
    have restored : restored? name = some name := by
      rw [restored?, trimmed_eq, nonempty, String.ofList_toList, unquote_eq_self unquoted]
      rfl
    rw [restoredName?, restored]
    simpa using filled

end HomeCatalog.CatalogFile
