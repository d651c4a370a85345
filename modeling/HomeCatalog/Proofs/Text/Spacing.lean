import HomeCatalog.Proofs.Text.Cutting
import HomeCatalog.Proofs.Text.Trimming

/-!
# White space between words

A text that is laid out by hand has white space in places where its meaning does not depend on it:
inside a line, or over the end of a line.
-/

namespace HomeCatalog.Text

/-- White space inside a line. -/
structure Margin where
  chars : List Char
  blank : ∀ c ∈ chars, isBlank c = true
  feedless : '\n' ∉ chars

/-- White space that may run over several lines. -/
structure Space where
  chars : List Char
  blank : ∀ c ∈ chars, isBlank c = true

/-- White space of at least one character. -/
structure Gap extends Space where
  filled : chars ≠ []

/-- Some spaces inside a line. -/
def spaces (count : Nat) : Margin where
  chars := List.replicate count ' '
  blank c member := by
    rw [List.eq_of_mem_replicate member]
    decide
  feedless member := absurd (List.eq_of_mem_replicate member) (by decide)

/-- Spaces as white space that could run over several lines. -/
def Margin.toSpace (margin : Margin) : Space :=
  ⟨margin.chars, margin.blank⟩

-- Characters are finitely many, so that `decide` would try all of them.
theorem eq_false_of_any {p : Char → Bool} {cs : List Char} (none : cs.any p = false) :
    ∀ c ∈ cs, p c = false := fun c member =>
  Bool.eq_false_iff.mpr (List.any_eq_false.mp none c member)

/-- A character that is no white space does not stand in white space. -/
theorem notMem_of_blank {spaces : List Char} (blank : ∀ c ∈ spaces, isBlank c = true) {solid : Char}
    (isSolid : isBlank solid = false) : solid ∉ spaces := by
  intro member
  rw [blank solid member] at isSolid
  cases isSolid

/-- White space behind a text is trimmed away. -/
theorem strip_append_blank (cs : List Char) {spaces : List Char}
    (blank : ∀ c ∈ spaces, isBlank c = true) : strip (cs ++ spaces) = strip cs := by
  have dropped : (cs ++ spaces).rdropWhile isBlank = cs.rdropWhile isBlank := by
    have vanished : spaces.reverse.dropWhile isBlank = [] :=
      List.dropWhile_eq_nil_iff.mpr fun c member => blank c (List.mem_reverse.mp member)
    simp [List.rdropWhile, List.dropWhile_append, vanished]
  rw [← strip_rdropWhile, dropped, strip_rdropWhile]

/-- White space around a text is trimmed away. -/
theorem strip_of_margins (left right : Margin) (cs : List Char) :
    strip (left.chars ++ cs ++ right.chars) = strip cs := by
  rw [strip_append_blank _ right.blank, strip_append_of_blank (List.all_eq_true.mpr left.blank)]

theorem strip_margin (margin : Margin) : strip margin.chars = [] :=
  strip_eq_nil_iff.mpr margin.blank

/-! ## Runs of characters -/

variable {keeps : Char → Bool} {run rest : List Char}

/-- A run of characters is dropped, up to a character that is none of them. -/
theorem dropWhile_run (inside : ∀ c ∈ run, keeps c = true)
    (boundary : ∀ c ∈ rest.head?, keeps c = false) : (run ++ rest).dropWhile keeps = rest := by
  rw [List.dropWhile_append_of_pos inside]
  cases rest with
  | nil => rfl
  | cons c rest => rw [List.dropWhile_cons_of_neg (by simp [boundary c rfl])]

/-- A run of characters is taken, up to a character that is none of them. -/
theorem takeWhile_run (inside : ∀ c ∈ run, keeps c = true)
    (boundary : ∀ c ∈ rest.head?, keeps c = false) : (run ++ rest).takeWhile keeps = run := by
  rw [List.takeWhile_append_of_pos inside]
  cases rest with
  | nil => simp
  | cons c rest => rw [List.takeWhile_cons_of_neg (by simp [boundary c rfl]), List.append_nil]

/-- What is dropped ends in front of a character that is kept. -/
theorem dropWhile_append_cons {stop : Char} (ends : keeps stop = false) (cs rest : List Char) :
    (cs ++ stop :: rest).dropWhile keeps = cs.dropWhile keeps ++ stop :: rest := by
  induction cs with
  | nil => simp [ends]
  | cons c cs ih =>
      rw [List.cons_append, List.dropWhile_cons, List.dropWhile_cons, ih]
      split <;> rfl

theorem takeWhile_append_cons {stop : Char} (ends : keeps stop = false) (cs rest : List Char) :
    (cs ++ stop :: rest).takeWhile keeps = cs.takeWhile keeps := by
  induction cs with
  | nil => simp [ends]
  | cons c cs ih => rw [List.cons_append, List.takeWhile_cons, List.takeWhile_cons, ih]

/-- Trimming stops on both sides at a character that is no white space. -/
theorem strip_append_cons {solid : Char} (isSolid : isBlank solid = false)
    (left right : List Char) : strip (left ++ solid :: right) =
      left.dropWhile isBlank ++ solid :: right.rdropWhile isBlank := by
  rw [strip_eq_rdropWhile, dropWhile_append_cons isSolid, rdropWhile_append_cons isSolid]

/-- A run of characters is trimmed off on both sides of a text without any of them. -/
theorem trim_of_runs {left text right : List Char} (leftDropped : ∀ c ∈ left, keeps c = true)
    (rightDropped : ∀ c ∈ right, keeps c = true) (filled : text ≠ [])
    (kept : ∀ c ∈ text, keeps c = false) : trim keeps (left ++ text ++ right) = text := by
  have front : (left ++ (text ++ right)).dropWhile keeps = text ++ right := by
    refine dropWhile_run leftDropped ?_
    intro c first
    rw [List.head?_append_of_ne_nil _ filled] at first
    exact kept c (List.mem_of_mem_head? first)
  have back : (right.reverse ++ text.reverse).dropWhile keeps = text.reverse := by
    refine dropWhile_run (fun c member => rightDropped c (List.mem_reverse.mp member)) ?_
    intro c first
    exact kept c (List.mem_reverse.mp (List.mem_of_mem_head? first))
  rw [trim, List.append_assoc, front, List.reverse_append, back, List.reverse_reverse]

/-- A run of characters in front of a text is trimmed off. -/
theorem trim_append_of_run (dropped : ∀ c ∈ run, keeps c = true) (cs : List Char) :
    trim keeps (run ++ cs) = trim keeps cs := by
  rw [trim, trim, List.dropWhile_append_of_pos dropped]

/-- A character at the end stays if it is kept. -/
theorem getLast?_trim {cs : List Char} {c : Char} (kept : keeps c = false)
    (last : cs.getLast? = some c) : (trim keeps cs).getLast? = some c := by
  obtain ⟨front, rfl⟩ := List.getLast?_eq_some_iff.mp last
  rw [trim, dropWhile_append_cons kept, List.reverse_append, List.reverse_singleton,
    List.singleton_append, List.dropWhile_cons_of_neg (by simp [kept]), List.getLast?_reverse]
  rfl

theorem mem_of_mem_trim {cs : List Char} {c : Char} (member : c ∈ trim keeps cs) : c ∈ cs := by
  rw [trim, List.mem_reverse] at member
  have inFront := (List.dropWhile_suffix keeps).subset member
  exact (List.dropWhile_suffix keeps).subset (List.mem_reverse.mp inFront)

/-! ## Words in a text -/

theorem contains_iff_infix {needle cs : List Char} :
    contains needle cs = true ↔ needle <:+: cs := by
  induction cs with
  | nil => rw [contains, List.isEmpty_iff, List.infix_nil]
  | cons c rest ih =>
      rw [contains, Bool.or_eq_true, List.isPrefixOf_iff_prefix, ih, List.infix_cons_iff]

section

variable {word left right : List Char}

/-- A word does not start in characters that are none of its own. -/
theorem infix_of_append_left (apart : ∀ c ∈ left, c ∉ word) (filled : word ≠ [])
    (inside : word <:+: left ++ right) : word <:+: right := by
  induction left with
  | nil => exact inside
  | cons c left ih =>
      obtain ⟨cApart, apart⟩ := List.forall_mem_cons.mp apart
      rw [List.cons_append, List.infix_cons_iff] at inside
      rcases inside with ⟨after, shape⟩ | later
      · cases word with
        | nil => exact absurd rfl filled
        | cons letter letters =>
            have same : letter = c := (List.cons.inj shape).1
            exact absurd (same ▸ List.mem_cons_self) cApart
      · exact ih apart later

/-- A word does not end in characters that are none of its own. -/
theorem infix_of_append_right (apart : ∀ c ∈ right, c ∉ word) (filled : word ≠ [])
    (inside : word <:+: left ++ right) : word <:+: left := by
  rw [← List.reverse_infix, List.reverse_append] at inside
  rw [← List.reverse_infix]
  refine infix_of_append_left ?_ (by simpa using filled) inside
  intro c member
  rw [List.mem_reverse]
  exact apart c (List.mem_reverse.mp member)

end

/-! ## Lines and pieces -/

/-- What follows a text goes on the last piece of it. -/
theorem splitOn_append (separator : Char) (left right : List Char) :
    ∃ front last first later, splitOn separator left = front ++ [last] ∧
      splitOn separator right = first :: later ∧
      splitOn separator (left ++ right) = front ++ (last ++ first) :: later := by
  induction left with
  | nil =>
      cases pieces : splitOn separator right with
      | nil => exact absurd pieces (splitOn_ne_nil separator right)
      | cons first later => exact ⟨[], [], first, later, rfl, rfl, pieces⟩
  | cons c left ih =>
      obtain ⟨front, last, first, later, before, behind, whole⟩ := ih
      rw [List.cons_append, splitOn_cons, splitOn_cons, before, whole]
      by_cases same : c = separator
      · exact ⟨[] :: front, last, first, later, by simp [same], behind, by simp [same]⟩
      · cases front with
        | nil =>
            exact ⟨[], c :: last, first, later, by simp [same, consHead], behind,
              by simp [same, consHead]⟩
        | cons piece front =>
            exact ⟨(c :: piece) :: front, last, first, later, by simp [same, consHead], behind,
              by simp [same, consHead]⟩

/-- A text without separators goes in front of the first piece. -/
theorem splitOn_append_of_absent_left {separator : Char} {left : List Char}
    (absent : separator ∉ left) (right : List Char) :
    ∃ first later, splitOn separator right = first :: later ∧
      splitOn separator (left ++ right) = (left ++ first) :: later := by
  obtain ⟨front, last, first, later, before, behind, whole⟩ := splitOn_append separator left right
  rw [splitOn_of_absent absent, ← List.nil_append [left]] at before
  obtain ⟨rfl, same⟩ := List.append_inj' before rfl
  obtain rfl : left = last := (List.cons.inj same).1
  exact ⟨first, later, behind, whole⟩

/-- A text without separators goes behind the last piece. -/
theorem splitOn_append_of_absent_right {separator : Char} {right : List Char}
    (absent : separator ∉ right) (left : List Char) :
    ∃ front last, splitOn separator left = front ++ [last] ∧
      splitOn separator (left ++ right) = front ++ [last ++ right] := by
  obtain ⟨front, last, first, later, before, behind, whole⟩ := splitOn_append separator left right
  rw [splitOn_of_absent absent] at behind
  obtain ⟨rfl, rfl⟩ := List.cons.inj behind
  exact ⟨front, last, before, whole⟩

/-- What follows a text goes on the last line of it. -/
theorem lines_append (left right : List Char) :
    ∃ front last first later, lines left = front ++ [last] ∧ lines right = first :: later ∧
      lines (left ++ right) = front ++ (last ++ first) :: later :=
  splitOn_append '\n' left right

/-- What holds of single lines, and of a line in front of others, holds of every text. -/
theorem lines_induction {motive : List Char → Prop}
    (single : ∀ line, '\n' ∉ line → motive line)
    (feed : ∀ line rest, '\n' ∉ line → motive rest → motive (line ++ '\n' :: rest))
    (cs : List Char) : motive cs := by
  have feedless : ∀ line ∈ lines cs, '\n' ∉ line := fun _ member => absent_of_mem_splitOn member
  have filled : lines cs ≠ [] := splitOn_ne_nil '\n' cs
  rw [← joinWith_splitOn '\n' cs, ← lines]
  generalize lines cs = pieces at feedless filled ⊢
  induction pieces with
  | nil => exact absurd rfl filled
  | cons line others ih =>
      obtain ⟨lineFeedless, othersFeedless⟩ := List.forall_mem_cons.mp feedless
      cases others with
      | nil => exact single line lineFeedless
      | cons next others =>
          rw [joinWith_cons_of_ne_nil _ (List.cons_ne_nil next others), List.append_assoc]
          exact feed line _ lineFeedless (ih othersFeedless (List.cons_ne_nil next others))

end HomeCatalog.Text
