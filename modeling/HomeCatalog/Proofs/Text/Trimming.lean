import HomeCatalog.Text.Basic
import Mathlib.Data.List.DropRight

/-!
# Trimmed texts

Trimming takes the white space off both ends of a text.  Every reader of the library trims the
lines and the fields that it meets, so these facts say what of a text survives reading.
-/

namespace HomeCatalog.Text

/-- Whether white space stands at neither end of a text. -/
def IsTrimmed (cs : List Char) : Prop :=
  strip cs = cs

instance (cs : List Char) : Decidable (IsTrimmed cs) :=
  inferInstanceAs (Decidable (strip cs = cs))

theorem strip_eq_rdropWhile (cs : List Char) :
    strip cs = (cs.dropWhile isBlank).rdropWhile isBlank := rfl

/-- Taking white space off the end stops at any other character. -/
theorem rdropWhile_append_cons {separator : Char} (solid : isBlank separator = false)
    (left right : List Char) :
    (left ++ separator :: right).rdropWhile isBlank =
      left ++ separator :: right.rdropWhile isBlank := by
  simp only [List.rdropWhile, List.reverse_append, List.reverse_cons, List.append_assoc,
    List.dropWhile_append]
  split
  · next vanished =>
      rw [List.isEmpty_iff] at vanished
      simp [vanished, solid]
  · simp

/-- A first character stays in front of what is left. -/
theorem rdropWhile_cons_of_ne_nil {rest : List Char} (remains : rest.rdropWhile isBlank ≠ [])
    (first : Char) :
    (first :: rest).rdropWhile isBlank = first :: rest.rdropWhile isBlank := by
  have reversed : rest.reverse.dropWhile isBlank ≠ [] := by
    simpa [List.rdropWhile] using remains
  simp only [List.rdropWhile, List.reverse_cons, List.dropWhile_append]
  simp [reversed]

/-- White space in front of a text is trimmed away. -/
theorem strip_append_of_blank {left : List Char} (blank : left.all isBlank = true)
    (right : List Char) : strip (left ++ right) = strip right := by
  have vanished : left.dropWhile isBlank = [] :=
    List.dropWhile_eq_nil_iff.mpr (List.all_eq_true.mp blank)
  rw [strip_eq_rdropWhile, strip_eq_rdropWhile, List.dropWhile_append, vanished]
  rfl

theorem strip_cons_of_blank {first : Char} (blank : isBlank first = true) (rest : List Char) :
    strip (first :: rest) = strip rest := by
  rw [strip_eq_rdropWhile, List.dropWhile_cons_of_pos blank, strip_eq_rdropWhile]

/-- Only the end of a text is trimmed when its first character is no white space. -/
theorem strip_of_solid_head {first : Char} (solid : isBlank first = false)
    (rest : List Char) : strip (first :: rest) = (first :: rest).rdropWhile isBlank := by
  rw [strip_eq_rdropWhile, List.dropWhile_cons_of_neg (by simp [solid])]

/-- Trimming the end first changes nothing. -/
theorem strip_rdropWhile (cs : List Char) : strip (cs.rdropWhile isBlank) = strip cs := by
  induction cs with
  | nil => rfl
  | cons first rest ih =>
      by_cases solid : isBlank first = false
      · have kept := rdropWhile_append_cons solid [] rest
        simp only [List.nil_append] at kept
        rw [strip_of_solid_head solid, kept, strip_of_solid_head solid, ← kept,
          List.rdropWhile_idempotent]
      · have blank : isBlank first = true := by simpa using solid
        rw [strip_cons_of_blank blank]
        by_cases vanished : rest.rdropWhile isBlank = []
        · have allBlank : ∀ c ∈ first :: rest, isBlank c = true := by
            simpa [blank] using List.rdropWhile_eq_nil_iff.mp vanished
          rw [List.rdropWhile_eq_nil_iff.mpr allBlank, ← ih, vanished]
        · rw [rdropWhile_cons_of_ne_nil vanished, strip_cons_of_blank blank]
          exact ih

@[simp] theorem strip_strip (cs : List Char) : strip (strip cs) = strip cs := by
  rw [strip_eq_rdropWhile cs, strip_rdropWhile, strip_eq_rdropWhile,
    List.dropWhile_idempotent]

theorem isTrimmed_strip (cs : List Char) : IsTrimmed (strip cs) :=
  strip_strip cs

/-- A text is left as it is when both of its ends are kept. -/
theorem trim_of_ends {keeps : Char → Bool} {cs : List Char}
    (first : ∀ c ∈ cs.head?, keeps c = false) (last : ∀ c ∈ cs.getLast?, keeps c = false) :
    trim keeps cs = cs := by
  have stays : ∀ text : List Char, (∀ c ∈ text.head?, keeps c = false) →
      text.dropWhile keeps = text := by
    intro text boundary
    cases text with
    | nil => rfl
    | cons c rest => rw [List.dropWhile_cons_of_neg (by simp [boundary c rfl])]
  rw [← List.head?_reverse] at last
  rw [trim, stays cs first, stays cs.reverse last, List.reverse_reverse]

/-- A text is trimmed when neither its first nor its last character is white space. -/
theorem isTrimmed_of_ends {cs : List Char}
    (first : ∀ c, cs.head? = some c → isBlank c = false)
    (last : ∀ c, cs.getLast? = some c → isBlank c = false) : IsTrimmed cs :=
  trim_of_ends first last

theorem strip_eq_nil_iff {cs : List Char} : strip cs = [] ↔ ∀ c ∈ cs, isBlank c = true := by
  constructor
  · intro empty
    rw [strip_eq_rdropWhile, List.rdropWhile_eq_nil_iff] at empty
    rw [← List.takeWhile_append_dropWhile (p := isBlank) (l := cs)]
    intro c member
    rcases List.mem_append.mp member with front | back
    · exact List.mem_takeWhile_imp front
    · exact empty c back
  · intro blank
    rw [strip_eq_rdropWhile, List.dropWhile_eq_nil_iff.mpr blank]
    rfl

/-- Whether a character is no white space. -/
def isInk (c : Char) : Bool :=
  !isBlank c

theorem isBlank_eq_false_of_all_isInk {cs : List Char} (ink : cs.all isInk = true) :
    ∀ c ∈ cs, isBlank c = false := by
  intro c member
  simpa [isInk] using List.all_eq_true.mp ink c member

theorem find?_isInk_of_blank {cs : List Char} (blank : ∀ c ∈ cs, isBlank c = true) :
    cs.find? isInk = none := by
  rw [List.find?_eq_none]
  intro c member
  simp [isInk, blank c member]

/-- A trimmed text starts with the first character that is no white space. -/
theorem head?_dropWhile_isBlank (cs : List Char) :
    (cs.dropWhile isBlank).head? = cs.find? isInk := by
  induction cs with
  | nil => rfl
  | cons c rest ih =>
      cases blank : isBlank c <;> simp [isInk, blank, ih]

theorem find?_reverse_dropWhile_isBlank (cs : List Char) :
    (cs.dropWhile isBlank).reverse.find? isInk = cs.reverse.find? isInk := by
  have front : (cs.takeWhile isBlank).reverse.find? isInk = none :=
    find?_isInk_of_blank fun c member => List.mem_takeWhile_imp (List.mem_reverse.mp member)
  conv_rhs => rw [← List.takeWhile_append_dropWhile (p := isBlank) (l := cs)]
  rw [List.reverse_append, List.find?_append, front, Option.or_none]

/-- A trimmed text ends with the last character that is no white space. -/
theorem getLast?_strip (cs : List Char) : (strip cs).getLast? = cs.reverse.find? isInk := by
  rw [strip, trim, List.getLast?_reverse, head?_dropWhile_isBlank, find?_reverse_dropWhile_isBlank]

/-- A trimmed text starts with the first character that is no white space. -/
theorem head?_strip (cs : List Char) : (strip cs).head? = cs.find? isInk := by
  rw [strip_eq_rdropWhile, ← head?_dropWhile_isBlank]
  have first := head?_dropWhile_isBlank cs
  cases remains : cs.dropWhile isBlank with
  | nil => rfl
  | cons c rest =>
      rw [remains, List.head?_cons] at first
      have ink := List.find?_some first.symm
      have kept := rdropWhile_append_cons (by simpa [isInk] using ink) [] rest
      rw [List.nil_append] at kept
      rw [kept]
      rfl

/-- Trimming only removes characters. -/
theorem strip_sublist (cs : List Char) : (strip cs).Sublist cs := by
  rw [strip_eq_rdropWhile]
  exact (List.IsPrefix.sublist (by apply List.rdropWhile_prefix)).trans
    (List.dropWhile_suffix isBlank).sublist

/-- A trimmed text does not start with white space. -/
theorem IsTrimmed.solid_head {first : Char} {rest : List Char}
    (trimmed : IsTrimmed (first :: rest)) : isBlank first = false := by
  by_contra blank
  have skipped : strip (first :: rest) = strip rest :=
    strip_cons_of_blank (by simpa using blank) rest
  have short := (strip_sublist rest).length_le
  rw [← skipped, trimmed, List.length_cons] at short
  omega

/-- A trimmed text does not end with white space. -/
theorem IsTrimmed.solid_getLast {cs : List Char} (trimmed : IsTrimmed cs)
    (nonempty : cs ≠ []) : isBlank (cs.getLast nonempty) = false := by
  cases cs with
  | nil => contradiction
  | cons first rest =>
      have shape := trimmed
      rw [IsTrimmed, strip_of_solid_head trimmed.solid_head,
        List.rdropWhile_eq_self_iff] at shape
      simpa using shape nonempty

end HomeCatalog.Text
