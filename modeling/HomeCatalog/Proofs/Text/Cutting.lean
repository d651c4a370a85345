import HomeCatalog.Text.Basic

/-!
# Cutting what was joined

A text that was put together with a separator is cut at that separator into the same parts, as
long as the parts do not hold the separator themselves.  Neither cutting nor joining makes up
characters.
-/

namespace HomeCatalog.Text

variable {separator : Char}

/-- A cut stops at the first separator. -/
theorem cut_append_cons {left : List Char} (absent : separator ∉ left) (right : List Char) :
    cut separator (left ++ separator :: right) = (left, some right) := by
  induction left with
  | nil => simp [cut]
  | cons c rest ih =>
      have apart : c ≠ separator := fun same => absent (by simp [same])
      have restAbsent : separator ∉ rest := fun member => absent (List.mem_cons_of_mem c member)
      simp [cut, apart, ih restAbsent]

/-- Without a separator nothing is cut off. -/
theorem cut_of_absent {cs : List Char} (absent : separator ∉ cs) :
    cut separator cs = (cs, none) := by
  induction cs with
  | nil => rfl
  | cons c rest ih =>
      have apart : c ≠ separator := fun same => absent (by simp [same])
      have restAbsent : separator ∉ rest := fun member => absent (List.mem_cons_of_mem c member)
      simp [cut, apart, ih restAbsent]

/-- Without a separator there is one piece. -/
theorem splitOn_of_absent {cs : List Char} (absent : separator ∉ cs) :
    splitOn separator cs = [cs] := by
  induction cs with
  | nil => rfl
  | cons c rest ih =>
      have apart : c ≠ separator := fun same => absent (by simp [same])
      have restAbsent : separator ∉ rest := fun member => absent (List.mem_cons_of_mem c member)
      rw [splitOn_cons, if_neg apart, ih restAbsent, consHead]

/-- A piece that is followed by a separator is the first one. -/
theorem splitOn_append_cons {piece : List Char} (absent : separator ∉ piece)
    (rest : List Char) :
    splitOn separator (piece ++ separator :: rest) = piece :: splitOn separator rest := by
  induction piece with
  | nil => simp
  | cons c piece ih =>
      have apart : c ≠ separator := fun same => absent (by simp [same])
      have pieceAbsent : separator ∉ piece :=
        fun member => absent (List.mem_cons_of_mem c member)
      rw [List.cons_append, splitOn_cons, if_neg apart, ih pieceAbsent]
      rfl

/-- What stands on both sides of a separator is cut apart. -/
theorem splitOn_append_separator (left right : List Char) :
    splitOn separator (left ++ separator :: right) =
      splitOn separator left ++ splitOn separator right := by
  induction left with
  | nil => simp
  | cons c left ih =>
      rw [List.cons_append, splitOn_cons, splitOn_cons, ih]
      split
      · rfl
      · cases pieces : splitOn separator left with
        | nil => exact absurd pieces (splitOn_ne_nil separator left)
        | cons piece rest => rfl

/-- There is one piece more than there are separators. -/
theorem length_splitOn (separator : Char) (cs : List Char) :
    (splitOn separator cs).length = cs.count separator + 1 := by
  induction cs with
  | nil => rfl
  | cons c rest ih =>
      rw [splitOn_cons]
      split
      · next same => rw [List.length_cons, ih, same, List.count_cons_self]
      · next apart =>
          obtain ⟨piece, later, pieces⟩ :=
            List.exists_cons_of_ne_nil (splitOn_ne_nil separator rest)
          rw [List.count_cons_of_ne apart, ← ih, pieces]
          rfl

/-- A line feed divides a text into the lines before it and the lines behind it. -/
theorem lines_append_feed (left right : List Char) :
    lines (left ++ '\n' :: right) = lines left ++ lines right :=
  splitOn_append_separator left right

/-- A piece holds nothing but characters of the text other than the separator. -/
theorem mem_of_mem_splitOn {cs piece : List Char} {c : Char}
    (member : piece ∈ splitOn separator cs) (inside : c ∈ piece) : c ∈ cs ∧ c ≠ separator := by
  induction cs generalizing piece with
  | nil =>
      rw [splitOn_nil, List.mem_singleton] at member
      simp [member] at inside
  | cons first rest ih =>
      have later (deeper : c ∈ rest ∧ c ≠ separator) : c ∈ first :: rest ∧ c ≠ separator :=
        deeper.imp_left (List.mem_cons_of_mem first)
      rw [splitOn_cons] at member
      split at member
      · rcases List.mem_cons.mp member with rfl | inRest
        · cases inside
        · exact later (ih inRest inside)
      · next apart =>
        cases pieces : splitOn separator rest with
        | nil => exact absurd pieces (splitOn_ne_nil separator rest)
        | cons head tail =>
            rw [pieces, consHead, List.mem_cons] at member
            rcases member with rfl | inTail
            · rcases List.mem_cons.mp inside with rfl | inHead
              · exact ⟨List.mem_cons_self, apart⟩
              · exact later (ih (by simp [pieces]) inHead)
            · exact later (ih (by simp [pieces, inTail]) inside)

/-- No piece holds the separator. -/
theorem absent_of_mem_splitOn {cs piece : List Char} (member : piece ∈ splitOn separator cs) :
    separator ∉ piece :=
  fun inside => (mem_of_mem_splitOn member inside).2 rfl

/-- A piece holds nothing but characters of the text. -/
theorem subset_of_mem_splitOn {cs piece : List Char} (member : piece ∈ splitOn separator cs) :
    piece ⊆ cs :=
  fun _ inside => (mem_of_mem_splitOn member inside).1

theorem joinWith_cons_of_ne_nil (separator : List Char) {pieces : List (List Char)}
    (filled : pieces ≠ []) (piece : List Char) :
    joinWith separator (piece :: pieces) = piece ++ separator ++ joinWith separator pieces := by
  cases pieces with
  | nil => exact absurd rfl filled
  | cons next rest => rfl

/-- The pieces make up the text again. -/
theorem joinWith_splitOn (separator : Char) (cs : List Char) :
    joinWith [separator] (splitOn separator cs) = cs := by
  induction cs with
  | nil => rfl
  | cons c rest ih =>
      have filled := splitOn_ne_nil separator rest
      rw [splitOn_cons]
      split
      · next same => rw [joinWith_cons_of_ne_nil _ filled, ih, same]; rfl
      · cases pieces : splitOn separator rest with
        | nil => exact absurd pieces filled
        | cons head tail =>
            rw [pieces] at ih
            cases tail with
            | nil => exact congrArg (c :: ·) ih
            | cons next tail => exact congrArg (c :: ·) ih

/-- Joining adds nothing but separators. -/
theorem mem_of_mem_joinWith {separator : List Char} {pieces : List (List Char)} {c : Char}
    (member : c ∈ joinWith separator pieces) :
    c ∈ separator ∨ ∃ piece ∈ pieces, c ∈ piece := by
  induction pieces using joinWith.induct with
  | case1 => cases member
  | case2 piece => exact Or.inr ⟨piece, by simp, member⟩
  | case3 piece rest others ih =>
      rw [joinWith, List.mem_append, List.mem_append] at member
      · rcases member with (first | between) | later
        · exact Or.inr ⟨piece, by simp, first⟩
        · exact Or.inl between
        · rcases ih later with between | ⟨other, inRest, inside⟩
          · exact Or.inl between
          · exact Or.inr ⟨other, List.mem_cons_of_mem _ inRest, inside⟩
      · exact others

end HomeCatalog.Text
