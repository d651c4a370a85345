import HomeCatalog.Catalog.Basic
import HomeCatalog.Text.Wide
import Mathlib.Data.List.Nodup
import Mathlib.Data.List.Sort

/-!
# What sorting and dropping repeats make of an order

Sorting by an order in which no two different values are equal forgets the order in which the
values came.  So does dropping repeats, up to the order of what is left.
-/

namespace HomeCatalog

/-- Dropping repeats leaves every value once. -/
theorem nodup_eraseDups {α : Type} [BEq α] [LawfulBEq α] :
    (values : List α) → values.eraseDups.Nodup
  | [] => by simp
  | value :: rest => by
      have later : (rest.filter fun other => !other == value).eraseDups.Nodup :=
        nodup_eraseDups _
      rw [List.eraseDups_cons, List.nodup_cons, List.mem_eraseDups]
      exact ⟨by simp, later⟩
termination_by values => values.length
decreasing_by exact Nat.lt_succ_of_le (List.length_filter_le _ rest)

/-- Where no value repeats there is nothing to drop. -/
theorem eraseDups_of_nodup {α : Type} [BEq α] [LawfulBEq α] {values : List α}
    (distinct : values.Nodup) : values.eraseDups = values := by
  induction values with
  | nil => rfl
  | cons value rest ih =>
      obtain ⟨fresh, distinct⟩ := List.nodup_cons.mp distinct
      have kept : (rest.filter fun other => !other == value) = rest := by
        rw [List.filter_eq_self]
        intro other member
        have apart : other ≠ value := fun same => fresh (same ▸ member)
        simpa using apart
      rw [List.eraseDups_cons, kept, ih distinct]

theorem eraseDups_perm {α : Type} [BEq α] [LawfulBEq α] {left right : List α}
    (perm : left.Perm right) : left.eraseDups.Perm right.eraseDups := by
  rw [List.perm_ext_iff_of_nodup (nodup_eraseDups left) (nodup_eraseDups right)]
  intro value
  rw [List.mem_eraseDups, List.mem_eraseDups, perm.mem_iff]

/-- Repeats may be dropped before or after other values. -/
theorem eraseDups_filter {α : Type} [BEq α] [LawfulBEq α] (keeps : α → Bool) :
    (values : List α) → (values.filter keeps).eraseDups = values.eraseDups.filter keeps
  | [] => rfl
  | value :: rest => by
      have later := eraseDups_filter keeps (rest.filter fun other => !other == value)
      rw [List.eraseDups_cons]
      by_cases kept : keeps value = true
      · rw [List.filter_cons_of_pos kept, List.filter_cons_of_pos kept, List.eraseDups_cons,
          ← later, List.filter_comm]
      · have dropped : (rest.filter fun other => !other == value).filter keeps =
            rest.filter keeps := by
          rw [List.filter_filter]
          refine List.filter_congr fun other _ => ?_
          by_cases same : other = value
          · simp [same, kept]
          · simp [same]
        rw [List.filter_cons_of_neg kept, List.filter_cons_of_neg kept, ← later, dropped]
termination_by values => values.length
decreasing_by exact Nat.lt_succ_of_le (List.length_filter_le _ rest)

/-! ## First occurrences -/

/-- A value occurs first before another if the other is not at the head, and the value is or occurs
first before the other in the rest. -/
theorem idxOf_cons_lt_iff {α : Type} [BEq α] [LawfulBEq α] {head one other : α} {rest : List α} :
    (head :: rest).idxOf one < (head :: rest).idxOf other ↔
      other ≠ head ∧ (one = head ∨ rest.idxOf one < rest.idxOf other) := by
  by_cases isOther : other = head
  · simp [isOther]
  · by_cases isOne : one = head
    · simp [isOne, isOther, List.idxOf_cons_ne rest (Ne.symm isOther)]
    · simp [isOne, isOther, List.idxOf_cons_ne rest (Ne.symm isOther),
        List.idxOf_cons_ne rest (Ne.symm isOne)]

/-- Values that are dropped do not change which of two others occurs first. -/
theorem idxOf_lt_of_filter {α : Type} [BEq α] [LawfulBEq α] {values : List α} {one other : α}
    {keeps : α → Bool} (kept : keeps other = true)
    (before : (values.filter keeps).idxOf one < (values.filter keeps).idxOf other) :
    values.idxOf one < values.idxOf other := by
  induction values with
  | nil => simp at before
  | cons head rest ih =>
      rw [idxOf_cons_lt_iff]
      by_cases stays : keeps head = true
      · rw [List.filter_cons_of_pos stays, idxOf_cons_lt_iff] at before
        exact before.imp_right (Or.imp_right ih)
      · rw [List.filter_cons_of_neg stays] at before
        constructor
        · intro same
          exact stays (same ▸ kept)
        · exact Or.inr (ih before)

/-- Dropping repeats keeps the order of first occurrences. -/
theorem pairwise_idxOf_eraseDups {α : Type} [BEq α] [LawfulBEq α] : (values : List α) →
    values.eraseDups.Pairwise fun one other => values.idxOf one < values.idxOf other
  | [] => by simp
  | value :: rest => by
      have later := pairwise_idxOf_eraseDups (rest.filter fun other => !other == value)
      have apart : ∀ other ∈ (rest.filter fun other => !other == value).eraseDups,
          other ≠ value := by
        intro other member
        rw [List.mem_eraseDups, List.mem_filter] at member
        simpa using member.2
      rw [List.eraseDups_cons]
      apply List.Pairwise.cons
      · intro other member
        rw [idxOf_cons_lt_iff]
        exact ⟨apart other member, Or.inl rfl⟩
      · refine List.Pairwise.imp_of_mem ?_ later
        intro one other _ member before
        rw [idxOf_cons_lt_iff]
        constructor
        · exact apart other member
        · exact Or.inr (idxOf_lt_of_filter (by simpa using apart other member) before)
termination_by values => values.length
decreasing_by exact Nat.lt_succ_of_le (List.length_filter_le _ rest)

/-! ## Sorting -/

/-- Sorting forgets the order in which values came. -/
theorem mergeSort_eq_of_perm {α : Type} (inOrder : α → α → Prop) [DecidableRel inOrder]
    [Std.Total inOrder] [IsTrans α inOrder] [Std.Antisymm inOrder] {left right : List α}
    (perm : left.Perm right) : left.mergeSort (inOrder · ·) = right.mergeSort (inOrder · ·) := by
  refine List.Perm.eq_of_pairwise' (List.pairwise_mergeSort' inOrder left)
    (List.pairwise_mergeSort' inOrder right) ?_
  exact (List.mergeSort_perm left _).trans (perm.trans (List.mergeSort_perm right _).symm)

/-! ## Names -/

@[simp] theorem mem_sortNames {name : String} {names : List String} :
    name ∈ sortNames names ↔ name ∈ names :=
  List.mem_mergeSort

theorem pairwise_sortNames (names : List String) : (sortNames names).Pairwise (· ≤ ·) :=
  List.pairwise_mergeSort' (· ≤ ·) names

theorem sortNames_eq_of_perm {left right : List String} (perm : left.Perm right) :
    sortNames left = sortNames right :=
  mergeSort_eq_of_perm (· ≤ ·) perm

/-- Sorting different names puts each before all that follow. -/
theorem pairwise_lt_sortNames {names : List String} (distinct : names.Nodup) :
    (sortNames names).Pairwise (· < ·) := by
  have apart : (sortNames names).Nodup := (List.mergeSort_perm _ _).nodup_iff.mpr distinct
  refine List.Pairwise.imp ?_ ((pairwise_sortNames names).and apart)
  intro left right ⟨atMost, different⟩
  by_contra notLess
  exact different (String.le_antisymm atMost (String.not_lt.mp notLess))

/-! ## Texts with halves of characters -/

namespace Text.Wide

theorem precedes_antisymm {left right : List CodePoint} (before : precedes left right = true)
    (after : precedes right left = true) : left = right := by
  induction left generalizing right with
  | nil =>
      cases right with
      | nil => rfl
      | cons second rights => simp [precedes] at after
  | cons first lefts ih =>
      cases right with
      | nil => simp [precedes] at before
      | cons second rights =>
          simp only [precedes] at before after
          by_cases same : first.val = second.val
          · rw [if_pos same] at before
            rw [if_pos same.symm] at after
            rw [Fin.ext same, ih before after]
          · rw [if_neg same, decide_eq_true_eq] at before
            rw [if_neg (Ne.symm same), decide_eq_true_eq] at after
            omega

/-! Texts are in a linear order. -/

instance : Std.Total (LE.le : Wide → Wide → Prop) where
  total one other := precedes_total one.points other.points

instance : IsTrans Wide (LE.le : Wide → Wide → Prop) where
  trans _ _ _ := precedes_trans

instance : Std.Antisymm (LE.le : Wide → Wide → Prop) where
  antisymm _ _ before after := congrArg Wide.mk (precedes_antisymm before after)

theorem pairwise_sort (texts : List Wide) : (sort texts).Pairwise (· ≤ ·) :=
  List.pairwise_mergeSort' (· ≤ ·) texts

theorem sort_eq_of_perm {left right : List Wide} (perm : left.Perm right) :
    sort left = sort right :=
  mergeSort_eq_of_perm (· ≤ ·) perm

end Text.Wide

end HomeCatalog
