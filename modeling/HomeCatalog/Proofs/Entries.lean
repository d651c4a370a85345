import HomeCatalog.Entries
import Mathlib.Data.List.Induction
import Mathlib.Data.List.Nodup
import Mathlib.Data.List.Perm.Basic

/-!
# What a table of entries holds

A table that results from putting pairs one after the other answers with the last pair of a key.
-/

namespace HomeCatalog.Entries

variable {κ υ : Type} [BEq κ] [LawfulBEq κ]

theorem lookup_put (key other : κ) (value : υ) (table : List (κ × υ)) :
    (put key value table).lookup other =
      if other == key then some value else table.lookup other := by
  split
  · next same => rw [eq_of_beq same, lookup_put_self]
  · next apart => exact lookup_put_of_ne value table (by simpa using apart)

/-- Of several pairs with one key the last counts. -/
theorem lookup_ofPairs (pairs : List (κ × υ)) (key : κ) :
    (ofPairs pairs).lookup key = pairs.reverse.lookup key := by
  rw [ofPairs]
  induction pairs using List.reverseRecOn with
  | nil => rfl
  | append_singleton before last ih =>
      rw [List.foldl_append, List.foldl_cons, List.foldl_nil, lookup_put, ih,
        List.reverse_append, List.reverse_singleton, List.singleton_append, List.lookup_cons]
      cases key == last.1 <;> rfl

/-- Of several items that each put some pairs, the last one with a key counts. -/
theorem lookup_ofPairs_flatMap {α : Type} (items : List α) (pairs : α → List (κ × υ)) (key : κ) :
    (ofPairs (items.flatMap pairs)).lookup key =
      items.reverse.findSome? fun item => (pairs item).reverse.lookup key := by
  rw [lookup_ofPairs]
  induction items with
  | nil => rfl
  | cons item rest ih =>
      rw [List.flatMap_cons, List.reverse_append, List.lookup_append, ih, List.reverse_cons,
        List.findSome?_append]
      simp

/-- Of pairs with one value, those with a listed key are found. -/
theorem lookup_map_const (keys : List κ) (value : υ) (key : κ) :
    (keys.map fun other => (other, value)).lookup key =
      if key ∈ keys then some value else none := by
  induction keys with
  | nil => rfl
  | cons other rest ih =>
      rw [List.map_cons, List.lookup_cons, ih]
      by_cases same : key = other
      · simp [same]
      · have apart : (key == other) = false := beq_eq_false_iff_ne.mpr same
        simp [same, apart]

theorem mem_of_lookup {table : List (κ × υ)} {key : κ} {value : υ}
    (found : table.lookup key = some value) : (key, value) ∈ table := by
  obtain ⟨before, after, shape, _⟩ := List.lookup_eq_some_iff.mp found
  rw [shape]
  simp

/-- What a table answers with is one of the pairs that were put. -/
theorem mem_of_lookup_ofPairs {pairs : List (κ × υ)} {key : κ} {value : υ}
    (found : (ofPairs pairs).lookup key = some value) : (key, value) ∈ pairs := by
  rw [lookup_ofPairs] at found
  exact List.mem_reverse.mp (mem_of_lookup found)

/-- Only the entries that are kept can be found. -/
theorem lookup_filter (isKept : κ → Bool) (table : List (κ × υ)) (key : κ) :
    (table.filter fun entry => isKept entry.1).lookup key =
      if isKept key then table.lookup key else none := by
  induction table with
  | nil => simp
  | cons head rest ih =>
      obtain ⟨other, value⟩ := head
      by_cases same : key = other
      · subst same
        cases kept : isKept key <;> simp [kept, ih]
      · have apart : (key == other) = false := beq_eq_false_iff_ne.mpr same
        cases kept : isKept other <;> simp [List.lookup_cons, kept, apart, ih]

/-! ## Keys -/

theorem put_of_absent {key : κ} {table : List (κ × υ)} (absent : key ∉ table.map Prod.fst)
    (value : υ) : put key value table = table ++ [(key, value)] := by
  induction table with
  | nil => rfl
  | cons head rest ih =>
      obtain ⟨other, old⟩ := head
      rw [List.map_cons, List.mem_cons, not_or] at absent
      have apart : (other == key) = false := by
        rw [beq_eq_false_iff_ne]
        exact fun same => absent.1 same.symm
      rw [put, apart, ih absent.2]
      rfl

theorem keys_put_of_present {key : κ} {table : List (κ × υ)} (present : key ∈ table.map Prod.fst)
    (value : υ) : (put key value table).map Prod.fst = table.map Prod.fst := by
  induction table with
  | nil => simp at present
  | cons head rest ih =>
      obtain ⟨other, old⟩ := head
      rw [put]
      split
      · rfl
      · next apart =>
          rw [List.map_cons, List.mem_cons] at present
          have later := present.resolve_left fun same => apart (by simp [same])
          rw [List.map_cons, List.map_cons, ih later]

theorem keys_put (key : κ) (value : υ) (table : List (κ × υ)) :
    (put key value table).map Prod.fst =
      if key ∈ table.map Prod.fst then table.map Prod.fst else table.map Prod.fst ++ [key] := by
  split
  · next present => exact keys_put_of_present present value
  · next absent => rw [put_of_absent absent, List.map_append, List.map_singleton]

/-- A table that results from putting pairs has every key once. -/
theorem nodup_keys_ofPairs (pairs : List (κ × υ)) : ((ofPairs pairs).map Prod.fst).Nodup := by
  rw [ofPairs]
  induction pairs using List.reverseRecOn with
  | nil => exact List.nodup_nil
  | append_singleton before last ih =>
      rw [List.foldl_append, List.foldl_cons, List.foldl_nil, keys_put]
      split
      · exact ih
      · next absent => exact List.nodup_append_comm.mp (List.nodup_cons.mpr ⟨absent, ih⟩)

/-- The keys of a table are those that were put. -/
theorem mem_keys_ofPairs {pairs : List (κ × υ)} {key : κ} :
    key ∈ (ofPairs pairs).map Prod.fst ↔ key ∈ pairs.map Prod.fst := by
  have present : ∀ table : List (κ × υ),
      key ∈ table.map Prod.fst ↔ (table.lookup key).isSome := by
    intro table
    rw [List.lookup_isSome_iff, List.mem_map]
    refine exists_congr fun pair => and_congr_right fun _ => ?_
    rw [beq_iff_eq, eq_comm]
  rw [present, lookup_ofPairs, ← present, List.map_reverse, List.mem_reverse]

/-- A key that was put with one value only, however often, has that value. -/
theorem lookup_ofPairs_of_unique {pairs : List (κ × υ)} {key : κ} {value : υ}
    (member : (key, value) ∈ pairs) (unique : ∀ other, (key, other) ∈ pairs → other = value) :
    (ofPairs pairs).lookup key = some value := by
  rw [lookup_ofPairs]
  cases found : pairs.reverse.lookup key with
  | none =>
      rw [List.lookup_eq_none_iff] at found
      exact absurd rfl (bne_iff_ne.mp (found _ (List.mem_reverse.mpr member)))
  | some other => rw [unique other (List.mem_reverse.mp (mem_of_lookup found))]

/-- Pairs with distinct keys are a table as they are. -/
theorem ofPairs_of_nodup {pairs : List (κ × υ)} (distinct : (pairs.map Prod.fst).Nodup) :
    ofPairs pairs = pairs := by
  rw [ofPairs]
  induction pairs using List.reverseRecOn with
  | nil => rfl
  | append_singleton before last ih =>
      rw [List.map_append, List.map_singleton, List.nodup_append_comm] at distinct
      rw [List.foldl_append, List.foldl_cons, List.foldl_nil, ih distinct.of_cons]
      exact put_of_absent (List.nodup_cons.mp distinct).1 _

/-! ## Values -/

section

omit [LawfulBEq κ]

variable {ω : Type} (image : υ → ω)

theorem put_map (key : κ) (value : υ) (table : List (κ × υ)) :
    put key (image value) (table.map (Prod.map id image)) =
      (put key value table).map (Prod.map id image) := by
  induction table with
  | nil => rfl
  | cons head rest ih =>
      simp only [List.map_cons, Prod.map, id_eq, put]
      split
      · rfl
      · exact congrArg _ ih

/-- Values may be worked out before or after they are put. -/
theorem ofPairs_map (pairs : List (κ × υ)) :
    ofPairs (pairs.map (Prod.map id image)) = (ofPairs pairs).map (Prod.map id image) := by
  rw [ofPairs, ofPairs, List.foldl_map]
  induction pairs using List.reverseRecOn with
  | nil => rfl
  | append_singleton before last ih =>
      rw [List.foldl_append, List.foldl_append, ih]
      exact put_map image last.1 last.2 _

end

/-! ## Pairs that do not contradict each other -/

section

omit [BEq κ] [LawfulBEq κ]

/-- Whether a table holds the values of a partial function, every key once. -/
structure IsTableOf (value? : κ → Option υ) (table : List (κ × υ)) : Prop where
  nodup : (table.map Prod.fst).Nodup
  mem_iff : ∀ key value, (key, value) ∈ table ↔ value? key = some value

/-- Whether a key has one value wherever it stands. -/
def AreConsistent (pairs : List (κ × υ)) : Prop :=
  ∀ left ∈ pairs, ∀ right ∈ pairs, left.1 = right.1 → left.2 = right.2

theorem areConsistent_of_nodup {pairs : List (κ × υ)}
    (distinct : (pairs.map Prod.fst).Nodup) : AreConsistent pairs := by
  intro left inLeft right inRight same
  rw [List.inj_on_of_nodup_map distinct inLeft inRight same]

theorem AreConsistent.of_perm {left right : List (κ × υ)} (consistent : AreConsistent left)
    (perm : left.Perm right) : AreConsistent right := by
  intro one inOne other inOther
  exact consistent one (perm.mem_iff.mpr inOne) other (perm.mem_iff.mpr inOther)

end

theorem AreConsistent.lookup_eq_some_iff {pairs : List (κ × υ)} (consistent : AreConsistent pairs)
    {key : κ} {value : υ} : pairs.lookup key = some value ↔ (key, value) ∈ pairs := by
  constructor
  · exact mem_of_lookup
  · intro member
    cases found : pairs.lookup key with
    | none => exact absurd rfl (bne_iff_ne.mp (List.lookup_eq_none_iff.mp found _ member))
    | some other =>
        have same : other = value := consistent _ (mem_of_lookup found) _ member rfl
        rw [same]

/-- The order of pairs that do not contradict each other does not matter to any answer. -/
theorem AreConsistent.lookup_eq_of_perm {left right : List (κ × υ)}
    (consistent : AreConsistent left) (perm : left.Perm right) (key : κ) :
    left.lookup key = right.lookup key := by
  apply Option.ext
  intro value
  rw [consistent.lookup_eq_some_iff, (consistent.of_perm perm).lookup_eq_some_iff, perm.mem_iff]

/-- The order in which pairs are put does not matter to any answer if they do not contradict each
other. -/
theorem AreConsistent.lookup_ofPairs_eq_of_perm {left right : List (κ × υ)}
    (consistent : AreConsistent left) (perm : left.Perm right) (key : κ) :
    (ofPairs left).lookup key = (ofPairs right).lookup key := by
  rw [lookup_ofPairs, lookup_ofPairs]
  exact (consistent.of_perm (List.reverse_perm left).symm).lookup_eq_of_perm
    ((List.reverse_perm left).trans (perm.trans (List.reverse_perm right).symm)) key

/-- A table that results from putting pairs is a table of what it answers. -/
theorem isTableOf_ofPairs {pairs : List (κ × υ)} {value? : κ → Option υ}
    (answers : ∀ key, (ofPairs pairs).lookup key = value? key) :
    IsTableOf value? (ofPairs pairs) := by
  have distinct := nodup_keys_ofPairs pairs
  refine ⟨distinct, fun key value => ?_⟩
  rw [← answers, (areConsistent_of_nodup distinct).lookup_eq_some_iff]

end HomeCatalog.Entries
