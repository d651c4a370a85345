/-!
# Keyed entries in order of insertion

A table whose order can be seen is a list of pairs with distinct keys.  Putting a key that is
present replaces its value and leaves its place; putting a new key adds it at the end.
-/

namespace HomeCatalog.Entries

variable {κ υ : Type} [BEq κ]

/-- Set the value of a key. -/
def put (key : κ) (value : υ) : List (κ × υ) → List (κ × υ)
  | [] => [(key, value)]
  | (other, old) :: rest =>
      if other == key then (other, value) :: rest else (other, old) :: put key value rest

/-- The table that results from putting pairs one after the other. -/
def ofPairs (pairs : List (κ × υ)) : List (κ × υ) :=
  pairs.foldl (fun table pair => put pair.1 pair.2 table) []

variable [LawfulBEq κ]

/-- A key that was just put has its new value. -/
theorem lookup_put_self (key : κ) (value : υ) (table : List (κ × υ)) :
    (put key value table).lookup key = some value := by
  induction table with
  | nil => simp [put]
  | cons head rest ih =>
      obtain ⟨other, old⟩ := head
      rw [put]
      split
      · next same => simp [eq_of_beq same]
      · next different =>
          have apart : (key == other) = false := by
            rw [beq_eq_false_iff_ne]
            exact fun same => different (by simp [same])
          simp [List.lookup_cons, apart, ih]

/-- Putting a key leaves the values of all others. -/
theorem lookup_put_of_ne {key other : κ} (value : υ) (table : List (κ × υ))
    (apart : (other == key) = false) :
    (put key value table).lookup other = table.lookup other := by
  induction table with
  | nil => simp [put, List.lookup_cons, apart]
  | cons head rest ih =>
      obtain ⟨first, old⟩ := head
      rw [put]
      split
      · next same =>
          cases eq_of_beq same
          simp [List.lookup_cons, apart]
      · rw [List.lookup_cons, List.lookup_cons]
        split <;> simp_all

end HomeCatalog.Entries
