import HomeCatalog.Bindings.Basic
import HomeCatalog.Proofs.Entries
import HomeCatalog.Proofs.Identifier.Allocation

/-!
# The names of entries

Names are allocated for entries in a row and kept by the identifiers of the entries.  Where no two
entries have one identifier, every entry has the name that was allocated for it.
-/

namespace HomeCatalog.Bindings

open Identifier

/-- Looking up distinct keys one after the other gives the values as they were put. -/
theorem map_nameOf_zip {keys values : List String} (distinct : keys.Nodup)
    (sameLength : keys.length = values.length) :
    keys.map (NameTable.nameOf (keys.zip values)) = values := by
  induction keys generalizing values with
  | nil => exact (List.length_eq_zero_iff.mp sameLength.symm).symm
  | cons key rest ih =>
      cases values with
      | nil => simp at sameLength
      | cons value later =>
          obtain ⟨fresh, distinct⟩ := List.nodup_cons.mp distinct
          have others : rest.map (NameTable.nameOf ((key, value) :: rest.zip later)) =
              rest.map (NameTable.nameOf (rest.zip later)) := by
            apply List.map_congr_left
            intro other member
            have apart : (other == key) = false := by
              rw [beq_eq_false_iff_ne]
              rintro rfl
              exact fresh member
            simp only [NameTable.nameOf, List.lookup_cons, apart]
          rw [List.zip_cons_cons, List.map_cons, others, ih distinct (by simpa using sameLength)]
          simp [NameTable.nameOf]

section

variable {α : Type} {rules : Namespace} {entries : List α}

/-- The names of entries with distinct identifiers are those that were allocated, in order. -/
theorem map_nameOf_assign (rules : Namespace) (request : α → NameRequest)
    (distinct : (entries.map fun entry => (request entry).identifier).Nodup) :
    entries.map (fun entry =>
        (assign rules (entries.map request)).nameOf (request entry).identifier) =
      ((Allocator.new rules).allocateAll
        (entries.map fun entry => ((request entry).primary, (request entry).fallback))).1 := by
  have identifiers : (entries.map request).map NameRequest.identifier =
      entries.map fun entry => (request entry).identifier := by
    rw [List.map_map]
    rfl
  have requests : (entries.map request).map (fun request => (request.primary, request.fallback)) =
      entries.map fun entry => ((request entry).primary, (request entry).fallback) := by
    rw [List.map_map]
    rfl
  have sameLength : (entries.map fun entry => (request entry).identifier).length =
      ((Allocator.new rules).allocateAll
        (entries.map fun entry => ((request entry).primary, (request entry).fallback))).1.length :=
    by simp
  have keys := List.map_fst_zip (le_of_eq sameLength)
  rw [assign, identifiers, requests, Entries.ofPairs_of_nodup (keys.symm ▸ distinct)]
  have names := map_nameOf_zip distinct sameLength
  rwa [List.map_map] at names

/-- The names of entries are told apart exactly if their identifiers are, since the table keeps one
name for each identifier. -/
theorem nodup_map_nameOf_assign_iff (rules : Namespace) (request : α → NameRequest) :
    (entries.map fun entry =>
        (assign rules (entries.map request)).nameOf (request entry).identifier).Nodup ↔
      (entries.map fun entry => (request entry).identifier).Nodup := by
  constructor
  · intro named
    rw [← Function.comp_def (assign rules (entries.map request)).nameOf, ← List.map_map] at named
    exact named.of_map _
  · intro distinct
    rw [map_nameOf_assign rules request distinct]
    exact Allocator.nodup_allocateAll _ _

/-- Whether each of some entries has a legal name for itself alone. -/
structure AreNamed (rules : Namespace) (entries : List α) (name : α → String) : Prop where
  nodup : (entries.map name).Nodup
  legal : ∀ entry ∈ entries, rules.IsLegal (name entry)

/-- In a sound namespace entries with distinct identifiers are named. -/
theorem areNamed_assign (sound : rules.IsSound) (request : α → NameRequest)
    (distinct : (entries.map fun entry => (request entry).identifier).Nodup) :
    AreNamed rules entries fun entry =>
      (assign rules (entries.map request)).nameOf (request entry).identifier := by
  have names := map_nameOf_assign rules request distinct
  constructor
  · rw [names]
    exact Allocator.nodup_allocateAll _ _
  · intro entry member
    have allocated := names ▸ List.mem_map_of_mem member
    exact sound.isLegal_of_mem_allocateAll allocated

end

/-- The name of a requested identifier is among those that were allocated, whether or not the
identifier repeats. -/
theorem nameOf_assign_mem_allocateAll {rules : Namespace} {requests : List NameRequest}
    {request : NameRequest} (requested : request ∈ requests) :
    (assign rules requests).nameOf request.identifier ∈ ((Allocator.new rules).allocateAll
      (requests.map fun request => (request.primary, request.fallback))).1 := by
  have key : request.identifier ∈ (assign rules requests).map Prod.fst := by
    rw [assign, Entries.mem_keys_ofPairs, List.map_fst_zip (by simp)]
    exact List.mem_map_of_mem requested
  cases found : (assign rules requests).lookup request.identifier with
  | none =>
      obtain ⟨entry, member, same⟩ := List.mem_map.mp key
      exact absurd same.symm (bne_iff_ne.mp (List.lookup_eq_none_iff.mp found entry member))
  | some name =>
      rw [NameTable.nameOf, found]
      exact (List.of_mem_zip (Entries.mem_of_lookup_ofPairs found)).2

/-- What holds of all characters that a namespace may use holds of the characters of the names. -/
theorem forall_mem_nameOf_assign (rules : Namespace) {holds : Char → Prop}
    (normalized : ∀ raw, ∀ c ∈ (rules.normalize raw).toList, holds c)
    (role : ∀ c ∈ rules.roleWord.toList, holds c) (underscore : holds '_')
    (digits : ∀ c, c.isDigit = true → holds c) (requests : List NameRequest)
    (identifier : String) :
    ∀ c ∈ ((assign rules requests).nameOf identifier).toList, holds c := by
  cases found : (assign rules requests).lookup identifier with
  | none => simp [NameTable.nameOf, found]
  | some name =>
      have allocated := (List.of_mem_zip (Entries.mem_of_lookup_ofPairs found)).2
      rw [NameTable.nameOf, found]
      exact (Allocator.new rules).forall_mem_of_mem_allocateAll _ normalized role underscore digits
        allocated

end HomeCatalog.Bindings
