import HomeCatalog.Bindings.Swift.Names
import HomeCatalog.Bindings.TypeScript.Names
import HomeCatalog.Proofs.Identifier.Allocation

/-!
# The names of types

A type gets the suffix of its sort, and where names meet a number behind it.  An entry of which
nothing is left without the suffix gets an underscore instead, whatever its sort.  So the last
character that is no digit tells the sort of a type, unless it is an underscore.
-/

namespace HomeCatalog.Bindings

open Identifier

/-- The namespace of the types with a suffix. -/
abbrev typeRules (suffix : String) : Namespace :=
  .ofNormalize fun raw => typeName raw suffix

/-- Whether a type can be named after one of the names of a request. -/
def IsNameable (suffix : String) (request : String × String) : Prop :=
  typeName request.1 suffix ≠ "" ∨ typeName request.2 suffix ≠ ""

instance (suffix : String) (request : String × String) : Decidable (IsNameable suffix request) :=
  inferInstanceAs (Decidable (_ ∨ _))

/-! ## The end of a name -/

/-- The last character of a name that is no decimal digit. -/
def lastLetter? (name : String) : Option Char :=
  name.toList.reverse.find? fun c => !c.isDigit

/-- A number behind a name leaves its last letter. -/
@[simp] theorem lastLetter?_numbered (candidate : String) (index : Nat) :
    lastLetter? (numbered candidate index) = lastLetter? candidate := by
  have digits : (Nat.toDigits 10 index).reverse.find? (fun c => !c.isDigit) = none := by
    rw [List.find?_eq_none]
    intro c written
    simpa using Nat.isDigit_of_mem_toDigits (by decide) (by decide) (List.mem_reverse.mp written)
  rw [lastLetter?, toList_numbered, List.reverse_append, List.find?_append, digits,
    Option.none_or, lastLetter?]

theorem lastLetter?_append {suffix : String} {c : Char} (ends : lastLetter? suffix = some c)
    (base : String) : lastLetter? (base ++ suffix) = some c := by
  rw [lastLetter?, String.toList_append, List.reverse_append, List.find?_append]
  exact congrArg (Option.or · _) ends

/-! ## The two forms of a type -/

/-- Whether a name ends in a suffix and at most one number from two on. -/
inductive IsSuffixed (suffix : String) : String → Prop where
  | itself (base : String) : IsSuffixed suffix (base ++ suffix)
  | numbered (base : String) {index : Nat} (fromTwo : 2 ≤ index) :
      IsSuffixed suffix (numbered (base ++ suffix) index)

/-- Whether a name is an underscore, or one with a number from two on. -/
inductive IsLastResort : String → Prop where
  | itself : IsLastResort "_"
  | numbered {index : Nat} (fromTwo : 2 ≤ index) : IsLastResort (numbered "_" index)

variable {suffix name : String}

theorem IsSuffixed.lastLetter? {c : Char} (isSuffixed : IsSuffixed suffix name)
    (ends : Bindings.lastLetter? suffix = some c) : Bindings.lastLetter? name = some c := by
  cases isSuffixed with
  | itself base => exact lastLetter?_append ends base
  | numbered base _ => rw [lastLetter?_numbered, lastLetter?_append ends base]

theorem IsLastResort.lastLetter? (lastResort : IsLastResort name) :
    Bindings.lastLetter? name = some '_' := by
  cases lastResort with
  | itself => decide
  | numbered _ =>
      rw [lastLetter?_numbered]
      decide

/-- A type name is empty or ends in its suffix. -/
theorem exists_base_of_typeName {raw : String} (filled : typeName raw suffix ≠ "") :
    ∃ base, typeName raw suffix = base ++ suffix := by
  have shape : ∀ base : String, (if base.isEmpty then "" else upperCamel base ++ suffix) ≠ "" →
      ∃ stem, (if base.isEmpty then "" else upperCamel base ++ suffix) = stem ++ suffix := by
    intro base
    split
    · intro empty
      exact absurd rfl empty
    · exact fun _ => ⟨_, rfl⟩
  exact shape _ filled

theorem exists_base_of_guardDigit (base : String) :
    ∃ stem, guardDigit (base ++ suffix) = stem ++ suffix := by
  rw [guardDigit]
  split
  · exact ⟨base, rfl⟩
  · split
    · exact ⟨"_" ++ base, (String.append_assoc ..).symm⟩
    · exact ⟨base, rfl⟩

/-- A request gets the suffix if it can be named, and an underscore if it cannot. -/
theorem candidate_typeRules (suffix : String) (request : String × String) :
    (IsNameable suffix request ∧
        ∃ base, (typeRules suffix).candidate request.1 request.2 = base ++ suffix) ∨
      (¬IsNameable suffix request ∧ (typeRules suffix).candidate request.1 request.2 = "_") := by
  have guarded : ∀ raw, typeName raw suffix ≠ "" →
      ∃ base, guardDigit (typeName raw suffix) = base ++ suffix := by
    intro raw filled
    obtain ⟨base, shape⟩ := exists_base_of_typeName filled
    rw [shape]
    exact exists_base_of_guardDigit base
  have candidate : (typeRules suffix).candidate request.1 request.2 =
      guardDigit (if typeName request.1 suffix ≠ "" then typeName request.1 suffix
        else if typeName request.2 suffix ≠ "" then typeName request.2 suffix else "_") := by
    simp [Namespace.candidate, Namespace.avoidReserved, Namespace.baseName, Namespace.ofNormalize,
      typeName_empty]
  rw [candidate]
  by_cases primary : typeName request.1 suffix = ""
  · by_cases fallback : typeName request.2 suffix = ""
    · right
      constructor
      · exact fun nameable => nameable.elim (absurd primary) (absurd fallback)
      · rw [if_neg (not_not_intro primary), if_neg (not_not_intro fallback)]
        decide
    · left
      rw [if_neg (not_not_intro primary), if_pos fallback]
      exact ⟨Or.inr fallback, guarded _ fallback⟩
  · left
    rw [if_pos primary]
    exact ⟨Or.inl primary, guarded _ primary⟩

section

variable {requests : List (String × String)}

/-- Every name that is handed out for a type ends in the suffix of its sort, or is a last resort
because some request cannot be named. -/
theorem isSuffixed_or_isLastResort_of_mem_allocateAll
    (member : name ∈ ((Allocator.new (typeRules suffix)).allocateAll requests).1) :
    IsSuffixed suffix name ∨
      IsLastResort name ∧ ∃ request ∈ requests, ¬IsNameable suffix request := by
  obtain ⟨used, request, requested, least⟩ :=
    (Allocator.new (typeRules suffix)).exists_request_of_mem_allocateAll requests member
  change IsLeastFree used ((typeRules suffix).candidate request.1 request.2) name at least
  rcases candidate_typeRules suffix request with
    ⟨_, base, candidate⟩ | ⟨unnameable, candidate⟩
  · rw [candidate] at least
    left
    cases least with
    | itself _ => exact .itself base
    | numbered _ fromTwo _ _ => exact .numbered base fromTwo
  · rw [candidate] at least
    refine Or.inr ⟨?_, request, requested, unnameable⟩
    cases least with
    | itself _ => exact .itself
    | numbered _ fromTwo _ _ => exact .numbered fromTwo

/-- The last letter of a type is that of its suffix or an underscore. -/
theorem lastLetter?_of_mem_allocateAll {c : Char} (ends : lastLetter? suffix = some c)
    (member : name ∈ ((Allocator.new (typeRules suffix)).allocateAll requests).1) :
    lastLetter? name = some c ∨ lastLetter? name = some '_' := by
  rcases isSuffixed_or_isLastResort_of_mem_allocateAll member with isSuffixed | ⟨lastResort, _⟩
  · exact Or.inl (isSuffixed.lastLetter? ends)
  · exact Or.inr lastResort.lastLetter?

theorem notMem_allocateAll_of_lastLetter? {c d : Char} (ends : lastLetter? suffix = some c)
    (letter : lastLetter? name = some d) (apart : d ≠ c) (plain : d ≠ '_') :
    name ∉ ((Allocator.new (typeRules suffix)).allocateAll requests).1 := by
  intro member
  rcases lastLetter?_of_mem_allocateAll ends member with letter' | letter'
  · exact apart (Option.some.inj (letter.symm.trans letter'))
  · exact plain (Option.some.inj (letter.symm.trans letter'))

/-- If some request cannot be named, the bare underscore is handed out. -/
theorem underscore_mem_allocateAll {request : String × String} (requested : request ∈ requests)
    (unnameable : ¬IsNameable suffix request) :
    "_" ∈ ((Allocator.new (typeRules suffix)).allocateAll requests).1 := by
  have candidate : (typeRules suffix).candidate request.1 request.2 = "_" := by
    rcases candidate_typeRules suffix request with ⟨nameable, _⟩ | ⟨_, candidate⟩
    · exact absurd nameable unnameable
    · exact candidate
  obtain ⟨index, found⟩ := List.mem_iff_getElem?.mp requested
  obtain ⟨name, given, least⟩ :=
    (Allocator.new (typeRules suffix)).isLeastFree_allocateAll requests found
  change IsLeastFree (_ ++ []) ((typeRules suffix).candidate request.1 request.2) name at least
  rw [candidate, List.append_nil] at least
  -- The request gets the underscore, unless an earlier one has it.
  cases least with
  | itself _ => exact List.mem_of_getElem? given
  | numbered taken _ _ _ => exact List.mem_of_mem_take taken

end

/-- Types of two sorts, whose suffixes have different last letters, meet exactly if in both sorts
some request cannot be named. -/
theorem disjoint_allocateAll_iff {other : String} {c d : Char}
    {requests others : List (String × String)} (ends : lastLetter? suffix = some c)
    (otherEnds : lastLetter? other = some d) (apart : c ≠ d) (plain : c ≠ '_') (plain' : d ≠ '_') :
    List.Disjoint ((Allocator.new (typeRules suffix)).allocateAll requests).1
        ((Allocator.new (typeRules other)).allocateAll others).1 ↔
      (∀ request ∈ requests, IsNameable suffix request) ∨
        ∀ request ∈ others, IsNameable other request := by
  constructor
  · intro disjoint
    by_contra unnamed
    push Not at unnamed
    obtain ⟨⟨request, requested, unnameable⟩, ⟨request', requested', unnameable'⟩⟩ := unnamed
    apply disjoint
    · exact underscore_mem_allocateAll requested unnameable
    · exact underscore_mem_allocateAll requested' unnameable'
  · intro nameable name one two
    -- A name of both sorts ends in neither suffix, so it is a last resort twice.
    rcases isSuffixed_or_isLastResort_of_mem_allocateAll one with isSuffixed | ⟨lastResort, unnamed⟩
    · exact notMem_allocateAll_of_lastLetter? otherEnds (isSuffixed.lastLetter? ends) apart plain two
    · rcases isSuffixed_or_isLastResort_of_mem_allocateAll two with isSuffixed' | ⟨_, unnamed'⟩
      · exact notMem_allocateAll_of_lastLetter? ends (isSuffixed'.lastLetter? otherEnds) apart.symm
          plain' one
      · obtain ⟨request, requested, unnameable⟩ := unnamed
        obtain ⟨request', requested', unnameable'⟩ := unnamed'
        rcases nameable with every | every
        · exact unnameable (every request requested)
        · exact unnameable' (every request' requested')

end HomeCatalog.Bindings
