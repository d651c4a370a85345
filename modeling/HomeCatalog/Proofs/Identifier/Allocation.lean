import HomeCatalog.Identifier.Allocator
import Mathlib.Data.List.Nodup
import Mathlib.Data.List.Perm.Subperm
import Mathlib.Data.Nat.Find

/-!
# What an allocator hands out

A request always gets a name: its candidate if that is free, else the candidate with the least
number behind it that makes it free.  As only finitely many names are taken and numbers are written
differently, such a number exists.  So no name is handed out twice, and in a namespace whose
reserved words cannot be met by what is put before or behind a candidate, every name is legal.
-/

namespace HomeCatalog.Identifier

/-! ## The least free form of a candidate -/

@[simp] theorem toList_numbered (candidate : String) (index : Nat) :
    (numbered candidate index).toList = candidate.toList ++ Nat.toDigits 10 index := by
  rw [numbered, String.toList_append, Nat.toString_eq_repr, Nat.toList_repr]

/-- A candidate with a number behind it tells the number. -/
theorem numbered_injective (candidate : String) :
    Function.Injective (numbered candidate) := by
  intro left right same
  have texts := congrArg String.toList same
  rw [toList_numbered, toList_numbered] at texts
  have digits := List.append_cancel_left texts
  have numbers := congrArg (fun digits => Nat.ofDigitChars 10 digits 0) digits
  simpa using numbers

/-- Whether a name is what a candidate becomes when some names are taken: the candidate itself if
it is free, else its first free numbered form from two on. -/
inductive IsLeastFree (used : List String) (candidate : String) : String → Prop where
  | itself (free : candidate ∉ used) : IsLeastFree used candidate candidate
  | numbered (taken : candidate ∈ used) {index : Nat} (fromTwo : 2 ≤ index)
      (free : numbered candidate index ∉ used)
      (least : ∀ earlier, 2 ≤ earlier → earlier < index → numbered candidate earlier ∈ used) :
      IsLeastFree used candidate (numbered candidate index)

namespace IsLeastFree

variable {used : List String} {candidate name : String}

theorem notMem (least : IsLeastFree used candidate name) : name ∉ used := by
  cases least with
  | itself free => exact free
  | numbered _ _ free _ => exact free

/-- Only which names are taken matters. -/
theorem congr {other : List String} (same : ∀ name, name ∈ used ↔ name ∈ other)
    (least : IsLeastFree used candidate name) : IsLeastFree other candidate name := by
  cases least with
  | itself free => exact .itself (by rwa [← same])
  | numbered taken fromTwo free least =>
      refine .numbered ((same _).mp taken) fromTwo (by rwa [← same]) ?_
      exact fun earlier low high => (same _).mp (least earlier low high)

/-- What holds of a candidate and of its numbered forms holds of the name. -/
theorem elim {motive : String → Prop} (least : IsLeastFree used candidate name)
    (itself : motive candidate)
    (number : ∀ index, motive (Identifier.numbered candidate index)) : motive name := by
  cases least with
  | itself _ => exact itself
  | numbered _ _ _ _ => exact number _

end IsLeastFree

/-- Among more numbered forms than there are taken names one is free. -/
theorem exists_free_numbered (used : List String) (candidate : String) (index : Nat) :
    ∃ offset ≤ used.length, numbered candidate (index + offset) ∉ used := by
  by_contra allTaken
  push Not at allTaken
  let forms := (List.range (used.length + 1)).map fun offset => numbered candidate (index + offset)
  have distinct : forms.Nodup := by
    apply List.Nodup.map _ List.nodup_range
    intro left right same
    exact Nat.add_left_cancel (numbered_injective candidate same)
  have taken : forms ⊆ used := by
    intro form member
    obtain ⟨offset, inRange, rfl⟩ := List.mem_map.mp member
    exact allTaken offset (Nat.lt_succ_iff.mp (List.mem_range.mp inRange))
  have atMost := (List.subperm_of_subset distinct taken).length_le
  simp only [forms, List.length_map, List.length_range] at atMost
  omega

/-- The search stops at the first free numbered form, if it comes within the attempts. -/
theorem firstFree_eq {used : List String} {candidate : String} {attempts index offset : Nat}
    (within : offset ≤ attempts) (free : numbered candidate (index + offset) ∉ used)
    (least : ∀ earlier < offset, numbered candidate (index + earlier) ∈ used) :
    firstFree used candidate attempts index = numbered candidate (index + offset) := by
  induction attempts generalizing index offset with
  | zero =>
      obtain rfl : offset = 0 := Nat.le_zero.mp within
      rfl
  | succ attempts ih =>
      rw [firstFree]
      cases offset with
      | zero =>
          rw [Nat.add_zero] at free ⊢
          simp [free]
      | succ offset =>
          have taken : numbered candidate index ∈ used := least 0 (Nat.succ_pos offset)
          have further : index + 1 + offset = index + (offset + 1) := by omega
          rw [if_pos (by simpa using taken), ← further]
          apply ih (Nat.le_of_succ_le_succ within)
          · rwa [further]
          · intro earlier before
            have moved : index + 1 + earlier = index + (earlier + 1) := by omega
            rw [moved]
            exact least (earlier + 1) (Nat.succ_lt_succ before)

/-- Whatever names are taken, a candidate becomes its least free form. -/
theorem isLeastFree_fresh (used : List String) (candidate : String) :
    IsLeastFree used candidate (fresh used candidate) := by
  rw [fresh]
  split
  · next taken =>
      have exists_ := exists_free_numbered used candidate 2
      -- The least offset of a free form is at most the one that is known to be free.
      have within : Nat.find exists_ ≤ used.length := (Nat.find_spec exists_).1
      have least : ∀ earlier < Nat.find exists_, numbered candidate (2 + earlier) ∈ used := by
        intro earlier before
        by_contra free
        exact Nat.find_min exists_ before ⟨by omega, free⟩
      rw [firstFree_eq within (Nat.find_spec exists_).2 least]
      refine .numbered (by simpa using taken) (Nat.le_add_right 2 _) (Nat.find_spec exists_).2 ?_
      intro earlier low high
      obtain ⟨offset, rfl⟩ := Nat.exists_eq_add_of_le low
      exact least offset (by omega)
  · next free => exact .itself (by simpa using free)

theorem forall_mem_guardDigit {holds : Char → Prop} (underscore : holds '_') {name : String}
    (every : ∀ c ∈ name.toList, holds c) : ∀ c ∈ (guardDigit name).toList, holds c := by
  rw [guardDigit]
  split
  · exact every
  · split
    · rw [String.toList_append, List.forall_mem_append]
      exact ⟨by simpa using underscore, every⟩
    · exact every

/-! ## Any number of requests -/

namespace Allocator

variable (allocator : Allocator) (requests : List (String × String))

/-- Every request gets one name. -/
@[simp] theorem length_allocateAll :
    (allocator.allocateAll requests).1.length = requests.length := by
  induction requests generalizing allocator with
  | nil => rfl
  | cons request rest ih => simp [allocateAll, ih]

/-- An allocator knows the names from before and those that it handed out. -/
theorem mem_used_allocateAll (name : String) :
    name ∈ (allocator.allocateAll requests).2.used ↔
      name ∈ (allocator.allocateAll requests).1 ∨ name ∈ allocator.used := by
  induction requests generalizing allocator with
  | nil => simp [allocateAll]
  | cons request rest ih =>
      simp only [allocateAll, ih, allocate, List.mem_cons]
      tauto

/-- No name is handed out that was taken before. -/
theorem notMem_used_of_mem_allocateAll {name : String}
    (member : name ∈ (allocator.allocateAll requests).1) : name ∉ allocator.used := by
  induction requests generalizing allocator with
  | nil => simp [allocateAll] at member
  | cons request rest ih =>
      rw [allocateAll, List.mem_cons] at member
      rcases member with rfl | later
      · exact (isLeastFree_fresh _ _).notMem
      · have fresh := ih (allocator.allocate request.1 request.2).2 later
        exact fun before => fresh (List.mem_cons_of_mem _ before)

/-- No name is handed out twice. -/
theorem nodup_allocateAll : (allocator.allocateAll requests).1.Nodup := by
  induction requests generalizing allocator with
  | nil => exact List.nodup_nil
  | cons request rest ih =>
      rw [allocateAll, List.nodup_cons]
      refine ⟨?_, ih _⟩
      intro again
      exact notMem_used_of_mem_allocateAll _ rest again List.mem_cons_self

/-- Each request gets the least free form of its candidate, given the names from before and those
that earlier requests got. -/
theorem isLeastFree_allocateAll {index : Nat} {request : String × String}
    (requested : requests[index]? = some request) :
    ∃ name, (allocator.allocateAll requests).1[index]? = some name ∧
      IsLeastFree ((allocator.allocateAll requests).1.take index ++ allocator.used)
        (allocator.rules.candidate request.1 request.2) name := by
  induction requests generalizing allocator index with
  | nil => simp at requested
  | cons first rest ih =>
      cases index with
      | zero =>
          obtain rfl : first = request := by simpa using requested
          exact ⟨_, rfl, isLeastFree_fresh _ _⟩
      | succ index =>
          obtain ⟨name, found, least⟩ := ih (allocator.allocate first.1 first.2).2 requested
          refine ⟨name, found, least.congr fun other => ?_⟩
          simp only [allocateAll, allocate, List.take_succ_cons, List.mem_append, List.mem_cons]
          tauto

/-- Every name that is handed out is the least free form of some request's candidate. -/
theorem exists_request_of_mem_allocateAll {name : String}
    (member : name ∈ (allocator.allocateAll requests).1) :
    ∃ used, ∃ request ∈ requests,
      IsLeastFree used (allocator.rules.candidate request.1 request.2) name := by
  obtain ⟨index, found⟩ := List.mem_iff_getElem?.mp member
  have inBounds : index < requests.length := by
    rw [← length_allocateAll allocator requests]
    exact (List.getElem?_eq_some_iff.mp found).1
  obtain ⟨name', found', least⟩ :=
    isLeastFree_allocateAll allocator requests (List.getElem?_eq_getElem inBounds)
  obtain rfl : name = name' := Option.some.inj (found.symm.trans found')
  exact ⟨_, _, List.getElem_mem inBounds, least⟩

/-- What holds of the characters of normalized names, of the role word, of an underscore and of
digits, holds of all characters of the names that are handed out. -/
theorem forall_mem_of_mem_allocateAll {holds : Char → Prop}
    (normalized : ∀ raw, ∀ c ∈ (allocator.rules.normalize raw).toList, holds c)
    (role : ∀ c ∈ allocator.rules.roleWord.toList, holds c) (underscore : holds '_')
    (digits : ∀ c, c.isDigit = true → holds c) {name : String}
    (member : name ∈ (allocator.allocateAll requests).1) : ∀ c ∈ name.toList, holds c := by
  have base : ∀ primary fallback, ∀ c ∈ (allocator.rules.baseName primary fallback).toList,
      holds c := by
    intro primary fallback
    rw [Namespace.baseName]
    split
    · exact normalized primary
    · split
      · exact normalized fallback
      · split
        · exact normalized _
        · simpa using underscore
  have candidate : ∀ primary fallback, ∀ c ∈ (allocator.rules.candidate primary fallback).toList,
      holds c := by
    intro primary fallback
    rw [Namespace.candidate]
    apply forall_mem_guardDigit underscore
    rw [Namespace.avoidReserved]
    split
    · rw [String.toList_append, List.forall_mem_append]
      exact ⟨base primary fallback, role⟩
    · exact base primary fallback
  obtain ⟨used, request, _, least⟩ := allocator.exists_request_of_mem_allocateAll requests member
  refine least.elim (motive := fun name => ∀ c ∈ name.toList, holds c) (candidate _ _) ?_
  intro index
  rw [toList_numbered, List.forall_mem_append]
  exact ⟨candidate _ _, fun c written =>
    digits c (Nat.isDigit_of_mem_toDigits (by decide) (by decide) written)⟩

end Allocator

/-! ## Legal names -/

namespace Namespace

/-- Whether a name can stand in the sources of a namespace: it is not empty, starts with no digit,
and is not reserved. -/
structure IsLegal (rules : Namespace) (name : String) : Prop where
  filled : name ≠ ""
  undigited : ∀ c ∈ name.toList.head?, Text.isDigit c = false
  unreserved : name ∉ rules.reserved

/-- Whether a word cannot be met by changing another one: it does not end in the role word, its
second character is no digit, and it does not end in a decimal digit. -/
def isOutOfReach (roleWord word : List Char) : Bool :=
  !roleWord.isSuffixOf word && !word[1]?.any Text.isDigit && !word.getLast?.any Char.isDigit

/-- Whether what is moved out of the reserved words of a namespace stays outside of them. -/
def IsSound (rules : Namespace) : Prop :=
  ∀ word ∈ rules.reserved, isOutOfReach rules.roleWord.toList word.toList = true

instance (rules : Namespace) : Decidable rules.IsSound :=
  inferInstanceAs (Decidable (∀ _ ∈ _, _))

theorem isOutOfReach_iff {roleWord word : List Char} :
    isOutOfReach roleWord word = true ↔
      ¬roleWord <:+ word ∧ (∀ c ∈ word[1]?, Text.isDigit c = false) ∧
        ∀ c ∈ word.getLast?, c.isDigit = false := by
  simp only [isOutOfReach, Bool.and_eq_true, Bool.not_eq_true', Option.any_eq_false,
    Option.mem_def, and_assoc, ← List.isSuffixOf_iff_suffix, Bool.not_eq_true]

variable {rules : Namespace}

theorem baseName_ne_empty (primary fallback : String) : rules.baseName primary fallback ≠ "" := by
  rw [baseName]
  split
  · next filled => simpa using filled
  · split
    · next filled => simpa using filled
    · split
      · next filled => simpa using filled
      · decide

theorem avoidReserved_ne_empty {name : String} (filled : name ≠ "") :
    rules.avoidReserved name ≠ "" := by
  rw [avoidReserved]
  split
  · simp [filled]
  · exact filled

theorem IsSound.avoidReserved_notMem (sound : rules.IsSound) (name : String) :
    rules.avoidReserved name ∉ rules.reserved := by
  rw [avoidReserved]
  split
  · intro reserved
    obtain ⟨unmarked, _, _⟩ := isOutOfReach_iff.mp (sound _ reserved)
    rw [String.toList_append] at unmarked
    exact unmarked (List.suffix_append _ _)
  · next free => simpa using free

/-- A name that is neither empty nor reserved is legal once its leading digit is guarded. -/
theorem IsSound.isLegal_guardDigit (sound : rules.IsSound) {name : String} (filled : name ≠ "")
    (unreserved : name ∉ rules.reserved) : rules.IsLegal (guardDigit name) := by
  rw [guardDigit]
  split
  · next empty => exact absurd (String.toList_eq_nil_iff.mp empty) filled
  · next first rest shape =>
      split
      · next digit =>
          have guarded : ("_" ++ name).toList = '_' :: first :: rest := by
            rw [String.toList_append, shape]
            rfl
          refine ⟨by simp, ?_, ?_⟩
          · have underscore : Text.isDigit '_' = false := by decide
            simpa [guarded] using underscore
          · intro reserved
            obtain ⟨_, undigited, _⟩ := isOutOfReach_iff.mp (sound _ reserved)
            have first_undigited := undigited first (by simp [guarded])
            rw [digit] at first_undigited
            cases first_undigited
      · next undigited =>
          refine ⟨filled, ?_, unreserved⟩
          simpa [shape] using undigited

theorem IsSound.isLegal_candidate (sound : rules.IsSound) (primary fallback : String) :
    rules.IsLegal (rules.candidate primary fallback) :=
  sound.isLegal_guardDigit (avoidReserved_ne_empty (baseName_ne_empty primary fallback))
    (sound.avoidReserved_notMem _)

/-- A number behind a legal name leaves it legal. -/
theorem IsSound.isLegal_numbered (sound : rules.IsSound) {name : String}
    (legal : rules.IsLegal name) (index : Nat) : rules.IsLegal (numbered name index) := by
  have digits := toList_numbered name index
  have named : name.toList ≠ [] := fun empty => legal.filled (String.toList_eq_nil_iff.mp empty)
  have written : Nat.toDigits 10 index ≠ [] := Nat.toDigits_ne_nil
  constructor
  · intro empty
    rw [empty] at digits
    exact named (List.append_eq_nil_iff.mp digits.symm).1
  · rw [digits, List.head?_append_of_ne_nil _ named]
    exact legal.undigited
  · intro reserved
    obtain ⟨_, _, unnumbered⟩ := isOutOfReach_iff.mp (sound _ reserved)
    have last : (Nat.toDigits 10 index).getLast written ∈ (numbered name index).toList.getLast? := by
      rw [digits, List.getLast?_append, List.getLast?_eq_some_getLast written]
      rfl
    have digit : ((Nat.toDigits 10 index).getLast written).isDigit = true :=
      Nat.isDigit_of_mem_toDigits (by decide) (by decide) (List.getLast_mem written)
    rw [unnumbered _ last] at digit
    cases digit

/-- A sound namespace hands out legal names only. -/
theorem IsSound.isLegal_of_mem_allocateAll (sound : rules.IsSound)
    {requests : List (String × String)} {name : String}
    (member : name ∈ ((Allocator.new rules).allocateAll requests).1) : rules.IsLegal name := by
  obtain ⟨used, request, _, least⟩ :=
    (Allocator.new rules).exists_request_of_mem_allocateAll requests member
  have legal := sound.isLegal_candidate request.1 request.2
  exact least.elim legal (sound.isLegal_numbered legal)

end Namespace

end HomeCatalog.Identifier
