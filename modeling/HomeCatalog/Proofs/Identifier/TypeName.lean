import HomeCatalog.Identifier.Basic
import HomeCatalog.Proofs.Text.Capitals
import HomeCatalog.Proofs.Text.SmallLetters

/-!
# Type names

A type name is the root of the camel-case name with the suffix behind it.  The root is what stands
in front of the suffix, in whatever letter case the name ends in it.  Whether it does is looked up
in the lower-case form, which may be longer than the name, and yet the suffix is cut off the name by
its length.  That is right because each letter of the suffixes comes from one basic Latin letter.
-/

namespace HomeCatalog.Identifier

open Text

/-! ## Camel case -/

theorem isWordChar_of_mem_sanitize {raw : String} {c : Char}
    (member : c ∈ (sanitize raw).toList) : isWordChar c = true := by
  rw [toList_sanitize] at member
  exact List.of_mem_filter member

/-- Whether a text starts with a word character that is its own upper-case form. -/
def StartsCapital (cs : List Char) : Prop :=
  ∃ capital rest, cs = capital :: rest ∧ isWordChar capital = true ∧ upperChar capital = [capital]

namespace StartsCapital

theorem append {left : List Char} (starts : StartsCapital left) (right : List Char) :
    StartsCapital (left ++ right) := by
  obtain ⟨capital, rest, rfl, isCapital⟩ := starts
  exact ⟨capital, rest ++ right, rfl, isCapital⟩

theorem of_append {left right : List Char} (starts : StartsCapital (left ++ right))
    (filled : left ≠ []) : StartsCapital left := by
  obtain ⟨capital, rest, shape, isCapital⟩ := starts
  cases left with
  | nil => exact absurd rfl filled
  | cons first others =>
      obtain rfl := (List.cons.inj shape).1
      exact ⟨first, others, rfl, isCapital⟩

variable {name : String}

theorem ne_empty (starts : StartsCapital name.toList) : name ≠ "" := by
  rintro rfl
  obtain ⟨_, _, shape, _⟩ := starts
  cases shape

theorem sanitize (starts : StartsCapital name.toList) :
    StartsCapital (sanitize name).toList := by
  obtain ⟨capital, rest, shape, word, settled⟩ := starts
  rw [toList_sanitize, shape, List.filter_cons_of_pos word]
  exact ⟨capital, _, rfl, word, settled⟩

theorem isWord_sanitize (starts : StartsCapital name.toList) :
    IsWord (Identifier.sanitize name).toList := by
  obtain ⟨capital, rest, shape, _⟩ := starts.sanitize
  constructor
  · rw [shape]
    exact List.cons_ne_nil _ _
  · exact fun c member => isWordChar_of_mem_sanitize member

/-- A name that starts with a capital is only sanitized. -/
theorem upperCamel_eq (starts : StartsCapital name.toList) :
    upperCamel name = Identifier.sanitize name := by
  obtain ⟨capital, rest, shape, _, settled⟩ := starts.sanitize
  apply String.toList_injective
  rw [upperCamel, toList_upperFirst, shape, upperHead, settled, List.singleton_append]

end StartsCapital

/-- A name in camel case starts with a capital, unless nothing is left of it. -/
theorem startsCapital_upperCamel {raw : String} (filled : (upperCamel raw).toList ≠ []) :
    StartsCapital (upperCamel raw).toList := by
  rw [upperCamel, toList_upperFirst] at filled ⊢
  cases shape : (sanitize raw).toList with
  | nil =>
      rw [shape] at filled
      exact absurd rfl filled
  | cons c rest =>
      have word : isWordChar c = true := by
        have member : c ∈ (sanitize raw).toList := shape ▸ List.mem_cons_self
        exact isWordChar_of_mem_sanitize member
      obtain ⟨capital, others, upper, isCapital⟩ := exists_cons_of_isWordChar word
      rw [upperHead, upper]
      exact ⟨capital, others ++ rest, rfl, isCapital⟩

/-! ## Roots -/

/-- Whether a text is a word in whatever letter case. -/
def IsSpelling (word text : List Char) : Prop :=
  text.map Char.toLower = word.map Char.toLower

/-- Whether a text is what stands in front of a suffix at the end of a name, or the whole name if it
does not end in the suffix. -/
inductive IsRoot (suffix : String) : (name root : String) → Prop where
  | cut (root : String) {ending : String} (spelled : IsSpelling suffix.toList ending.toList) :
      IsRoot suffix (root ++ ending) root
  | whole {name : String}
      (other : ∀ ending, ending <:+ name.toList → ¬IsSpelling suffix.toList ending) :
      IsRoot suffix name name

theorem exists_isRoot (suffix name : String) : ∃ root, IsRoot suffix name root := by
  by_cases ends : ∃ ending, ending <:+ name.toList ∧ IsSpelling suffix.toList ending
  · obtain ⟨ending, ⟨root, split⟩, spelled⟩ := ends
    have shape : name = String.ofList root ++ String.ofList ending := by
      apply String.toList_injective
      simp [split]
    rw [shape]
    exact ⟨_, .cut _ (by simpa using spelled)⟩
  · push Not at ends
    exact ⟨name, .whole ends⟩

theorem IsRoot.exists_append {suffix name root : String} (isRoot : IsRoot suffix name root) :
    ∃ ending, name = root ++ ending := by
  cases isRoot with
  | cut _ _ => exact ⟨_, rfl⟩
  | whole _ => exact ⟨"", (String.append_empty ..).symm⟩

/-- What is left of a name in camel case starts with a capital. -/
theorem IsRoot.startsCapital {suffix raw root : String}
    (isRoot : IsRoot suffix (upperCamel raw) root) (filled : root ≠ "") :
    StartsCapital root.toList := by
  obtain ⟨ending, shape⟩ := isRoot.exists_append
  have filledRoot : root.toList ≠ [] := by simpa using filled
  have starts : StartsCapital (upperCamel raw).toList := by
    apply startsCapital_upperCamel
    rw [shape, String.toList_append]
    exact List.append_ne_nil_of_left_ne_nil filledRoot _
  rw [shape, String.toList_append] at starts
  exact starts.of_append filledRoot

/-! ## Suffixes -/

/-- Whether a suffix is a word of basic Latin letters without k. -/
structure IsPlainSuffix (suffix : String) : Prop where
  filled : suffix.toList ≠ []
  letters : ∀ c ∈ suffix.toList, isPlainLetter c = true

/-- Both sorts of types have such suffixes. -/
theorem isPlainSuffix_of_mem {suffix : String} (sort : suffix ∈ ["Service", "Characteristic"]) :
    IsPlainSuffix suffix := by
  have every : (["Service", "Characteristic"].all fun suffix =>
      !suffix.toList.isEmpty && suffix.toList.all isPlainLetter) = true := by decide
  have checked := List.all_eq_true.mp every suffix sort
  rw [Bool.and_eq_true, Bool.not_eq_true', List.isEmpty_eq_false_iff, List.all_eq_true] at checked
  exact ⟨checked.1, checked.2⟩

section

variable {suffix : String} (isPlain : IsPlainSuffix suffix)
include isPlain

theorem endsIgnoringCase_iff (name : String) :
    endsIgnoringCase name suffix = true ↔
      ∃ ending, ending <:+ name.toList ∧ IsSpelling suffix.toList ending :=
  isSuffixOf_lower_iff isPlain.letters

/-- Cutting a suffix off by its length leaves the root. -/
theorem cut_eq_root {name root : String} (isRoot : IsRoot suffix name root) :
    (if endsIgnoringCase name suffix then dropLastExactly suffix.toList.length name else name) =
      root := by
  cases isRoot with
  | @cut root ending spelled =>
      have ends : endsIgnoringCase (root ++ ending) suffix = true := by
        rw [endsIgnoringCase_iff isPlain, String.toList_append]
        exact ⟨_, List.suffix_append _ _, spelled⟩
      have sameLength := congrArg List.length spelled
      rw [List.length_map, List.length_map] at sameLength
      have counted : suffix.toList.length ≠ 0 := by
        rw [ne_eq, List.length_eq_zero_iff]
        exact isPlain.filled
      rw [if_pos ends, dropLastExactly, if_neg counted, String.toList_append, List.length_append,
        sameLength, Nat.add_sub_cancel, List.take_left, String.ofList_toList]
  | whole other =>
      have unsuffixed : ¬endsIgnoringCase name suffix = true := by
        rw [endsIgnoringCase_iff isPlain]
        rintro ⟨ending, isSuffix, spelled⟩
        exact other ending isSuffix spelled
      rw [if_neg unsuffixed]

theorem typeName_of_isRoot {raw root : String} (isRoot : IsRoot suffix (upperCamel raw) root) :
    typeName raw suffix = if root = "" then "" else upperCamel root ++ suffix := by
  simp only [typeName, cut_eq_root isPlain isRoot, String.isEmpty_iff]

/-- A sanitized name that starts with a capital, and the suffix behind it, is its own type name. -/
theorem typeName_append {base : String} (starts : StartsCapital base.toList)
    (sanitized : sanitize base = base) : typeName (base ++ suffix) suffix = base ++ suffix := by
  have word : ∀ c ∈ suffix.toList, isWordChar c = true :=
    fun c member => isWordChar_of_isPlainLetter (isPlain.letters c member)
  have whole : upperCamel (base ++ suffix) = base ++ suffix := by
    have startsWhole : StartsCapital (base ++ suffix).toList := by
      rw [String.toList_append]
      exact starts.append _
    rw [startsWhole.upperCamel_eq]
    apply String.toList_injective
    have kept := congrArg String.toList sanitized
    rw [toList_sanitize] at kept ⊢
    rw [String.toList_append, List.filter_append, kept, List.filter_eq_self.mpr word]
  have isRoot : IsRoot suffix (upperCamel (base ++ suffix)) base := by
    rw [whole]
    exact .cut base rfl
  rw [typeName_of_isRoot isPlain isRoot, if_neg starts.ne_empty, starts.upperCamel_eq, sanitized]

end

/-- Let the suffix be cut off the camel-case name, in whatever letter case the name ends in it.  If
nothing is left, there is no type name.  Otherwise the type name is what is left, sanitized, and the
suffix behind it as it is written; what stands in front of the suffix is not empty and made up of
letters, numbers and underscores.  Taken again, the type name stays the same. -/
theorem typeName_stable {suffix : String} (sort : suffix ∈ ["Service", "Characteristic"])
    (raw : String) :
    (∃ root, IsRoot suffix (upperCamel raw) root ∧
      (root = "" ∧ typeName raw suffix = "" ∨
        IsWord (sanitize root).toList ∧ typeName raw suffix = sanitize root ++ suffix)) ∧
    typeName (typeName raw suffix) suffix = typeName raw suffix := by
  have isPlain := isPlainSuffix_of_mem sort
  obtain ⟨root, isRoot⟩ := exists_isRoot suffix (upperCamel raw)
  have name := typeName_of_isRoot isPlain isRoot
  by_cases filled : root = ""
  · subst filled
    have unnamed : typeName raw suffix = "" := name.trans (if_pos rfl)
    refine ⟨⟨"", isRoot, Or.inl ⟨rfl, unnamed⟩⟩, ?_⟩
    rw [unnamed, typeName_empty]
  · have starts := isRoot.startsCapital filled
    have named : typeName raw suffix = sanitize root ++ suffix := by
      rw [name, if_neg filled, starts.upperCamel_eq]
    refine ⟨⟨root, isRoot, Or.inr ⟨starts.isWord_sanitize, named⟩⟩, ?_⟩
    rw [named]
    exact typeName_append isPlain starts.sanitize (sanitize_sanitize root)

/-- A marked letter whose upper-case form is two characters, of which the mark is dropped, and a
suffix in another letter case. -/
theorem typeName_markedLetter :
    "Service" ∈ ["Service", "Characteristic"] ∧
      typeName "\u01f0et-sERVICE" "Service" = "JetService" ∧
      typeName "JetService" "Service" = "JetService" ∧
      ∃ root, IsRoot "Service" "J\u030cetsERVICE" root ∧
        IsWord (sanitize root).toList ∧ "JetService" = sanitize root ++ "Service" := by
  have sort : "Service" ∈ ["Service", "Characteristic"] := by decide
  have camel : upperCamel "\u01f0et-sERVICE" = "J\u030cetsERVICE" := by decide +kernel
  have name : typeName "\u01f0et-sERVICE" "Service" = "JetService" := by decide +kernel
  obtain ⟨⟨root, isRoot, form⟩, again⟩ := typeName_stable sort "\u01f0et-sERVICE"
  rw [name] at again form
  rw [camel] at isRoot
  refine ⟨sort, name, again, root, isRoot, ?_⟩
  rcases form with ⟨_, unnamed⟩ | named
  · exact absurd unnamed (by decide)
  · exact named

-- A dotted capital I is lower-cased to an i and a dot, so a name that holds one there is not cut.
example : typeName "serv\u0130ce" "Service" = "Serv\u0130ceService" := by
  decide +kernel

end HomeCatalog.Identifier
