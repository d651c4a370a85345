import HomeCatalog.Text.Basic

/-!
# Casing of generated identifiers

Names in generated sources are made from display names.  Every form first drops the
characters that no identifier may hold, and then fixes the case: only of the first character
for camel case, of the whole name for screaming snake case.  Only the first character is
touched in camel case, so an acronym inside a name keeps its letters.
-/

namespace HomeCatalog.Identifier

/-- Keep only letters, digits and underscores. -/
def sanitize (raw : String) : String :=
  String.ofList (raw.toList.filter Text.isWordChar)

/-- Lower-case the first character and keep the rest. -/
def lowerFirst (name : String) : String :=
  String.ofList (Text.lowerHead name.toList)

/-- Upper-case the first character and keep the rest. -/
def upperFirst (name : String) : String :=
  String.ofList (Text.upperHead name.toList)

/-- The lower camel-case identifier of a name. -/
def lowerCamel (raw : String) : String :=
  lowerFirst (sanitize raw)

/-- The upper camel-case identifier of a name. -/
def upperCamel (raw : String) : String :=
  upperFirst (sanitize raw)

/-- Upper-case a camel-case text, with an underscore before each upper-case letter that does
not follow another one.  `afterUpper` says whether the character before was an upper-case
letter; it also holds at the start of the name, which gets no underscore. -/
def snakeFrom : (afterUpper : Bool) → List Char → List Char
  | _, [] => []
  | afterUpper, c :: rest =>
      if Text.isUppercase c then
        (if afterUpper then [] else ['_']) ++ c :: snakeFrom true rest
      else
        Text.upperChar c ++ snakeFrom false rest

/-- The screaming snake-case identifier of a camel-case name.  Acronyms stay together. -/
def screamingSnake (raw : String) : String :=
  sanitize (String.ofList (snakeFrom true raw.toList))

/-- Remove the last `count` characters.  Nothing is left when `count` is zero. -/
def dropLastExactly (count : Nat) (name : String) : String :=
  String.ofList (if count = 0 then [] else name.toList.take (name.toList.length - count))

/-- Whether a name ends in `suffix` when letter case is ignored. -/
def endsIgnoringCase (name suffix : String) : Bool :=
  (Text.lower suffix.toList).isSuffixOf (Text.lower name.toList)

/-- The upper camel-case type name that ends in `suffix` once.  A name that consists of the
suffix alone has no type name. -/
def typeName (raw suffix : String) : String :=
  let camel := upperCamel raw
  let base :=
    if endsIgnoringCase camel suffix then dropLastExactly suffix.toList.length camel else camel
  if base.isEmpty then "" else upperCamel base ++ suffix

/-- The text of a generated comment: the documentation if there is any, else `default`, on one
line. -/
def commentText (documentation : Option String) (default : String) : String :=
  let text := match documentation with
    | some text => if text.isEmpty then default else text
    | none => default
  String.ofList (Text.replaceChar '\n' [' '] text.toList)

@[simp] theorem toList_sanitize (raw : String) :
    (sanitize raw).toList = raw.toList.filter Text.isWordChar := by
  simp [sanitize]

@[simp] theorem toList_lowerFirst (name : String) :
    (lowerFirst name).toList = Text.lowerHead name.toList := by
  simp [lowerFirst]

@[simp] theorem toList_upperFirst (name : String) :
    (upperFirst name).toList = Text.upperHead name.toList := by
  simp [upperFirst]

/-- Sanitizing is idempotent: a sanitized name holds only word characters. -/
@[simp] theorem sanitize_sanitize (raw : String) : sanitize (sanitize raw) = sanitize raw := by
  simp [sanitize]

/-- Of nothing no type is named. -/
theorem typeName_empty (suffix : String) : typeName "" suffix = "" := by
  have camel : upperCamel "" = "" := by decide
  have base : ∀ isTail : Bool,
      (if isTail then dropLastExactly suffix.toList.length "" else "").isEmpty = true := by
    intro isTail
    cases isTail with
    | false => rfl
    | true => simp [dropLastExactly]
  simp only [typeName, camel]
  rw [if_pos (base _)]

/-- A comment is a single line. -/
theorem feed_notMem_commentText (documentation : Option String) (default : String) :
    '\n' ∉ (commentText documentation default).toList := by
  simp only [commentText, String.toList_ofList, Text.replaceChar, List.mem_flatMap]
  rintro ⟨c, _, member⟩
  split at member
  · cases List.mem_singleton.mp member
  · next other => exact other (List.mem_singleton.mp member).symm

end HomeCatalog.Identifier
