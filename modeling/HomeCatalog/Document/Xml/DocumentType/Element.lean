import HomeCatalog.Document.Xml.DocumentType.Token

/-!
# Declarations of elements

An element is declared to be empty, to have any content, to mix character data with elements, or
to have elements in nested groups.  The members of a group are separated by commas only or by bars
only.
-/

namespace HomeCatalog.Document.Xml

/-- One step through the elements that character data may be mixed with. -/
def mixedStep (hasElements : Bool) (cs : List Char) : Option ((Bool ⊕ Unit) × List Char) := do
  match ← Token.next? cs with
  | (.closeParenthesis none, after) => if hasElements then none else some (.inr (), after)
  | (.closeParenthesis (some '*'), after) => some (.inr (), after)
  | (.bar, after) =>
      let (_, after) ← Token.expectName? after
      some (.inl true, after)
  | _ => none

/-- How far nested groups have been read. -/
structure Grouping where
  /-- The separators of the open groups, innermost first, as far as they are known. -/
  separators : List (Option Token)
  /-- Whether a member must come next. -/
  isOpen : Bool
  deriving Repr, DecidableEq

/-- Go on behind a separator of the innermost group. -/
def Grouping.separate (grouping : Grouping) (separator : Token) : Option Grouping :=
  match grouping.separators with
  | [] => none
  | known :: outer =>
      if known.all (· = separator) then some ⟨some separator :: outer, true⟩ else none

/-- One step through nested groups. -/
def groupStep (grouping : Grouping) (cs : List Char) :
    Option ((Grouping ⊕ Unit) × List Char) := do
  let (token, after) ← Token.next? cs
  if grouping.isOpen then
    match token with
    | .openParenthesis => some (.inl ⟨none :: grouping.separators, true⟩, after)
    | .name _ | .countedName => some (.inl { grouping with isOpen := false }, after)
    | _ => none
  else
    match token with
    | .closeParenthesis _ =>
        let outer := grouping.separators.drop 1
        some (if outer.isEmpty then .inr () else .inl ⟨outer, false⟩, after)
    | .comma | .bar => (grouping.separate token).map fun next => (.inl next, after)
    | _ => none

/-- The text after the declared content of an element. -/
def afterContent? (cs : List Char) : Option (List Char) := do
  match ← Token.next? cs with
  | (.name written, after) =>
      if ["EMPTY", "ANY"].contains (String.ofList written) then some after else none
  | (.openParenthesis, after) =>
      match ← Token.next? after with
      | (.hashName written, inner) =>
          if String.ofList written = "PCDATA" then
            (Text.scan mixedStep false inner).map (·.2)
          else none
      | _ => (Text.scan groupStep ⟨[none], true⟩ after).map (·.2)
  | _ => none

/-- The text after the declaration of an element, given what follows its keyword. -/
def afterElement? (cs : List Char) : Option (List Char) := do
  let (_, after) ← Token.expectName? cs
  Token.expect? .close (← afterContent? after)

end HomeCatalog.Document.Xml
