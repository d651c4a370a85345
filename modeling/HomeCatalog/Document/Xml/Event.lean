import HomeCatalog.Document.Xml.DocumentType
import HomeCatalog.Document.Xml.Encoding

/-!
# The events of an XML document

A well-formed document is the sequence of the starts and ends of its elements and of the
character data between them.  Attributes, comments and instructions must be well-formed and
have no events.  A document that is not well-formed has the events in front of its first fault.

A reference to an unknown entity is a fault, unless the document names an outer subset in which
the entity might be declared; then it stands for nothing.
-/

namespace HomeCatalog.Document.Xml

/-- What a document consists of. -/
inductive Event where
  | start (name : String)
  | finish (name : String)
  | data (text : List Char)
  deriving Repr, DecidableEq

/-- Line ends as they are reported: a carriage return, with or without a line feed, is one. -/
def lineEnds : List Char → List Char
  | [] => []
  | '\r' :: '\n' :: rest => '\n' :: lineEnds rest
  | '\r' :: rest => '\n' :: lineEnds rest
  | c :: rest => c :: lineEnds rest

/-- One step through the attributes of a tag.  The result says whether the tag is empty. -/
def attributeStep (mayBeUnknown : Bool) (seen : List (List Char)) (cs : List Char) :
    Option ((List (List Char) ⊕ Bool) × List Char) :=
  match skipXmlBlanks cs with
  | '>' :: rest => some (.inr false, rest)
  | '/' :: '>' :: rest => some (.inr true, rest)
  | _ => do
      let (name, afterName) ← name? (← xmlBlanks? cs)
      let afterSign ← List.isPrefixOf? ['='] (skipXmlBlanks afterName)
      let (value, after) ← quoted? (skipXmlBlanks afterSign)
      if !isAttributeValue mayBeUnknown value || seen.contains name then none
      some (.inl (name :: seen), after)

/-- Read a start tag after its bracket: the name, whether it is empty, and what follows. -/
def startTag? (mayBeUnknown : Bool) (cs : List Char) : Option (List Char × Bool × List Char) := do
  let (name, afterName) ← name? cs
  let (isEmpty, after) ← Text.scan (attributeStep mayBeUnknown) [] afterName
  some (name, isEmpty, after)

/-- How far a document has been read. -/
structure Progress where
  /-- The names of the open elements, innermost first. -/
  openElements : List String
  hasRoot : Bool
  hasType : Bool
  /-- Whether unknown entities might be declared outside. -/
  mayHideEntities : Bool
  /-- The events so far, latest first. -/
  events : List Event
  deriving Repr, DecidableEq

namespace Progress

/-- Nothing is read yet. -/
def start : Progress := ⟨[], false, false, false, []⟩

def record (progress : Progress) (event : Event) : Progress :=
  { progress with events := event :: progress.events }

def recordData (progress : Progress) (text : List Char) : Progress :=
  if text.isEmpty then progress else progress.record (.data text)

/-- Record the start of an element, and its end if it is empty. -/
def recordStart (progress : Progress) (name : String) (isEmpty : Bool) : Progress :=
  let started := { progress.record (.start name) with hasRoot := true }
  if isEmpty then started.record (.finish name)
  else { started with openElements := name :: started.openElements }

/-- Whether the document may end. -/
def isComplete (progress : Progress) : Bool :=
  progress.hasRoot && progress.openElements.isEmpty

end Progress

/-- One step inside the root element. -/
def contentStep (progress : Progress) (cs : List Char) : Option (Progress × List Char) :=
  match cs with
  | '<' :: '!' :: '-' :: '-' :: rest => (afterComment? rest).map fun after => (progress, after)
  | '<' :: '!' :: rest => do
      let body ← List.isPrefixOf? "[CDATA[".toList rest
      let (text, after) ← Text.cutWord [']', ']', '>'] body
      some (progress.recordData (lineEnds text), after)
  | '<' :: '?' :: rest => (afterInstruction? rest).map fun after => (progress, after)
  | '<' :: '/' :: rest => do
      let (name, afterName) ← name? rest
      let after ← List.isPrefixOf? ['>'] (skipXmlBlanks afterName)
      match progress.openElements with
      | [] => none
      | opened :: outer =>
          if opened = String.ofList name then
            some ({ progress.record (.finish opened) with openElements := outer }, after)
          else none
  | '<' :: rest => do
      let (name, isEmpty, after) ← startTag? progress.mayHideEntities rest
      some (progress.recordStart (String.ofList name) isEmpty, after)
  | _ => do
      let text := cs.takeWhile fun c => c != '<'
      if Text.contains [']', ']', '>'] text then none
      let expanded ← expand? progress.mayHideEntities (lineEnds text)
      some (progress.recordData expanded, cs.dropWhile fun c => c != '<')

/-- One step outside the root element. -/
def outerStep (standsAlone : Bool) (progress : Progress) (cs : List Char) :
    Option (Progress × List Char) :=
  match cs with
  | '<' :: '!' :: '-' :: '-' :: rest => (afterComment? rest).map fun after => (progress, after)
  | '<' :: '!' :: rest => do
      if progress.hasRoot || progress.hasType then none
      let body ← List.isPrefixOf? "DOCTYPE".toList rest
      let (mayHideEntities, after) ← documentType? standsAlone body
      some ({ progress with hasType := true, mayHideEntities }, after)
  | '<' :: '?' :: rest => (afterInstruction? rest).map fun after => (progress, after)
  | '<' :: rest => do
      if progress.hasRoot then none
      let (name, isEmpty, after) ← startTag? progress.mayHideEntities rest
      some (progress.recordStart (String.ofList name) isEmpty, after)
  | c :: rest => if isXmlBlank c then some (progress, rest) else none
  | [] => none

/-- The events of a document. -/
structure Events where
  /-- The events in front of the first fault. -/
  events : List Event
  /-- Whether there is no fault. -/
  isWhole : Bool
  deriving Repr, DecidableEq

/-- One step through a document.  At a fault it ends. -/
def documentStep (standsAlone : Bool) (progress : Progress) (cs : List Char) :
    Option ((Progress ⊕ Events) × List Char) :=
  if cs.isEmpty then some (.inr ⟨progress.events.reverse, progress.isComplete⟩, [])
  else
    let next? :=
      if progress.openElements.isEmpty then outerStep standsAlone progress cs
      else contentStep progress cs
    match next? with
    | some (next, rest) => some (.inl next, rest)
    | none => some (.inr ⟨progress.events.reverse, false⟩, [])

def Events.ofFile (bytes : List UInt8) : Except Flaw Events := do
  let source ← Source.ofFile bytes
  match Text.scan (documentStep source.declaration.standsAlone) Progress.start source.body with
  | some (events, _) => return { events with isWhole := events.isWhole && source.isWhole }
  | none => .error .malformed

end HomeCatalog.Document.Xml
