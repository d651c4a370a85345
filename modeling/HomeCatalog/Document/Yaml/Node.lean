import HomeCatalog.Document.Yaml.Tag
import HomeCatalog.Document.Yaml.Token

/-!
# Nodes of a YAML text

The tokens of a text form one document at most, and the document is a graph of nodes.  Nodes are
numbered; collections name their parts by number, and an alias stands for the number of the node
that has its anchor, even while that node is still open.  Collections that lie too deep inside each
other cannot be read.
-/

namespace HomeCatalog.Document.Yaml

/-- What a node holds. -/
inductive Content where
  | scalar (text : Text.Wide)
  | sequence (items : List Nat)
  | mapping (entries : List (Nat × Nat))
  deriving Repr, DecidableEq

/-- A node with its type. -/
structure Node where
  tag : Tag
  content : Content
  deriving Repr, DecidableEq

/-- The text of a missing value. -/
def emptyText : Text.Wide := .ofString ""

/-- The handles that every document knows. -/
def commonHandles : List (String × String) :=
  [("!", "!"), ("!!", "tag:yaml.org,2002:")]

/-- The greatest number of collections inside each other that can be read. -/
def deepestNode : Nat := 489

/-- How far a document has been read. -/
structure Draft where
  /-- The tokens still to be read. -/
  tokens : List Token
  /-- The flaw that is met behind the tokens. -/
  flaw : Option Flaw
  nodes : Array Node
  anchors : List (String × Nat)
  handles : List (String × String)
  deriving Repr

/-- A reading of some of the tokens. -/
abbrev Build (α : Type) := StateT Draft (Except Flaw) α

namespace Build

def refuse {α : Type} : Build α :=
  throw .malformed

def peek : Build (Option Token) := do
  let draft ← get
  match draft.tokens, draft.flaw with
  | [], some flaw => throw flaw
  | tokens, _ => return tokens.head?

/-- Pass over the next token. -/
def skip : Build Unit :=
  modify fun draft => { draft with tokens := draft.tokens.drop 1 }

def add (node : Node) : Build Nat := do
  let draft ← get
  set { draft with nodes := draft.nodes.push node }
  return draft.nodes.size

def setContent (number : Nat) (content : Content) : Build Unit :=
  modify fun draft =>
    { draft with nodes := draft.nodes.modify number fun node => { node with content } }

/-- Add the node of a missing value. -/
def addEmpty : Build Nat :=
  add ⟨.ofForm emptyText, .scalar emptyText⟩

/-- What may stand in front of a node's content. -/
structure Properties where
  anchor : Option String
  tag : Option TagName
  deriving Repr, DecidableEq

/-- Read the anchor and tag of a node, in any order. -/
def properties : Build Properties := do
  match ← peek with
  | some (.anchor anchor) =>
      skip
      match ← peek with
      | some (.tag tag) =>
          skip
          return ⟨some anchor, some tag⟩
      | _ => return ⟨some anchor, none⟩
  | some (.tag tag) =>
      skip
      match ← peek with
      | some (.anchor anchor) =>
          skip
          return ⟨some anchor, some tag⟩
      | _ => return ⟨none, some tag⟩
  | _ => return ⟨none, none⟩

/-- A tag in full.  The handle must be known. -/
def resolveTag (tag? : Option TagName) : Build (Option String) := do
  match tag? with
  | none => return none
  | some tag =>
      match tag.handle with
      | none => return some tag.suffix
      | some handle =>
          match (← get).handles.lookup handle with
          | some start => return some (start ++ tag.suffix)
          | none => refuse

/-- Bind an anchor to a node.  An anchor is bound once. -/
def bindAnchor (anchor? : Option String) (number : Nat) : Build Unit := do
  match anchor? with
  | none => return
  | some anchor =>
      if ((← get).anchors.lookup anchor).isSome then refuse
      modify fun draft => { draft with anchors := (anchor, number) :: draft.anchors }

/-- The number of the node that has an anchor. -/
def aliased (anchor : String) : Build Nat := do
  match (← get).anchors.lookup anchor with
  | some number => return number
  | none => refuse

/-- Add a node that may have an anchor. -/
def start (anchor? : Option String) (node : Node) : Build Nat := do
  let number ← add node
  bindAnchor anchor? number
  return number

/-- Add a collection that may have an anchor, and then read its content. -/
def collect (anchor? : Option String) (tag : Tag) (content : Build Content) : Build Nat := do
  let number ← start anchor? ⟨tag, .sequence []⟩
  setContent number (← content)
  return number

end Build

/-- Where a node stands, which decides on the collections that may start there. -/
inductive Position where
  /-- Inside brackets: no collection without them. -/
  | flow
  | block
  /-- In an entry of a mapping: the dashes of a sequence need not be indented. -/
  | entry
  deriving Repr, DecidableEq

/-- The type of a node with a tag in writing, given its type without one. -/
def typeOf (written : Option String) (untagged : Tag) : Tag :=
  match written with
  | none | some "!" => untagged
  | some name => .ofName name

/-- The type of a scalar.  Its form decides if it is plain and has no tag, or if its tag is a
single exclamation mark. -/
def scalarType (written : Option String) (text : Text.Wide) (isPlain : Bool) : Tag :=
  typeOf written (if isPlain || written = some "!" then .ofForm text else .text)

open Build

mutual

/-- Read a node that lies in `depth` collections. -/
def node : (fuel depth : Nat) → Position → Build Nat
  | 0, _, _ => refuse
  | fuel + 1, depth, position => do
      if deepestNode < depth then throw (.breakdown .tooDeep)
      match ← peek with
      | some (.alias name) =>
          skip
          aliased name
      | _ =>
          let ⟨anchor, tagName⟩ ← properties
          let tag ← resolveTag tagName
          match ← peek, position with
          | some .blockEntry, .entry =>
              collect anchor (typeOf tag .sequence)
                (Content.sequence <$> entryItems fuel (depth + 1))
          | some (.scalar text isPlain), _ =>
              skip
              start anchor ⟨scalarType tag text isPlain, .scalar text⟩
          | some .flowSequenceStart, _ =>
              skip
              collect anchor (typeOf tag .sequence)
                (Content.sequence <$> flowItems fuel (depth + 1) true)
          | some .flowMappingStart, _ =>
              skip
              collect anchor (typeOf tag .mapping)
                (Content.mapping <$> flowEntries fuel (depth + 1) true)
          | some .blockSequenceStart, .block | some .blockSequenceStart, .entry =>
              skip
              collect anchor (typeOf tag .sequence)
                (Content.sequence <$> blockItems fuel (depth + 1))
          | some .blockMappingStart, .block | some .blockMappingStart, .entry =>
              skip
              collect anchor (typeOf tag .mapping)
                (Content.mapping <$> blockEntries fuel (depth + 1))
          | _, _ =>
              if anchor.isNone && tagName.isNone then refuse
              start anchor ⟨scalarType tag emptyText true, .scalar emptyText⟩

/-- Read the items of a sequence without brackets. -/
def blockItems : (fuel depth : Nat) → Build (List Nat)
  | 0, _ => refuse
  | fuel + 1, depth => do
      match ← peek with
      | some .blockEntry =>
          skip
          let item ← match ← peek with
            | some .blockEntry | some .blockEnd => addEmpty
            | _ => node fuel depth .block
          return item :: (← blockItems fuel depth)
      | some .blockEnd =>
          skip
          return []
      | _ => refuse

/-- Read the items of a sequence whose dashes are not indented. -/
def entryItems : (fuel depth : Nat) → Build (List Nat)
  | 0, _ => refuse
  | fuel + 1, depth => do
      match ← peek with
      | some .blockEntry =>
          skip
          let item ← match ← peek with
            | some .blockEntry | some .key | some .value | some .blockEnd => addEmpty
            | _ => node fuel depth .block
          return item :: (← entryItems fuel depth)
      | _ => return []

/-- Read the entries of a mapping without brackets. -/
def blockEntries : (fuel depth : Nat) → Build (List (Nat × Nat))
  | 0, _ => refuse
  | fuel + 1, depth => do
      match ← peek with
      | some .key =>
          skip
          let key ← blockPart fuel depth
          let value ← match ← peek with
            | some .value =>
                skip
                blockPart fuel depth
            | _ => addEmpty
          return (key, value) :: (← blockEntries fuel depth)
      | some .blockEnd =>
          skip
          return []
      | _ => refuse

/-- Read the key or value of an entry of a mapping without brackets. -/
def blockPart : (fuel depth : Nat) → Build Nat
  | 0, _ => refuse
  | fuel + 1, depth => do
      match ← peek with
      | some .key | some .value | some .blockEnd => addEmpty
      | _ => node fuel depth .entry

/-- Read the items of a sequence in brackets.  A pair of a key and a value is a mapping. -/
def flowItems : (fuel depth : Nat) → (isFirst : Bool) → Build (List Nat)
  | 0, _, _ => refuse
  | fuel + 1, depth, isFirst => do
      if (← peek) = some .flowSequenceEnd then
        skip
        return []
      if !isFirst then
        if (← peek) = some .flowEntry then skip else refuse
      match ← peek with
      | some .flowSequenceEnd =>
          skip
          return []
      | some .key =>
          skip
          let pair ← add ⟨.mapping, .mapping []⟩
          let key ← flowPart fuel (depth + 1)
          let value ← flowValue fuel (depth + 1)
          setContent pair (.mapping [(key, value)])
          return pair :: (← flowItems fuel depth false)
      | _ =>
          let item ← node fuel depth .flow
          return item :: (← flowItems fuel depth false)

/-- Read the entries of a mapping in brackets.  A key may stand alone. -/
def flowEntries : (fuel depth : Nat) → (isFirst : Bool) → Build (List (Nat × Nat))
  | 0, _, _ => refuse
  | fuel + 1, depth, isFirst => do
      if (← peek) = some .flowMappingEnd then
        skip
        return []
      if !isFirst then
        if (← peek) = some .flowEntry then skip else refuse
      match ← peek with
      | some .flowMappingEnd =>
          skip
          return []
      | some .key =>
          skip
          let key ← flowPart fuel depth
          let value ← flowValue fuel depth
          return (key, value) :: (← flowEntries fuel depth false)
      | _ =>
          let key ← node fuel depth .flow
          let value ← addEmpty
          return (key, value) :: (← flowEntries fuel depth false)

/-- Read the key or value of an entry in brackets. -/
def flowPart : (fuel depth : Nat) → Build Nat
  | 0, _ => refuse
  | fuel + 1, depth => do
      match ← peek with
      | some .value | some .flowEntry | some .flowSequenceEnd | some .flowMappingEnd => addEmpty
      | _ => node fuel depth .flow

/-- Read the value of an entry in brackets, which may be missing. -/
def flowValue : (fuel depth : Nat) → Build Nat
  | 0, _ => refuse
  | fuel + 1, depth => do
      match ← peek with
      | some .value =>
          skip
          match ← peek with
          | some .flowEntry | some .flowSequenceEnd | some .flowMappingEnd => addEmpty
          | _ => node fuel depth .flow
      | _ => addEmpty

end

/-- Enough fuel for all tokens: of two readings inside each other, one reads a token. -/
def enoughFuel : Build Nat := do
  return 4 * (← get).tokens.length + 4

/-- Read the directives in front of a document, given the handles declared so far. -/
def directives : (fuel : Nat) → (hasVersion : Bool) → (handles : List (String × String)) →
    Build (List (String × String))
  | 0, _, _ => refuse
  | fuel + 1, hasVersion, handles => do
      match ← peek with
      | some (.directive directive) =>
          skip
          match directive with
          | .version major =>
              if hasVersion || major != 1 then refuse
              directives fuel true handles
          | .handle name start =>
              if (handles.lookup name).isSome then refuse
              directives fuel hasVersion (handles ++ [(name, start)])
          | .reserved => directives fuel hasVersion handles
      | _ => return handles

/-- Read the directives of a document and its mark. -/
def documentStart : Build Unit := do
  let declared ← directives (← enoughFuel) false []
  modify fun draft => { draft with handles := declared ++ commonHandles }
  if (← peek) != some .documentStart then refuse
  skip

/-- Read a document that starts with its mark, perhaps after directives. -/
def markedDocument : Build Nat := do
  documentStart
  match ← peek with
  | none | some (.directive _) | some .documentStart | some .documentEnd => addEmpty
  | _ => node (← enoughFuel) 0 .block

/-- Pass over the marks at the end of a document.  No other document may follow. -/
def documentEnd : Build Unit := do
  modify fun draft => { draft with tokens := draft.tokens.dropWhile (· == .documentEnd) }
  if (← peek).isSome then
    documentStart
    refuse

/-- Read the only document of a text, if there is one. -/
def document : Build (Option Nat) := do
  let root ← match ← peek with
    | none => return none
    | some (.directive _) | some .documentStart => markedDocument
    | _ => node (← enoughFuel) 0 .block
  documentEnd
  return some root

/-- The nodes of a document, and the root if there is one. -/
structure NodeGraph where
  nodes : Array Node
  root : Option Nat
  deriving Repr

/-- The nodes of the document that tokens form. -/
def NodeGraph.ofTokens (tokens : Tokens) : Except Flaw NodeGraph :=
  (document.run ⟨tokens.tokens, tokens.flaw, #[], [], commonHandles⟩).map fun (root, draft) =>
    ⟨draft.nodes, root⟩

end HomeCatalog.Document.Yaml
