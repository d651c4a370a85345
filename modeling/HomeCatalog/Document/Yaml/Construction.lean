import HomeCatalog.Document.Graph
import HomeCatalog.Document.Yaml.Node
import HomeCatalog.Document.Yaml.Scalar

/-!
# Objects of a YAML document

Every node stands for one object, however often it is met.  Scalars get their objects where they
are met.  Collections get theirs in rounds: those that are met in one round are filled in the next,
in the order in which they were met.  Merging changes nodes: a mapping loses its signs of a merge
when it is filled or merged into another one, takes over the entries of the mappings that are
merged into it in front of its own, and its keys that mark a default value become texts.
-/

namespace HomeCatalog.Document.Yaml

/-- The longest chain of nodes that refer to each other, by merges or as default values. -/
def longestChain : Nat := 980

/-- How far the objects of a document are known. -/
structure Construction where
  nodes : Array Node
  /-- The objects of the nodes that were met. -/
  objects : Array (Option Object)
  /-- The collections that were met in this round, latest first. -/
  pending : List Nat

/-- A step of a construction. -/
abbrev Construct (α : Type) := StateT Construction (Except Flaw) α

namespace Construct

def refuse {α : Type} : Construct α :=
  throw .malformed

def nodeAt (number : Nat) : Construct Node := do
  match (← get).nodes[number]? with
  | some node => return node
  | none => refuse

/-- The entries of a node that is a mapping. -/
def entriesAt (number : Nat) : Construct (List (Nat × Nat)) := do
  match (← nodeAt number).content with
  | .mapping entries => return entries
  | _ => refuse

def setEntries (number : Nat) (entries : List (Nat × Nat)) : Construct Unit :=
  modify fun state =>
    { state with nodes := state.nodes.modify number fun node =>
        { node with content := .mapping entries } }

def setObject (number : Nat) (object : Object) : Construct Unit :=
  modify fun state => { state with objects := state.objects.setIfInBounds number (some object) }

/-- Whether a key has a given type. -/
def isTagged (tag : Tag) (key : Nat) : Construct Bool := do
  return (← nodeAt key).tag == tag

/-- Make a text of a key that marks a default value. -/
def asText (key : Nat) : Construct Unit :=
  modify fun state =>
    { state with nodes := state.nodes.modify key fun node =>
        if node.tag = .default then { node with tag := .text } else node }

/-- The first entry of a mapping whose key has a given type, and the other entries. -/
def splitTagged (tag : Tag) : List (Nat × Nat) →
    Construct (Option (Nat × Nat) × List (Nat × Nat))
  | [] => return (none, [])
  | entry :: rest => do
      if ← isTagged tag entry.1 then return (some entry, rest)
      else
        let (found, others) ← splitTagged tag rest
        return (found, entry :: others)

/-- Take over the entries of merged mappings until no sign of a merge is left, given the entries
that were taken over before and the greatest number of signs. -/
def takeMerged (merge : Nat → Construct (List (Nat × Nat))) (number : Nat) :
    (signs : Nat) → (merged : List (Nat × Nat)) → Construct (List (Nat × Nat))
  | 0, merged => return merged
  | signs + 1, merged => do
      let (sign?, others) ← splitTagged .merge (← entriesAt number)
      match sign? with
      | none => return merged
      | some (_, value) =>
          setEntries number others
          takeMerged merge number signs (merged ++ (← merge value))

/-- Merge into a mapping what is to be merged into it. -/
def flatten : (chain : Nat) → (number : Nat) → Construct Unit
  | 0, _ => throw (.breakdown .tooDeep)
  | chain + 1, number => do
      let entriesOf := fun (other : Nat) => do
        let _ ← entriesAt other
        flatten chain other
        entriesAt other
      let merge := fun (value : Nat) => do
        match (← nodeAt value).content with
        | .mapping _ => entriesOf value
        | .sequence items => return (← items.mapM entriesOf).reverse.flatten
        | .scalar _ => refuse
      let merged ← takeMerged merge number (← entriesAt number).length []
      let own ← entriesAt number
      own.forM fun (key, _) => asText key
      setEntries number (merged ++ own)

/-- The text of a node: of a scalar its own, and of a mapping that of its default value. -/
def textOf : (chain : Nat) → (number : Nat) → Construct Text.Wide
  | 0, _ => throw (.breakdown .tooDeep)
  | chain + 1, number => do
      match (← nodeAt number).content with
      | .scalar text => return text
      | .sequence _ => refuse
      | .mapping entries =>
          match (← splitTagged .default entries).1 with
          | some (_, value) => textOf chain value
          | none => refuse

/-- The scalar of a node with a type of scalars.  A default value cannot be a moment. -/
def scalarOf (node : Node) (number : Nat) : Construct Scalar := do
  let text ← textOf longestChain number
  match node.tag, node.content with
  | .timestamp, .mapping _ => throw (.breakdown .mappingAsDate)
  | tag, _ => tag.scalar number text

/-- Meet a node: make its object, which for a collection is empty at first. -/
def meet (number : Nat) : Construct Unit := do
  if (((← get).objects[number]?).join).isSome then return
  let node ← nodeAt number
  let put := fun (object : Object) => do
    setObject number object
    modify fun state => { state with pending := number :: state.pending }
  match node.tag with
  | .sequence => put (.list [])
  | .pairs => put (.pairs [])
  | .set => put (.set [])
  | .mapping => put (.mapping [])
  | .merge | .default | .unknown => refuse
  | _ => setObject number (.scalar (← scalarOf node number))

/-- Meet a node that must be a proper key. -/
def meetKey (number : Nat) : Construct Unit := do
  meet number
  match ((← get).objects[number]?).join with
  | some (.scalar _) => return
  | _ => refuse

/-- Meet the parts of a mapping, after merging. -/
def meetEntries (number : Nat) : Construct (List (Nat × Nat)) := do
  let _ ← entriesAt number
  flatten longestChain number
  let entries ← entriesAt number
  entries.forM fun (key, value) => do
    meetKey key
    meet value
  return entries

/-- Meet the parts of the only entry of a mapping. -/
def meetPair (number : Nat) : Construct (Nat × Nat) := do
  match ← entriesAt number with
  | [(key, value)] =>
      meet key
      meet value
      return (key, value)
  | _ => refuse

/-- The items of a node that is a sequence. -/
def itemsAt (number : Nat) : Construct (List Nat) := do
  match (← nodeAt number).content with
  | .sequence items => return items
  | _ => refuse

/-- Fill the object of a collection that was met. -/
def fill (number : Nat) : Construct Unit := do
  match (← nodeAt number).tag with
  | .sequence =>
      let items ← itemsAt number
      items.forM meet
      setObject number (.list items)
  | .pairs => setObject number (.pairs (← (← itemsAt number).mapM meetPair))
  | .set => setObject number (.set ((← meetEntries number).map Prod.fst))
  | _ => setObject number (.mapping (← meetEntries number))

/-- Fill all collections, in rounds.  Every round but the last fills a node that was not filled
before, so there are no more rounds than nodes. -/
def fillAll : (rounds : Nat) → Construct Unit
  | 0 => return
  | rounds + 1 => do
      let pending := (← get).pending
      if pending.isEmpty then return
      modify fun state => { state with pending := [] }
      pending.reverse.forM fill
      fillAll rounds

end Construct

/-- The graph of objects of a document with a given root. -/
def graphOf (nodes : Array Node) (root : Nat) : Except Flaw Graph := do
  let steps : Construct Unit := do
    Construct.meet root
    Construct.fillAll (nodes.size + 1)
  let (_, state) ← steps.run ⟨nodes, Array.replicate nodes.size none, []⟩
  return ⟨state.objects, root⟩

end HomeCatalog.Document.Yaml
