import HomeCatalog.Document.Value

/-!
# Graphs of objects

Some documents are written as a table of objects that name their parts by numbers, so one object
can be a part of several others, and even of itself.  The value of such a graph is its tree of
parts below the root.  The tree may be without end; it is unfolded deeper than any reader of the
library looks, and what lies below is left out.
-/

namespace HomeCatalog.Document

/-- An object that names its parts by numbers. -/
inductive Object where
  | scalar (value : Scalar)
  | list (items : List Nat)
  /-- A list of pairs. -/
  | pairs (items : List (Nat × Nat))
  | set (items : List Nat)
  | mapping (entries : List (Nat × Nat))
  deriving Inhabited

def Object.isKey : Object → Bool
  | scalar _ => true
  | _ => false

/-- A part among values that are known by their numbers. -/
def part (values : Array Value) (number : Nat) : Value :=
  values.getD number (.scalar .null)

/-- The value of an object whose parts have the given values. -/
def Object.value (values : Array Value) : Object → Value
  | .scalar value => .scalar value
  | .list items => .list (items.map (part values))
  | .pairs items =>
      .list (items.map fun (key, value) => .list [part values key, part values value])
  | .set items => .set (items.map (part values))
  | .mapping entries =>
      .mapping (putKeys (entries.filterMap fun (key, value) =>
        (part values key).scalar?.map fun scalar => (scalar, part values value)))

/-- A table of objects.  Places that the root does not reach may be without an object. -/
structure Graph where
  objects : Array (Option Object)
  root : Nat
  deriving Inhabited

namespace Graph

/-- The values of all objects, unfolded to a depth. -/
def unfold (graph : Graph) : (depth : Nat) → Array Value
  | 0 => #[]
  | depth + 1 =>
      let values := graph.unfold depth
      graph.objects.map fun object? =>
        (object?.map (Object.value values)).getD (.scalar .null)

/-- The depth of unfolding.  No reader of the library looks deeper than eight levels. -/
def depth : Nat := 12

def value (graph : Graph) : Value :=
  part (graph.unfold depth) graph.root

end Graph

end HomeCatalog.Document
