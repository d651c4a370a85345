import HomeCatalog.Identifier.Basic

/-!
# Allocation of unique identifiers

Every emitted identifier is drawn from an allocator, one for each namespace of the generated
sources.  A request names a primary and a fallback raw name.  The candidate is the normalized
primary, the normalized fallback when that is empty, and otherwise the normalized role word or
an underscore.  A reserved candidate gets the role word appended, one that starts with a digit
gets an underscore in front, and one that was handed out before gets the least free number
from two on.
-/

namespace HomeCatalog.Identifier

/-- The rules of one namespace. -/
structure Namespace where
  /-- Names that must not be emitted as they are. -/
  reserved : List String
  /-- The word appended to a reserved candidate. -/
  roleWord : String
  /-- Brings a raw name into the casing of the namespace. -/
  normalize : String → String

/-- A namespace together with the names handed out so far, latest first. -/
structure Allocator where
  rules : Namespace
  used : List String

namespace Namespace

/-- A namespace without reserved names. -/
def ofNormalize (normalize : String → String) : Namespace :=
  ⟨[], "", normalize⟩

/-- The normalized name that a request stands for. -/
def baseName (rules : Namespace) (primary fallback : String) : String :=
  if !(rules.normalize primary).isEmpty then rules.normalize primary
  else if !(rules.normalize fallback).isEmpty then rules.normalize fallback
  else if !(rules.normalize rules.roleWord).isEmpty then rules.normalize rules.roleWord
  else "_"

/-- Move a name out of the reserved set. -/
def avoidReserved (rules : Namespace) (name : String) : String :=
  if rules.reserved.contains name then name ++ rules.roleWord else name

end Namespace

/-- Put an underscore in front of a leading digit. -/
def guardDigit (name : String) : String :=
  match name.toList with
  | [] => name
  | c :: _ => if Text.isDigit c then "_" ++ name else name

/-- The name that a request gets when it is free. -/
def Namespace.candidate (rules : Namespace) (primary fallback : String) : String :=
  guardDigit (rules.avoidReserved (rules.baseName primary fallback))

/-- A candidate with a number behind it. -/
def numbered (candidate : String) (index : Nat) : String :=
  candidate ++ toString index

/-- The first numbered form of `candidate` that is free, from `index` on.  Among `attempts + 1`
numbered forms one is free whenever `used` holds at most `attempts` names. -/
def firstFree (used : List String) (candidate : String) : (attempts index : Nat) → String
  | 0, index => numbered candidate index
  | attempts + 1, index =>
      if used.contains (numbered candidate index) then
        firstFree used candidate attempts (index + 1)
      else numbered candidate index

/-- The candidate itself if it is free, else its first free numbered form from two on. -/
def fresh (used : List String) (candidate : String) : String :=
  if used.contains candidate then firstFree used candidate used.length 2 else candidate

namespace Allocator

/-- An allocator that has handed out nothing. -/
def new (rules : Namespace) : Allocator :=
  ⟨rules, []⟩

/-- Hand out a name for a request. -/
def allocate (allocator : Allocator) (primary : String) (fallback : String) :
    String × Allocator :=
  let name := fresh allocator.used (allocator.rules.candidate primary fallback)
  (name, { allocator with used := name :: allocator.used })

/-- Whether a name was handed out. -/
def contains (allocator : Allocator) (name : String) : Bool :=
  allocator.used.contains name

/-- Hand out one name for each `(primary, fallback)` request, in order. -/
def allocateAll (allocator : Allocator) : List (String × String) → List String × Allocator
  | [] => ([], allocator)
  | (primary, fallback) :: rest =>
      let (name, next) := allocator.allocate primary fallback
      let (names, final) := next.allocateAll rest
      (name :: names, final)

end Allocator

end HomeCatalog.Identifier
