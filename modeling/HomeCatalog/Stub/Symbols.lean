import HomeCatalog.Catalog.Basic
import HomeCatalog.Diagnostic

/-!
# Exported symbols in a text-based stub

A stub lists the symbols of a library under `exports:` and `symbols:`, either as block entries

    - _HMServiceTypeLightbulb
    - [ 'armv7', 'arm64' ]: _HMServiceTypeSwitch

or as a flow list that may run over several lines.  The list is only used for cross-checking,
so a scanner of trimmed lines is enough: it follows whether it is inside the exports, inside a
block list, and inside a flow list.

Every constant of a catalog should be an exported symbol.  A stub without symbols says nothing, so
nothing is checked against it.
-/

namespace HomeCatalog.Stub

/-- Where in the stub a line stands. -/
structure Position where
  inExports : Bool
  inBlockList : Bool
  inFlowList : Bool
  deriving Repr, DecidableEq

/-- The position in front of the first line. -/
def Position.start : Position := ⟨false, false, false⟩

/-- Whether a character is a quote around a symbol. -/
def isQuoteMark (c : Char) : Bool :=
  c == '\'' || c == '"'

/-- The symbols of a piece of a flow list, up to its closing bracket. -/
def flowSymbols (piece : List Char) : List (List Char) :=
  ((Text.splitOn ',' (Text.cut ']' piece).1).map fun token =>
    Text.trim isQuoteMark (Text.strip token)).filter fun symbol => !symbol.isEmpty

/-- Whether a piece of a flow list leaves the list open. -/
def leavesOpen (piece : List Char) : Bool :=
  (Text.cut ']' piece).2.isNone

/-- The symbol of a block entry, without the architectures in front of it. -/
def blockSymbol (entry : List Char) : List Char :=
  let bare :=
    if Text.contains [']', ':'] entry then
      Text.trim (fun c => c == ':' || c == ' ' || c == '\t') ((Text.cut ']' entry).2.getD [])
    else entry
  Text.trim isQuoteMark bare

def startsWith (word : String) (cs : List Char) : Bool :=
  word.toList.isPrefixOf cs

/-- Whether the last character of a text is a colon. -/
def endsInColon (cs : List Char) : Bool :=
  cs.getLast? == some ':'

/-- A line without the dash that makes it an entry of a block list of mappings. -/
def keyText (line : List Char) : List Char :=
  if startsWith "- " line then (line.drop 2).dropWhile Text.isBlank else line

/-- Whether a line is the key of a section other than the exports and their symbols. -/
def isSectionKey (line : List Char) : Bool :=
  !startsWith "-" line && !startsWith "#" line && endsInColon line &&
    line != "exports:".toList && line != "symbols:".toList

/-- What a line of a block list contributes. -/
def blockLine (position : Position) (line : List Char) : Position × List (List Char) :=
  if !position.inBlockList then (position, [])
  else if startsWith "-" line then
    (position, [blockSymbol (Text.strip (line.drop 1))].filter fun symbol => !symbol.isEmpty)
  else if !startsWith "#" line && !endsInColon line then
    ({ position with inBlockList := false }, [])
  else (position, [])

/-- Read one trimmed line that is not empty: where the next line stands, and the symbols that
the line lists. -/
def step (position : Position) (line : List Char) : Position × List (List Char) :=
  if position.inFlowList then
    ({ position with inFlowList := leavesOpen line }, flowSymbols line)
  else if startsWith "exports:" line then
    (⟨true, false, false⟩, [])
  else if position.inExports && startsWith "symbols:" (keyText line) then
    match Text.strip ((keyText line).drop 8) with
    | '[' :: piece => (⟨true, false, leavesOpen piece⟩, flowSymbols piece)
    | _ => ({ position with inBlockList := true }, [])
  else
    let (next, symbols) := blockLine position line
    if isSectionKey line then (⟨false, false, next.inFlowList⟩, symbols) else (next, symbols)

/-- The symbols listed by trimmed lines that are not empty. -/
def symbolsFrom : Position → List (List Char) → List (List Char)
  | _, [] => []
  | position, line :: rest =>
      (step position line).2 ++ symbolsFrom (step position line).1 rest

/-- The lines of a stub that count: trimmed, and not empty. -/
def trimmedLines (stub : String) : List (List Char) :=
  ((Text.lines stub.toList).map Text.strip).filter fun line => !line.isEmpty

/-- The symbols that a stub exports, each once, in order of appearance. -/
def exportedSymbols (stub : String) : List String :=
  ((symbolsFrom .start (trimmedLines stub)).map String.ofList).eraseDups

/-- The linker symbol of a constant. -/
def symbolName (identifier : String) : String :=
  "_" ++ identifier

/-- The constants whose symbols a stub should export, with their sorts: services first. -/
def expectedSymbols (services : List Service) (characteristics : List Characteristic) :
    List (EntryKind × String) :=
  services.map (fun entry => (EntryKind.service, symbolName entry.identifier)) ++
    characteristics.map fun entry => (EntryKind.characteristic, symbolName entry.identifier)

/-- One finding for every constant that is not among the exported symbols. -/
def check (services : List Service) (characteristics : List Characteristic)
    (exported : List String) : List Finding :=
  if exported.isEmpty then []
  else
    ((expectedSymbols services characteristics).filter fun expected =>
      !exported.contains expected.2).map fun expected =>
        .symbolNotExported expected.1 expected.2

end HomeCatalog.Stub
