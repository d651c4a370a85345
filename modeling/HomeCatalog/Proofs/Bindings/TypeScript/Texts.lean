import HomeCatalog.Bindings.TypeScript.Source
import HomeCatalog.Proofs.Bindings.Paths
import HomeCatalog.Proofs.Bindings.TypeScript.Parts
import HomeCatalog.Proofs.Text.Cutting
import Mathlib.Data.List.Forall2

/-!
# The grammar of TypeScript sources

Which texts declare given enums, types and interfaces.  A literal stands for a text, a module
specifier leads to a file, and commas separate the members of an enum.  Who reads a source as
TypeScript ends a literal at a line break and a comment at the first closing mark; who reads it as
it was written does not, so what a literal and a comment may hold is a parameter of the grammar.
-/

namespace HomeCatalog.Bindings.TypeScript

/-! ## Ways of reading -/

/-- What may stand in literals and in comments that are read to where they were meant to end. -/
structure Reading where
  /-- The characters of literals, besides those that are escaped. -/
  isPlain : Char → Bool
  /-- The texts that are inserted into comments. -/
  isKept : String → Prop

namespace Reading

/-- Literals and comments are read as they were written. -/
def asWritten : Reading where
  isPlain _ := true
  isKept _ := True

/-- A line break ends a literal, and the first closing mark ends a comment. -/
def asTypeScript : Reading where
  isPlain c := c != '\n' && c != '\r'
  isKept text := ¬Closes text

@[simp] theorem isKept_asTypeScript (text : String) : asTypeScript.isKept text ↔ ¬Closes text :=
  Iff.rfl

/-- Whether the literal of a text can be read. -/
def Spells (reading : Reading) (text : String) : Prop :=
  ∀ c ∈ text.toList, c = '\\' ∨ c = '\'' ∨ reading.isPlain c = true

theorem spells_asWritten (text : String) : asWritten.Spells text :=
  fun _ _ => Or.inr (Or.inr rfl)

/-- The literal of a text can be read as TypeScript exactly if the text has a single line. -/
theorem spells_asTypeScript_iff {text : String} :
    asTypeScript.Spells text ↔ '\n' ∉ text.toList ∧ '\r' ∉ text.toList := by
  constructor
  · intro spells
    constructor <;> intro member <;> simpa [asTypeScript] using spells _ member
  · rintro ⟨feed, carriage⟩ c member
    refine Or.inr (Or.inr ?_)
    rw [asTypeScript, Bool.and_eq_true, bne_iff_ne, bne_iff_ne]
    exact ⟨ne_of_mem_of_not_mem member feed, ne_of_mem_of_not_mem member carriage⟩

end Reading

/-! ## Literals -/

/-- Read a text up to its closing quote, which must come last. -/
def readQuoted (reading : Reading) : List Char → Option (List Char)
  | [] => none
  | '\'' :: rest => if rest.isEmpty then some [] else none
  | '\\' :: c :: rest =>
      if c = '\\' ∨ c = '\'' then (readQuoted reading rest).map (c :: ·) else none
  | c :: rest =>
      if c ≠ '\\' ∧ reading.isPlain c then (readQuoted reading rest).map (c :: ·) else none

/-- The text that a literal stands for. -/
def readLiteral (reading : Reading) (source : String) : Option String :=
  match source.toList with
  | '\'' :: rest => (readQuoted reading rest).map String.ofList
  | _ => none

section

variable {reading : Reading}

theorem readQuoted_escape {cs : List Char}
    (spells : ∀ c ∈ cs, c = '\\' ∨ c = '\'' ∨ reading.isPlain c = true) :
    readQuoted reading (cs.flatMap escapeChar ++ ['\'']) = some cs := by
  induction cs with
  | nil => rfl
  | cons c rest ih =>
      obtain ⟨first, others⟩ := List.forall_mem_cons.mp spells
      have later := ih others
      rw [List.flatMap_cons, List.append_assoc]
      by_cases backslash : c = '\\'
      · subst backslash
        simp [escapeChar, readQuoted, later]
      by_cases mark : c = '\''
      · subst mark
        simp [escapeChar, readQuoted, later]
      · have plain := (first.resolve_left backslash).resolve_left mark
        simp [escapeChar, readQuoted, backslash, mark, plain, later]

/-- A text that is read from a literal can be read from its own. -/
theorem spells_of_readQuoted {source cs : List Char} (read : readQuoted reading source = some cs) :
    ∀ c ∈ cs, c = '\\' ∨ c = '\'' ∨ reading.isPlain c = true := by
  induction source using readQuoted.induct reading generalizing cs with
  | case1 => cases read
  | case2 rest empty =>
      rw [readQuoted, if_pos empty] at read
      cases read
      exact fun _ member => absurd member List.not_mem_nil
  | case3 rest filled =>
      rw [readQuoted, if_neg filled] at read
      cases read
  | case4 c rest escaped ih =>
      rw [readQuoted, if_pos escaped] at read
      obtain ⟨others, later, rfl⟩ := Option.map_eq_some_iff.mp read
      exact List.forall_mem_cons.mpr ⟨escaped.elim Or.inl fun mark => Or.inr (Or.inl mark),
        ih later⟩
  | case5 c rest other =>
      rw [readQuoted, if_neg other] at read
      cases read
  | case6 c rest noMark noEscape plain ih =>
      rw [readQuoted, if_pos plain] at read
      · obtain ⟨others, later, rfl⟩ := Option.map_eq_some_iff.mp read
        exact List.forall_mem_cons.mpr ⟨Or.inr (Or.inr plain.2), ih later⟩
      · exact noMark
      · exact noEscape
  | case7 c rest noMark noEscape other =>
      rw [readQuoted, if_neg other] at read
      · cases read
      · exact noMark
      · exact noEscape

/-- A literal that can be read stands for the text that it was made of. -/
theorem readLiteral_literal {text : String} (spells : reading.Spells text) :
    readLiteral reading (literal text) = some text := by
  simp [readLiteral, literal, readQuoted_escape spells]

theorem spells_of_readLiteral {source text : String}
    (read : readLiteral reading source = some text) : reading.Spells text := by
  rw [readLiteral] at read
  split at read
  · obtain ⟨cs, quoted, rfl⟩ := Option.map_eq_some_iff.mp read
    rw [Reading.Spells, String.toList_ofList]
    exact spells_of_readQuoted quoted
  · cases read

end

/-! ## Module specifiers -/

/-- Go from a directory along the components of a path.  Nothing lies above the root. -/
def walk : (directory components : List (List Char)) → Option (List (List Char))
  | directory, [] => some directory
  | directory, component :: rest =>
      if component = ['.'] then walk directory rest
      else if component = ['.', '.'] then
        if directory = [] then none else walk directory.dropLast rest
      else walk (directory ++ [component]) rest

/-- The path of the file to which a relative specifier leads from a file. -/
def resolve (importer specifier : String) : Option String :=
  (walk (Text.splitOn '/' importer.toList).dropLast (Text.splitOn '/' specifier.toList)).map
    fun components => String.ofList (Text.joinWith ['/'] components ++ ".ts".toList)

theorem walk_stem {stem : String} (isStem : IsStem stem) (directory rest : List (List Char)) :
    walk directory (stem.toList :: rest) = walk (directory ++ [stem.toList]) rest := by
  have single : stem.toList ≠ ['.'] := by
    intro same
    exact isStem.dot (by simp [same])
  have double : stem.toList ≠ ['.', '.'] := by
    intro same
    exact isStem.dot (by simp [same])
  rw [walk, if_neg single, if_neg double]

section

variable {directory name : String} (isDirectory : IsStem directory) (isName : IsStem name)

include isDirectory isName

theorem splitOn_specifier {start : List Char} (plain : '/' ∉ start) :
    Text.splitOn '/' (start ++ '/' :: (directory.toList ++ '/' :: name.toList)) =
      [start, directory.toList, name.toList] := by
  rw [Text.splitOn_append_cons plain, Text.splitOn_append_cons isDirectory.slash,
    Text.splitOn_of_absent isName.slash]

/-- From the index, a path through a directory leads to a file in it. -/
theorem resolve_index :
    resolve "index.ts" ("./" ++ directory ++ "/" ++ name) =
      some (directory ++ "/" ++ name ++ ".ts") := by
  have specifier : ("./" ++ directory ++ "/" ++ name).toList =
      ['.'] ++ '/' :: (directory.toList ++ '/' :: name.toList) := by
    simp
  have importer : (Text.splitOn '/' "index.ts".toList).dropLast = [] := by decide
  rw [resolve, specifier, splitOn_specifier isDirectory isName (by decide), importer, walk,
    if_pos rfl, walk_stem isDirectory, walk_stem isName, walk]
  apply congrArg some
  apply String.toList_inj.mp
  simp [Text.joinWith]

end

/-- From the file of a service, a path through the parent leads to the file of a characteristic. -/
theorem resolve_service {stem name : String} (isStem : IsStem stem) (isName : IsStem name) :
    resolve ("services/" ++ stem ++ ".ts") ("../characteristics/" ++ name) =
      some ("characteristics/" ++ name ++ ".ts") := by
  have isDirectory : IsStem "characteristics" := ⟨by decide, by decide, by decide⟩
  have specifier : ("../characteristics/" ++ name).toList =
      ['.', '.'] ++ '/' :: ("characteristics".toList ++ '/' :: name.toList) := by
    simp
  have importer : (Text.splitOn '/' ("services/" ++ stem ++ ".ts").toList).dropLast =
      ["services".toList] := by
    have written : ("services/" ++ stem ++ ".ts").toList =
        "services".toList ++ '/' :: (stem.toList ++ ".ts".toList) := by
      simp
    have plain : '/' ∉ stem.toList ++ ".ts".toList := by
      simp [isStem.slash]
    rw [written, Text.splitOn_append_cons (by decide), Text.splitOn_of_absent plain]
    rfl
  rw [resolve, specifier, splitOn_specifier isDirectory isName (by decide), importer, walk,
    if_neg (by decide), if_pos rfl, if_neg (by simp), List.dropLast_singleton,
    walk_stem isDirectory, walk_stem isName, walk]
  apply congrArg some
  apply String.toList_inj.mp
  simp [Text.joinWith]

/-! ## Enums -/

/-- The declaration of a member of an enum without what follows it. -/
def Member.entry (plainLabel : String) (member : Member) : String :=
  "  /** " ++ member.comment ++ " */\n" ++
    (if member.deprecated then
      "  /** @deprecated HomeKit marks this " ++ plainLabel ++ " as deprecated */\n"
    else "") ++
    "  " ++ member.key ++ " = " ++ literal member.identifier

theorem Member.declaration_eq (plainLabel separator : String) (member : Member) :
    member.declaration plainLabel separator =
      member.entry plainLabel ++ (separator ++ "\n") := by
  unfold declaration entry
  simp only [String.append_assoc]

theorem memberLines_of_ne_nil (plainLabel : String) {members : List Member}
    (filled : members ≠ []) :
    memberLines plainLabel members =
      String.intercalate ",\n" (members.map (Member.entry plainLabel)) ++ "\n" := by
  induction members using memberLines.induct with
  | case1 => exact absurd rfl filled
  | case2 member =>
      rw [memberLines, Member.declaration_eq, List.map_singleton, String.intercalate_singleton,
        String.empty_append]
  | case3 member rest others ih =>
      have later : rest.map (Member.entry plainLabel) ≠ [] := by
        rw [ne_eq, List.map_eq_nil_iff]
        exact others
      have comma : "," ++ "\n" = ",\n" := rfl
      rw [memberLines, ih others, Member.declaration_eq, List.map_cons,
        String.intercalate_cons_of_ne_nil later, comma]
      · simp only [String.append_assoc]
      · exact others

/-- Commas stand between the members of an enum, and nowhere else. -/
theorem memberLines_eq (plainLabel : String) (members : List Member) :
    memberLines plainLabel members =
      if members.map (Member.entry plainLabel) = [] then ""
      else String.intercalate ",\n" (members.map (Member.entry plainLabel)) ++ "\n" := by
  split
  · next empty =>
      rw [List.map_eq_nil_iff.mp empty]
      rfl
  · next filled => exact memberLines_of_ne_nil plainLabel (by simpa using filled)

section

variable (reading : Reading)

/-- The texts that declare a member of an enum by a literal, below its comment. -/
inductive IsEntryText (plainLabel : String) (member : Member) : String → Prop where
  | intro (value : String) (oneLine : '\n' ∉ member.comment.toList)
      (kept : reading.isKept member.comment)
      (read : readLiteral reading value = some member.identifier) :
      IsEntryText plainLabel member
        ("  /** " ++ member.comment ++ " */\n" ++
          (if member.deprecated then
            "  /** @deprecated HomeKit marks this " ++ plainLabel ++ " as deprecated */\n"
          else "") ++
          "  " ++ member.key ++ " = " ++ value)

/-- The texts that declare an enum, with commas between its members. -/
inductive IsEnumText (file : EnumFile) : String → Prop where
  | intro {entries : List String}
      (areEntries : List.Forall₂ (IsEntryText reading file.plainLabel) file.members entries) :
      IsEnumText file
        ("/**\n * HomeKit " ++ file.label ++
          " Type identifiers\n * Auto-generated from HomeKit catalog\n */\n" ++
          "export enum " ++ file.enumName ++ " \x7b\n" ++
          (if entries = [] then "" else String.intercalate ",\n" entries ++ "\n") ++ "\x7d\n")

/-- The texts that export the type of a characteristic, below its comment. -/
inductive IsAliasText (name valueType comment : String) (deprecated : Bool) : String → Prop where
  | intro (oneLine : '\n' ∉ comment.toList) (kept : reading.isKept comment) :
      IsAliasText name valueType comment deprecated
        ("import \x7b Characteristic \x7d from '../../types/characteristic';\n\n" ++
          "/**\n * " ++ comment ++ "\n" ++
          deprecationLine "characteristic" deprecated ++ " */\n" ++
          "export type " ++ name ++ " = Characteristic<" ++ valueType ++ ">;\n")

/-- The texts that declare a property, below its comment, with a question mark unless it is
required. -/
inductive IsPropertyText (property : Property) : String → Prop where
  | intro (kept : reading.isKept property.comment) :
      IsPropertyText property
        ("\n  /**\n   * " ++ property.comment ++ "\n" ++
          (if property.deprecated then
            "   * @deprecated HomeKit marks this characteristic as deprecated\n"
          else "") ++
          "   */\n" ++
          "  readonly " ++ property.name ++ (if property.isRequired then "" else "?") ++ ": " ++
          property.typeName ++ ";\n")

/-- The texts that export the interface of a service, given which lines import a type of a name. -/
inductive IsInterfaceText (isImport : String → String → Prop) (file : InterfaceFile) :
    String → Prop where
  | intro (value : String) {imports properties : List String}
      (oneLine : '\n' ∉ file.comment.toList) (kept : reading.isKept file.comment)
      (read : readLiteral reading value = some file.identifier)
      (areImports : List.Forall₂ isImport file.imports imports)
      (areProperties : List.Forall₂ (IsPropertyText reading) file.properties properties) :
      IsInterfaceText isImport file
        ("/**\n * " ++ file.name ++ " interface\n * Auto-generated from HomeKit catalog\n */\n\n" ++
          "import \x7b Service, Characteristic \x7d from '../../types/service';\n" ++
          String.join imports ++ "\n" ++
          "/**\n * " ++ file.comment ++ "\n" ++
          deprecationLine "service" file.deprecated ++ " */\n" ++
          "export interface " ++ file.name ++ " extends Service \x7b\n" ++
          "  /** Service type identifier */\n" ++
          "  readonly type: " ++ value ++ ";\n" ++
          "  /** Service characteristics */\n" ++
          "  readonly characteristics: Characteristic[];\n" ++
          String.join properties ++ "\x7d\n")

end

/-- The texts of an index, given its lines for characteristics and for services. -/
inductive IsIndexText (aliases interfaces : List String) : String → Prop where
  | intro :
      IsIndexText aliases interfaces
        ("/**\n * Generated HomeKit Type Definitions\n" ++
          " * Re-exports all generated types, enums, and interfaces\n */\n\n" ++
          "// Type enums\n" ++
          "export \x7b ServiceTypes \x7d from './serviceTypes';\n" ++
          "export \x7b CharacteristicTypes \x7d from './characteristicTypes';\n" ++
          "\n// Characteristic type definitions\n" ++ String.join aliases ++
          "\n// Service interfaces\n" ++ String.join interfaces)

/-! ## What can be read -/

/-- Whether all comments and literals of a source can be read to where they were meant to end. -/
def Reading.Takes (reading : Reading) : Source → Prop
  | .members file => ∀ member ∈ file.members,
      reading.isKept member.comment ∧ reading.Spells member.identifier
  | .characteristic file => reading.isKept file.comment
  | .service file => (reading.isKept file.comment ∧ reading.Spells file.identifier) ∧
      ∀ property ∈ file.properties, reading.isKept property.comment
  | .index _ => True

theorem takes_asWritten (source : Source) : Reading.asWritten.Takes source := by
  cases source with
  | members file => exact fun _ _ => ⟨trivial, Reading.spells_asWritten _⟩
  | characteristic file => exact trivial
  | service file => exact ⟨⟨trivial, Reading.spells_asWritten _⟩, fun _ _ => trivial⟩
  | index file => exact trivial

section

variable {reading : Reading}

/-! ### Enums -/

/-- The comments and literals of a text that declares an enum can be read. -/
theorem IsEnumText.takes {file : EnumFile} {text : String}
    (written : IsEnumText reading file text) : reading.Takes (.members file) := by
  obtain ⟨areEntries⟩ := written
  refine ((List.forall₂_and_left _ _).mp (areEntries.imp fun _ _ entry => ⟨?_, entry⟩)).1
  obtain ⟨_, _, kept, read⟩ := entry
  exact ⟨kept, spells_of_readLiteral read⟩

/-- The body of an enum declares it if its comments and literals can be read. -/
theorem isEnumText_body {file : EnumFile} (takes : reading.Takes (.members file))
    (oneLine : ∀ member ∈ file.members, '\n' ∉ member.comment.toList) :
    IsEnumText reading file file.body := by
  have entries : List.Forall₂ (IsEntryText reading file.plainLabel) file.members
      (file.members.map (Member.entry file.plainLabel)) := by
    rw [List.forall₂_map_right_iff, List.forall₂_same]
    intro member listed
    obtain ⟨kept, spells⟩ := takes member listed
    exact .intro _ (oneLine member listed) kept (readLiteral_literal spells)
  have written := IsEnumText.intro entries
  rwa [← memberLines_eq] at written

/-! ### Characteristic types -/

theorem IsAliasText.isKept {name valueType comment text : String} {deprecated : Bool}
    (written : IsAliasText reading name valueType comment deprecated text) :
    reading.isKept comment := by
  obtain ⟨_, kept⟩ := written
  exact kept

theorem isAliasText_body (file : AliasFile) (kept : reading.isKept file.comment)
    (oneLine : '\n' ∉ file.comment.toList) :
    IsAliasText reading file.name file.valueType file.comment file.deprecated file.body :=
  .intro oneLine kept

/-! ### Service interfaces -/

theorem IsInterfaceText.takes {file : InterfaceFile} {isImport : String → String → Prop}
    {text : String} (written : IsInterfaceText reading isImport file text) :
    reading.Takes (.service file) := by
  obtain ⟨value, _, kept, read, _, areProperties⟩ := written
  refine ⟨⟨kept, spells_of_readLiteral read⟩, ((List.forall₂_and_left _ _).mp
    (areProperties.imp fun _ _ declared => ⟨?_, declared⟩)).1⟩
  obtain ⟨kept⟩ := declared
  exact kept

theorem isInterfaceText_body {file : InterfaceFile} {isImport : String → String → Prop}
    (takes : reading.Takes (.service file)) (oneLine : '\n' ∉ file.comment.toList)
    (imports : ∀ name ∈ file.imports, isImport name (importLine name)) :
    IsInterfaceText reading isImport file file.body := by
  obtain ⟨⟨kept, spells⟩, properties⟩ := takes
  have areImports : List.Forall₂ isImport file.imports (file.imports.map importLine) := by
    rw [List.forall₂_map_right_iff, List.forall₂_same]
    exact imports
  have areProperties : List.Forall₂ (IsPropertyText reading) file.properties
      (file.properties.map Property.declaration) := by
    rw [List.forall₂_map_right_iff, List.forall₂_same]
    exact fun property listed => .intro (properties property listed)
  exact .intro _ oneLine kept (readLiteral_literal spells) areImports areProperties

end

/-! ### The index -/

theorem isIndexText_body (file : IndexFile) :
    IsIndexText (file.aliases.map (exportLine "characteristics"))
      (file.interfaces.map (exportLine "services")) file.body :=
  .intro

end HomeCatalog.Bindings.TypeScript
