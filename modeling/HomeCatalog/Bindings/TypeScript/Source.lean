import HomeCatalog.Catalog.Basic

/-!
# TypeScript source files

The generated TypeScript tree has four kinds of files: an enum of type identifiers, the type of
a characteristic, the interface of a service, and an index that exports them all.  Each is
described by what it declares and then written out.
-/

namespace HomeCatalog.Bindings.TypeScript

/-- A member of an enum. -/
structure Member where
  key : String
  identifier : String
  comment : String
  deprecated : Bool
  deriving Repr, DecidableEq

/-- A file that declares an enum of type identifiers. -/
structure EnumFile where
  enumName : String
  /-- The sort of entries whose types are listed, capitalised and in lower case. -/
  label : String
  plainLabel : String
  members : List Member
  deriving Repr, DecidableEq

/-- A file that declares the type of a characteristic. -/
structure AliasFile where
  name : String
  valueType : String
  comment : String
  deprecated : Bool
  deriving Repr, DecidableEq

/-- A property of a service interface. -/
structure Property where
  name : String
  /-- The type of the characteristic. -/
  typeName : String
  isRequired : Bool
  comment : String
  deprecated : Bool
  deriving Repr, DecidableEq

/-- A file that declares the interface of a service. -/
structure InterfaceFile where
  name : String
  identifier : String
  comment : String
  deprecated : Bool
  /-- The characteristic types that are imported. -/
  imports : List String
  properties : List Property
  deriving Repr, DecidableEq

/-- The file that exports all others. -/
structure IndexFile where
  aliases : List String
  interfaces : List String
  deriving Repr, DecidableEq

/-- A generated TypeScript file. -/
inductive Source where
  | members (file : EnumFile)
  | characteristic (file : AliasFile)
  | service (file : InterfaceFile)
  | index (file : IndexFile)
  deriving Repr, DecidableEq

/-- The type of values of a kind.  Data travels as text. -/
def valueType : ValueKind → String
  | .boolean => "boolean"
  | .integer => "number"
  | .floating => "number"
  | .text => "string"
  | .data => "string"

/-- The form of a character inside single quotes. -/
def escapeChar (c : Char) : List Char :=
  if c = '\\' then ['\\', '\\'] else if c = '\'' then ['\\', '\''] else [c]

def literal (text : String) : String :=
  String.ofList (['\''] ++ text.toList.flatMap escapeChar ++ ['\''])

/-- The first lines of every file. -/
def header (stamp : String) : String :=
  "// This file is auto-generated. Do not edit manually.\n" ++
    "// Generated: " ++ stamp ++ "\n" ++
    "// Generator: HomeKitServiceGenerator (TypeScript)\n\n"

/-- The declaration of a member of an enum.  A comma follows all but the last. -/
def Member.declaration (plainLabel separator : String) (member : Member) : String :=
  "  /** " ++ member.comment ++ " */\n" ++
    (if member.deprecated then
      "  /** @deprecated HomeKit marks this " ++ plainLabel ++ " as deprecated */\n"
    else "") ++
    "  " ++ member.key ++ " = " ++ literal member.identifier ++ separator ++ "\n"

/-- The declarations of the members of an enum. -/
def memberLines (plainLabel : String) : List Member → String
  | [] => ""
  | [member] => member.declaration plainLabel ""
  | member :: rest => member.declaration plainLabel "," ++ memberLines plainLabel rest

def EnumFile.body (file : EnumFile) : String :=
  "/**\n * HomeKit " ++ file.label ++
    " Type identifiers\n * Auto-generated from HomeKit catalog\n */\n" ++
    "export enum " ++ file.enumName ++ " \x7b\n" ++
    memberLines file.plainLabel file.members ++ "\x7d\n"

/-- The line that marks a declaration as deprecated. -/
def deprecationLine (sort : String) (deprecated : Bool) : String :=
  if deprecated then " * @deprecated HomeKit marks this " ++ sort ++ " as deprecated\n" else ""

/-- The body of the file of a characteristic type. -/
def AliasFile.body (file : AliasFile) : String :=
  "import \x7b Characteristic \x7d from '../../types/characteristic';\n\n" ++
    "/**\n * " ++ file.comment ++ "\n" ++
    deprecationLine "characteristic" file.deprecated ++ " */\n" ++
    "export type " ++ file.name ++ " = Characteristic<" ++ file.valueType ++ ">;\n"

/-- The import of a characteristic type. -/
def importLine (name : String) : String :=
  "import type \x7b " ++ name ++ " \x7d from '../characteristics/" ++ name ++ "';\n"

def Property.declaration (property : Property) : String :=
  "\n  /**\n   * " ++ property.comment ++ "\n" ++
    (if property.deprecated then
      "   * @deprecated HomeKit marks this characteristic as deprecated\n"
    else "") ++
    "   */\n" ++
    "  readonly " ++ property.name ++ (if property.isRequired then "" else "?") ++ ": " ++
    property.typeName ++ ";\n"

def InterfaceFile.body (file : InterfaceFile) : String :=
  "/**\n * " ++ file.name ++ " interface\n * Auto-generated from HomeKit catalog\n */\n\n" ++
    "import \x7b Service, Characteristic \x7d from '../../types/service';\n" ++
    String.join (file.imports.map importLine) ++ "\n" ++
    "/**\n * " ++ file.comment ++ "\n" ++
    deprecationLine "service" file.deprecated ++ " */\n" ++
    "export interface " ++ file.name ++ " extends Service \x7b\n" ++
    "  /** Service type identifier */\n" ++
    "  readonly type: " ++ literal file.identifier ++ ";\n" ++
    "  /** Service characteristics */\n" ++
    "  readonly characteristics: Characteristic[];\n" ++
    String.join (file.properties.map Property.declaration) ++ "\x7d\n"

def exportLine (directory name : String) : String :=
  "export type \x7b " ++ name ++ " \x7d from './" ++ directory ++ "/" ++ name ++ "';\n"

def IndexFile.body (file : IndexFile) : String :=
  "/**\n * Generated HomeKit Type Definitions\n" ++
    " * Re-exports all generated types, enums, and interfaces\n */\n\n" ++
    "// Type enums\n" ++
    "export \x7b ServiceTypes \x7d from './serviceTypes';\n" ++
    "export \x7b CharacteristicTypes \x7d from './characteristicTypes';\n" ++
    "\n// Characteristic type definitions\n" ++
    String.join (file.aliases.map (exportLine "characteristics")) ++
    "\n// Service interfaces\n" ++
    String.join (file.interfaces.map (exportLine "services"))

def Source.body : Source → String
  | members file => file.body
  | characteristic file => file.body
  | service file => file.body
  | index file => file.body

def Source.text (stamp : String) (source : Source) : String :=
  header stamp ++ source.body

end HomeCatalog.Bindings.TypeScript
