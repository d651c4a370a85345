import HomeCatalog.Catalog.Basic

/-!
# Swift source files

The generated Swift tree has three kinds of files: the constants of a namespace, the wrapper
class of a characteristic, and the class of a service.  Each is described by what it declares
and then written out.  Every file compiles with and without the framework: constants refer to
the framework's symbols where it is present, and are string literals elsewhere.
-/

namespace HomeCatalog.Bindings.Swift

/-- A constant of a namespace. -/
structure Constant where
  name : String
  identifier : String
  comment : String
  deriving Repr, DecidableEq

/-- A file that extends a namespace by constants. -/
structure ConstantsFile where
  extended : String
  constants : List Constant
  deriving Repr, DecidableEq

/-- A file that declares the wrapper class of a characteristic. -/
structure WrapperFile where
  wrapperType : String
  valueType : String
  /-- The constant of the characteristic. -/
  constant : String
  comment : String
  deprecated : Bool
  deriving Repr, DecidableEq

/-- An accessor of a service class. -/
structure Accessor where
  name : String
  /-- The wrapper class of the characteristic. -/
  wrapperType : String
  /-- The constant of the characteristic. -/
  constant : String
  comment : String
  deriving Repr, DecidableEq

/-- A file that declares the class of a service. -/
structure ServiceFile where
  serviceType : String
  /-- The constant of the service. -/
  constant : String
  comment : String
  deprecated : Bool
  /-- The constants of the required characteristics. -/
  required : List String
  /-- The constants of the optional characteristics. -/
  optional : List String
  accessors : List Accessor
  deriving Repr, DecidableEq

/-- A generated Swift file. -/
inductive Source where
  | constants (file : ConstantsFile)
  | wrapper (file : WrapperFile)
  | service (file : ServiceFile)
  deriving Repr, DecidableEq

/-- The type of values of a kind. -/
def valueType : ValueKind → String
  | .boolean => "Bool"
  | .integer => "Int"
  | .floating => "Double"
  | .text => "String"
  | .data => "Data"

/-- The first lines of every file. -/
def header (stamp : String) : String :=
  "// AUTO-GENERATED BY HomeKitServiceGenerator -- DO NOT EDIT\n" ++
    "// Generated on " ++ stamp ++ "\n\nimport Foundation\n\n"

/-- The import of the framework where it is present. -/
def frameworkImport : String :=
  "#if canImport(HomeKit)\nimport HomeKit\n#endif\n\n"

def Constant.declaration (constant : Constant) (value : String) : String :=
  "    /// " ++ constant.comment ++ "\n    static let " ++ constant.name ++ ": String = " ++ value

/-- The extension of a namespace by declarations. -/
def extensionText (extended : String) (declarations : List String) : String :=
  "public extension " ++ extended ++ " \x7b\n" ++ String.intercalate "\n\n" declarations ++
    "\n\x7d\n"

/-- The body of a constants file: one extension with and one without the framework. -/
def ConstantsFile.body (file : ConstantsFile) : String :=
  "#if canImport(HomeKit)\n" ++
    extensionText file.extended
      (file.constants.map fun constant => constant.declaration constant.identifier) ++
    "#else\n" ++
    extensionText file.extended
      (file.constants.map fun constant =>
        constant.declaration ("\"" ++ constant.identifier ++ "\"")) ++
    "#endif\n"

/-- The line that marks a class as deprecated. -/
def deprecationLine (sort : String) (deprecated : Bool) : String :=
  if deprecated then
    "@available(*, deprecated, message: \"HomeKit marks this " ++ sort ++ " as deprecated.\")\n"
  else ""

def WrapperFile.body (file : WrapperFile) : String :=
  "#if canImport(HomeKit)\n/// " ++ file.comment ++ "\n" ++
    deprecationLine "characteristic" file.deprecated ++
    "@MainActor\npublic final class " ++ file.wrapperType ++ ": Characteristic<" ++
    file.valueType ++ ">, GeneratedCharacteristic \x7b\n" ++
    "    public typealias WrappedValue = " ++ file.valueType ++ "\n" ++
    "    public static let characteristicType: String = CharacteristicType." ++ file.constant ++
    "\n\n" ++
    "    public override init(underlying: HMCharacteristic) \x7b\n" ++
    "        super.init(underlying: underlying)\n" ++
    "    \x7d\n\x7d\n#else\n" ++
    "public typealias " ++ file.wrapperType ++ " = Characteristic<" ++ file.valueType ++ ">\n" ++
    "#endif\n"

/-- The array of the constants of some characteristics, if there are any. -/
def constantArray (label : String) (constants : List String) : String :=
  if constants.isEmpty then ""
  else
    "\n    public static let " ++ label ++ ": [String] = [\n" ++
      String.intercalate ",\n"
        (constants.map fun constant => "        CharacteristicType." ++ constant) ++
      "\n    ]\n"

/-- The initializers of every service class. -/
def initializers : String :=
  "\n#if canImport(HomeKit)\n" ++
    "    public init(underlying: HMService) \x7b\n" ++
    "        super.init(underlying: underlying)\n" ++
    "    \x7d\n\n" ++
    "    public convenience init?(service: Service) \x7b\n" ++
    "        guard service.serviceType == Self.serviceType else \x7b return nil \x7d\n" ++
    "        self.init(underlying: service.underlying)\n" ++
    "    \x7d\n#endif\n"

def Accessor.declaration (accessor : Accessor) : String :=
  "\n    /// " ++ accessor.comment ++ "\n" ++
    "    public var " ++ accessor.name ++ ": " ++ accessor.wrapperType ++ "? \x7b\n" ++
    "#if canImport(HomeKit)\n" ++
    "        characteristic(" ++ accessor.wrapperType ++ ".self)\n" ++
    "#else\n" ++
    "        characteristic(ofType: CharacteristicType." ++ accessor.constant ++ ")\n" ++
    "#endif\n    \x7d\n"

def ServiceFile.body (file : ServiceFile) : String :=
  "/// " ++ file.comment ++ "\n" ++
    deprecationLine "service" file.deprecated ++
    "@MainActor\npublic final class " ++ file.serviceType ++ ": Service, GeneratedService \x7b\n" ++
    "    public static let serviceType: String = ServiceType." ++ file.constant ++ "\n" ++
    constantArray "requiredCharacteristicTypes" file.required ++
    constantArray "optionalCharacteristicTypes" file.optional ++
    initializers ++
    String.join (file.accessors.map Accessor.declaration) ++ "\x7d\n"

def Source.body : Source → String
  | constants file => file.body
  | wrapper file => file.body
  | service file => file.body

def Source.text (stamp : String) (source : Source) : String :=
  header stamp ++ frameworkImport ++ source.body

end HomeCatalog.Bindings.Swift
