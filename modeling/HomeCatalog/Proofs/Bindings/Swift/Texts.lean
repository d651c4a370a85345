import HomeCatalog.Bindings.Swift.Source
import Mathlib.Data.List.Forall2

/-!
# The grammar of Swift sources

Which texts declare given constants, wrapper classes and service classes.  Comments are on one line
each, where a line ends at a line feed.  A carriage return is kept in a comment, and who ends lines at
carriage returns too reads what follows it as code.
-/

namespace HomeCatalog.Bindings.Swift

/-! ## Constants -/

/-- The texts that declare a constant by a value, below one line of comment. -/
inductive IsConstantText (name value : String) : String → Prop where
  | intro (comment : String) (oneLine : '\n' ∉ comment.toList) :
      IsConstantText name value
        ("    /// " ++ comment ++ "\n    static let " ++ name ++ ": String = " ++ value)

/-- The texts that extend a namespace by constants, first by symbols of the framework and then,
where it is missing, by literals. -/
inductive IsConstantsText (extended : String) (constants : List Constant) : String → Prop where
  | intro {symbols literals : List String}
      (areSymbols : List.Forall₂ (fun constant => IsConstantText constant.name constant.identifier)
        constants symbols)
      (areLiterals : List.Forall₂
        (fun constant => IsConstantText constant.name ("\"" ++ constant.identifier ++ "\""))
        constants literals) :
      IsConstantsText extended constants
        ("#if canImport(HomeKit)\n" ++
          ("public extension " ++ extended ++ " \x7b\n" ++ String.intercalate "\n\n" symbols ++
            "\n\x7d\n") ++
          "#else\n" ++
          ("public extension " ++ extended ++ " \x7b\n" ++ String.intercalate "\n\n" literals ++
            "\n\x7d\n") ++
          "#endif\n")

theorem isConstantsText_body (file : ConstantsFile)
    (oneLine : ∀ constant ∈ file.constants, '\n' ∉ constant.comment.toList) :
    IsConstantsText file.extended file.constants file.body := by
  have written : ∀ value : Constant → String,
      List.Forall₂ (fun constant => IsConstantText constant.name (value constant)) file.constants
        (file.constants.map fun constant => constant.declaration (value constant)) := by
    intro value
    rw [List.forall₂_map_right_iff, List.forall₂_same]
    exact fun constant member => .intro _ (oneLine constant member)
  exact .intro (written _) (written _)

/-! ## Wrapper classes -/

/-- The texts that declare the wrapper class of a characteristic, or where the framework is missing
another name for its plain type. -/
inductive IsWrapperText (wrapperType valueType constant : String) (deprecated : Bool) :
    String → Prop where
  | intro (comment : String) (oneLine : '\n' ∉ comment.toList) :
      IsWrapperText wrapperType valueType constant deprecated
        ("#if canImport(HomeKit)\n/// " ++ comment ++ "\n" ++
          deprecationLine "characteristic" deprecated ++
          "@MainActor\npublic final class " ++ wrapperType ++ ": Characteristic<" ++ valueType ++
          ">, GeneratedCharacteristic \x7b\n" ++
          "    public typealias WrappedValue = " ++ valueType ++ "\n" ++
          "    public static let characteristicType: String = CharacteristicType." ++ constant ++
          "\n\n" ++
          "    public override init(underlying: HMCharacteristic) \x7b\n" ++
          "        super.init(underlying: underlying)\n" ++
          "    \x7d\n\x7d\n#else\n" ++
          "public typealias " ++ wrapperType ++ " = Characteristic<" ++ valueType ++ ">\n" ++
          "#endif\n")

theorem isWrapperText_body (file : WrapperFile) (oneLine : '\n' ∉ file.comment.toList) :
    IsWrapperText file.wrapperType file.valueType file.constant file.deprecated file.body :=
  .intro file.comment oneLine

/-! ## Service classes -/

/-- The texts that declare an array of constants of characteristics, if there are any. -/
inductive IsArrayText (label : String) : List String → String → Prop where
  | empty : IsArrayText label [] ""
  | filled {constants : List String} (filled : constants ≠ []) :
      IsArrayText label constants
        ("\n    public static let " ++ label ++ ": [String] = [\n" ++
          String.intercalate ",\n"
            (constants.map fun constant => "        CharacteristicType." ++ constant) ++
          "\n    ]\n")

theorem isArrayText_constantArray (label : String) (constants : List String) :
    IsArrayText label constants (constantArray label constants) := by
  cases constants with
  | nil => exact .empty
  | cons constant rest => exact .filled (by simp)

/-- The texts that declare an accessor, which asks for the wrapper class or, where the framework is
missing, by the constant. -/
inductive IsAccessorText (name wrapperType constant : String) : String → Prop where
  | intro (comment : String) (oneLine : '\n' ∉ comment.toList) :
      IsAccessorText name wrapperType constant
        ("\n    /// " ++ comment ++ "\n" ++
          "    public var " ++ name ++ ": " ++ wrapperType ++ "? \x7b\n" ++
          "#if canImport(HomeKit)\n" ++
          "        characteristic(" ++ wrapperType ++ ".self)\n" ++
          "#else\n" ++
          "        characteristic(ofType: CharacteristicType." ++ constant ++ ")\n" ++
          "#endif\n    \x7d\n")

/-- The texts that declare the class of a service with arrays and accessors. -/
inductive IsClassText (file : ServiceFile) : String → Prop where
  | intro (comment : String) {required optional : String} {accessors : List String}
      (oneLine : '\n' ∉ comment.toList)
      (isRequired : IsArrayText "requiredCharacteristicTypes" file.required required)
      (isOptional : IsArrayText "optionalCharacteristicTypes" file.optional optional)
      (areAccessors : List.Forall₂
        (fun accessor => IsAccessorText accessor.name accessor.wrapperType accessor.constant)
        file.accessors accessors) :
      IsClassText file
        ("/// " ++ comment ++ "\n" ++
          deprecationLine "service" file.deprecated ++
          "@MainActor\npublic final class " ++ file.serviceType ++
          ": Service, GeneratedService \x7b\n" ++
          "    public static let serviceType: String = ServiceType." ++ file.constant ++ "\n" ++
          required ++ optional ++ initializers ++ String.join accessors ++ "\x7d\n")

theorem isClassText_body (file : ServiceFile) (oneLine : '\n' ∉ file.comment.toList)
    (oneLines : ∀ accessor ∈ file.accessors, '\n' ∉ accessor.comment.toList) :
    IsClassText file file.body := by
  have accessors : List.Forall₂
      (fun accessor => IsAccessorText accessor.name accessor.wrapperType accessor.constant)
      file.accessors (file.accessors.map Accessor.declaration) := by
    rw [List.forall₂_map_right_iff, List.forall₂_same]
    exact fun accessor member => .intro _ (oneLines accessor member)
  exact .intro file.comment oneLine (isArrayText_constantArray _ _)
    (isArrayText_constantArray _ _) accessors

end HomeCatalog.Bindings.Swift
