import HomeCatalog.Bindings.TypeScript.Source
import HomeCatalog.Proofs.Bindings.TypeScript.Parts

/-!
# The comments of generated TypeScript

Every generated source is made of code and block comments.  Its comments are the ones that were
written as long as the words in its code have no stars and the texts in its comments close none.
-/

namespace HomeCatalog.Bindings.TypeScript

/-! ## The parts of sources -/

def Member.parts (plainLabel separator : String) (member : Member) : List Part :=
  [.code "  ", .comment ⟨"* ", member.comment, " "⟩, .code "\n"] ++
  (if member.deprecated then
    [ .code "  ",
      .comment ⟨"* @deprecated HomeKit marks this ", plainLabel, " as deprecated "⟩, .code "\n" ]
  else []) ++
  [.code ("  " ++ member.key ++ " = " ++ literal member.identifier ++ separator ++ "\n")]

def memberParts (plainLabel : String) : List Member → List Part
  | [] => []
  | [member] => member.parts plainLabel ""
  | member :: rest => member.parts plainLabel "," ++ memberParts plainLabel rest

def EnumFile.parts (file : EnumFile) : List Part :=
  [ .comment ⟨"*\n * HomeKit ", file.label,
      " Type identifiers\n * Auto-generated from HomeKit catalog\n "⟩,
    .code "\n",
    .code ("export enum " ++ file.enumName ++ " \x7b\n") ] ++
  memberParts file.plainLabel file.members ++ [.code "\x7d\n"]

def AliasFile.parts (file : AliasFile) : List Part :=
  [ .code "import \x7b Characteristic \x7d from '../../types/characteristic';\n\n",
    .comment ⟨"*\n * ", file.comment, "\n" ++
      deprecationLine "characteristic" file.deprecated ++ " "⟩,
    .code "\n",
    .code ("export type " ++ file.name ++ " = Characteristic<" ++ file.valueType ++ ">;\n") ]

def Property.parts (property : Property) : List Part :=
  [ .code "\n  ",
    .comment ⟨"*\n   * ", property.comment, "\n" ++
      (if property.deprecated then
        "   * @deprecated HomeKit marks this characteristic as deprecated\n"
      else "") ++ "   "⟩,
    .code "\n",
    .code ("  readonly " ++ property.name ++ (if property.isRequired then "" else "?") ++ ": " ++
      property.typeName ++ ";\n") ]

def InterfaceFile.parts (file : InterfaceFile) : List Part :=
  [ .comment ⟨"*\n * ", file.name, " interface\n * Auto-generated from HomeKit catalog\n "⟩,
    .code "\n\n",
    .code ("import \x7b Service, Characteristic \x7d from '../../types/service';\n" ++
      String.join (file.imports.map importLine) ++ "\n"),
    .comment ⟨"*\n * ", file.comment, "\n" ++ deprecationLine "service" file.deprecated ++ " "⟩,
    .code "\n",
    .code ("export interface " ++ file.name ++ " extends Service \x7b\n"),
    .code "  ", .comment ⟨"* ", "Service type identifier", " "⟩, .code "\n",
    .code ("  readonly type: " ++ literal file.identifier ++ ";\n"),
    .code "  ", .comment ⟨"* ", "Service characteristics", " "⟩, .code "\n",
    .code "  readonly characteristics: Characteristic[];\n" ] ++
  file.properties.flatMap Property.parts ++ [.code "\x7d\n"]

def IndexFile.parts (file : IndexFile) : List Part :=
  [ .comment ⟨"*\n * ", "Generated HomeKit Type Definitions",
      "\n" ++ " * Re-exports all generated types, enums, and interfaces\n "⟩,
    .code "\n\n",
    .code ("// Type enums\n" ++
      "export \x7b ServiceTypes \x7d from './serviceTypes';\n" ++
      "export \x7b CharacteristicTypes \x7d from './characteristicTypes';\n" ++
      "\n// Characteristic type definitions\n" ++
      String.join (file.aliases.map (exportLine "characteristics")) ++
      "\n// Service interfaces\n" ++
      String.join (file.interfaces.map (exportLine "services"))) ]

/-- The code and the comments of a source below its header. -/
def Source.parts : Source → List Part
  | members file => file.parts
  | characteristic file => file.parts
  | service file => file.parts
  | index file => file.parts

/-! ## Sources are made of their parts -/

theorem textOf_parts_member (plainLabel separator : String) (member : Member) :
    textOf (member.parts plainLabel separator) = member.declaration plainLabel separator := by
  have opening : "  /** " = "  " ++ ("/*" ++ "* ") := by decide
  have closing : " */\n" = " " ++ ("*/" ++ "\n") := by decide
  have opening' : "  /** @deprecated HomeKit marks this " =
      "  " ++ ("/*" ++ "* @deprecated HomeKit marks this ") := by decide
  have closing' : " as deprecated */\n" = " as deprecated " ++ ("*/" ++ "\n") := by decide
  unfold Member.parts Member.declaration
  rw [opening, closing, opening', closing']
  cases member.deprecated <;>
    simp only [textOf_append, textOf_cons, textOf_nil, Part.text, Comment.text, if_true, if_false,
      Bool.false_eq_true, String.append_assoc, String.append_empty]

theorem textOf_memberParts (plainLabel : String) (members : List Member) :
    textOf (memberParts plainLabel members) = memberLines plainLabel members := by
  induction members using memberLines.induct with
  | case1 => rfl
  | case2 member => exact textOf_parts_member plainLabel "" member
  | case3 member rest others ih =>
      rw [memberParts, memberLines, textOf_append, textOf_parts_member, ih]
      · exact others
      · exact others

theorem textOf_parts_enumFile (file : EnumFile) : textOf file.parts = file.body := by
  have opening : "/**\n * HomeKit " = "/*" ++ "*\n * HomeKit " := by decide
  have closing : " Type identifiers\n * Auto-generated from HomeKit catalog\n */\n" =
      " Type identifiers\n * Auto-generated from HomeKit catalog\n " ++ ("*/" ++ "\n") := by decide
  unfold EnumFile.parts EnumFile.body
  simp only [textOf_append, textOf_cons, textOf_nil, Part.text,
    Comment.text, textOf_memberParts]
  rw [opening, closing]
  simp only [String.append_assoc, String.append_empty]

theorem textOf_parts_aliasFile (file : AliasFile) : textOf file.parts = file.body := by
  have opening : "/**\n * " = "/*" ++ "*\n * " := by decide
  have closing : " */\n" = " " ++ ("*/" ++ "\n") := by decide
  unfold AliasFile.parts AliasFile.body
  simp only [textOf_cons, textOf_nil, Part.text, Comment.text]
  rw [opening, closing]
  simp only [String.append_assoc, String.append_empty]

theorem textOf_parts_property (property : Property) :
    textOf property.parts = property.declaration := by
  have opening : "\n  /**\n   * " = "\n  " ++ ("/*" ++ "*\n   * ") := by decide
  have closing : "   */\n" = "   " ++ ("*/" ++ "\n") := by decide
  unfold Property.parts Property.declaration
  simp only [textOf_cons, textOf_nil, Part.text, Comment.text]
  rw [opening, closing]
  simp only [String.append_assoc, String.append_empty]

theorem textOf_parts_properties (properties : List Property) :
    textOf (properties.flatMap Property.parts) =
      String.join (properties.map Property.declaration) := by
  induction properties with
  | nil => rfl
  | cons property rest ih =>
      rw [List.flatMap_cons, textOf_append, ih, textOf_parts_property, List.map_cons,
        String.join_cons]

theorem textOf_parts_interfaceFile (file : InterfaceFile) : textOf file.parts = file.body := by
  have opening : "/**\n * " = "/*" ++ "*\n * " := by decide
  have heading : " interface\n * Auto-generated from HomeKit catalog\n */\n\n" =
      " interface\n * Auto-generated from HomeKit catalog\n " ++ ("*/" ++ "\n\n") := by decide
  have closing : " */\n" = " " ++ ("*/" ++ "\n") := by decide
  have identifier : "  /** Service type identifier */\n" =
      "  " ++ ("/*" ++ ("* " ++ ("Service type identifier" ++ (" " ++ ("*/" ++ "\n"))))) := by
    decide
  have characteristics : "  /** Service characteristics */\n" =
      "  " ++ ("/*" ++ ("* " ++ ("Service characteristics" ++ (" " ++ ("*/" ++ "\n"))))) := by
    decide
  unfold InterfaceFile.parts InterfaceFile.body
  simp only [textOf_append, textOf_cons, textOf_nil,
    textOf_parts_properties, Part.text, Comment.text]
  rw [opening, heading, closing, identifier, characteristics]
  simp only [String.append_assoc, String.append_empty]

theorem textOf_parts_indexFile (file : IndexFile) : textOf file.parts = file.body := by
  have opening : "/**\n * Generated HomeKit Type Definitions\n" =
      "/*" ++ ("*\n * " ++ ("Generated HomeKit Type Definitions" ++ "\n")) := by decide
  have closing : " * Re-exports all generated types, enums, and interfaces\n */\n\n" =
      " * Re-exports all generated types, enums, and interfaces\n " ++ ("*/" ++ "\n\n") := by decide
  unfold IndexFile.parts IndexFile.body
  simp only [textOf_cons, textOf_nil, Part.text, Comment.text]
  rw [opening, closing]
  simp only [String.append_assoc, String.append_empty]

/-- A source is its header and its parts. -/
theorem Source.text_eq_parts (stamp : String) (source : Source) :
    source.text stamp = header stamp ++ textOf source.parts := by
  rw [text]
  apply congrArg (header stamp ++ ·)
  cases source with
  | members file => exact (textOf_parts_enumFile file).symm
  | characteristic file => exact (textOf_parts_aliasFile file).symm
  | service file => exact (textOf_parts_interfaceFile file).symm
  | index file => exact (textOf_parts_indexFile file).symm

/-! ## Code without stars -/

theorem isStarless_literal {text : String} (starless : IsStarless text) :
    IsStarless (literal text) := by
  have escaped : ∀ c, c ≠ '*' → '*' ∉ escapeChar c := by
    intro c other
    rw [escapeChar]
    split
    · decide
    · split
      · decide
      · simpa using other.symm
  simp only [IsStarless, literal, String.toList_ofList, List.mem_append, List.mem_flatMap, not_or,
    not_exists, not_and]
  refine ⟨⟨by decide, ?_⟩, by decide⟩
  intro c member
  apply escaped
  rintro rfl
  exact starless member

theorem areSound_parts_member {plainLabel separator : String} {member : Member}
    (separated : IsStarless separator) (key : IsStarless member.key)
    (identifier : IsStarless member.identifier) : AreSound (member.parts plainLabel separator) := by
  have written := isStarless_literal identifier
  unfold Member.parts
  cases member.deprecated <;>
    simp only [areSound_nil, areSound_code, areSound_comment, areSound_append, isStarless_append,
      written, key, separated, if_true, if_false, Bool.false_eq_true, and_true] <;>
    and_intros <;>
    first | exact isStarless_ofList (by decide) | exact isFrame_ofList (by decide)

theorem areSound_memberParts {plainLabel : String} {members : List Member}
    (keys : ∀ member ∈ members, IsStarless member.key)
    (identifiers : ∀ member ∈ members, IsStarless member.identifier) :
    AreSound (memberParts plainLabel members) := by
  induction members using memberParts.induct with
  | case1 => exact areSound_nil.mpr trivial
  | case2 member =>
      exact areSound_parts_member (by decide) (keys member (by simp)) (identifiers member (by simp))
  | case3 member rest others ih =>
      rw [memberParts, areSound_append]
      · constructor
        · exact areSound_parts_member (by decide) (keys member (by simp))
            (identifiers member (by simp))
        · exact ih (fun other inRest => keys other (List.mem_cons_of_mem _ inRest))
            fun other inRest => identifiers other (List.mem_cons_of_mem _ inRest)
      · exact others

theorem areSound_parts_property {property : Property} (name : IsStarless property.name)
    (typeName : IsStarless property.typeName) : AreSound property.parts := by
  unfold Property.parts
  cases property.deprecated <;> cases property.isRequired <;>
    simp only [areSound_nil, areSound_code, areSound_comment, isStarless_append, name, typeName,
      if_true, if_false, Bool.false_eq_true, and_true, String.reduceAppend] <;>
    and_intros <;>
    first | exact isStarless_ofList (by decide) | exact isFrame_ofList (by decide)

/-- The words that are put into the code of a source. -/
def Source.words : Source → List String
  | members file => file.enumName ::
      (file.members.map Member.key ++ file.members.map Member.identifier)
  | characteristic file => [file.name, file.valueType]
  | service file => [file.name, file.identifier] ++ file.imports ++
      (file.properties.map Property.name ++ file.properties.map Property.typeName)
  | index file => file.aliases ++ file.interfaces

theorem areSound_parts_enumFile {file : EnumFile}
    (starless : ∀ word ∈ (Source.members file).words, IsStarless word) : AreSound file.parts := by
  simp only [Source.words, List.forall_mem_cons, List.forall_mem_append, List.forall_mem_map]
    at starless
  obtain ⟨enumName, keys, identifiers⟩ := starless
  have members : AreSound (memberParts file.plainLabel file.members) :=
    areSound_memberParts keys identifiers
  unfold EnumFile.parts
  simp only [areSound_append, areSound_nil, areSound_code, areSound_comment, isStarless_append,
    enumName, members, and_true]
  and_intros <;>
    first | exact isStarless_ofList (by decide) | exact isFrame_ofList (by decide)

/-- What marks an entry as deprecated ends a comment as it should. -/
theorem isFrame_deprecationLine {sort : String} (plain : '/' ∉ sort.toList) (deprecated : Bool) :
    IsFrame "*\n * " ("\n" ++ deprecationLine sort deprecated ++ " ") := by
  apply isFrame_of_absent
  · decide
  · exact Or.inr (by simp)
  · decide
  · cases deprecated with
    | false => simp [deprecationLine]
    | true => simp [deprecationLine, plain]

theorem areSound_parts_aliasFile {file : AliasFile}
    (starless : ∀ word ∈ (Source.characteristic file).words, IsStarless word) :
    AreSound file.parts := by
  simp only [Source.words, List.forall_mem_cons] at starless
  obtain ⟨name, valueType, _⟩ := starless
  have frame := isFrame_deprecationLine (by decide : '/' ∉ "characteristic".toList) file.deprecated
  unfold AliasFile.parts
  simp only [areSound_nil, areSound_code, areSound_comment, isStarless_append, name, valueType,
    frame, and_true, true_and]
  and_intros <;>
    exact isStarless_ofList (by decide)

theorem areSound_parts_interfaceFile {file : InterfaceFile}
    (starless : ∀ word ∈ (Source.service file).words, IsStarless word) : AreSound file.parts := by
  simp only [Source.words, List.forall_mem_cons, List.forall_mem_append, List.forall_mem_map]
    at starless
  obtain ⟨⟨⟨name, identifier, _⟩, imports⟩, names, typeNames⟩ := starless
  have imported : IsStarless (String.join (file.imports.map importLine)) := by
    rw [isStarless_join, List.forall_mem_map]
    intro name member
    unfold importLine
    simp only [isStarless_append, imports name member, and_true]
    and_intros <;> exact isStarless_ofList (by decide)
  have properties : AreSound (file.properties.flatMap Property.parts) :=
    areSound_flatMap.mpr fun property member =>
      areSound_parts_property (names property member) (typeNames property member)
  have written := isStarless_literal identifier
  have frame := isFrame_deprecationLine (by decide : '/' ∉ "service".toList) file.deprecated
  unfold InterfaceFile.parts
  simp only [areSound_append, areSound_nil, areSound_code, areSound_comment, isStarless_append,
    name, imported, properties, written, frame, and_true, true_and]
  and_intros <;>
    first | exact isStarless_ofList (by decide) | exact isFrame_ofList (by decide)

theorem isStarless_exportLines {directory : String} {names : List String}
    (plain : IsStarless directory) (starless : ∀ name ∈ names, IsStarless name) :
    IsStarless (String.join (names.map (exportLine directory))) := by
  rw [isStarless_join, List.forall_mem_map]
  intro name member
  unfold exportLine
  simp only [isStarless_append, starless name member, plain, and_true]
  and_intros <;> exact isStarless_ofList (by decide)

theorem areSound_parts_indexFile {file : IndexFile}
    (starless : ∀ word ∈ (Source.index file).words, IsStarless word) : AreSound file.parts := by
  obtain ⟨aliases, interfaces⟩ := List.forall_mem_append.mp starless
  have characteristics := isStarless_exportLines (by decide : IsStarless "characteristics") aliases
  have services := isStarless_exportLines (by decide : IsStarless "services") interfaces
  have frame : IsFrame "*\n * "
      ("\n" ++ " * Re-exports all generated types, enums, and interfaces\n ") := by
    simp only [String.reduceAppend]
    exact isFrame_ofList (by decide)
  unfold IndexFile.parts
  simp only [areSound_nil, areSound_code, areSound_comment, isStarless_append, characteristics,
    services, frame, and_true, true_and]
  and_intros <;>
    exact isStarless_ofList (by decide)

/-- A source has sound parts if the words in its code have no stars. -/
theorem areSound_parts {source : Source} (starless : ∀ word ∈ source.words, IsStarless word) :
    AreSound source.parts := by
  cases source with
  | members file => exact areSound_parts_enumFile starless
  | characteristic file => exact areSound_parts_aliasFile starless
  | service file => exact areSound_parts_interfaceFile starless
  | index file => exact areSound_parts_indexFile starless

/-! ## What stands in comments -/

/-- The texts that are inserted into the comments of a source, in order. -/
def Source.insertions : Source → List String
  | members file => file.label :: file.members.flatMap fun member =>
      member.comment :: if member.deprecated then [file.plainLabel] else []
  | characteristic file => [file.comment]
  | service file =>
      [file.name, file.comment, "Service type identifier", "Service characteristics"] ++
        file.properties.map Property.comment
  | index _ => ["Generated HomeKit Type Definitions"]

theorem comment_mem_insertions (file : EnumFile) {member : Member}
    (listed : member ∈ file.members) :
    member.comment ∈ (Source.members file).insertions :=
  List.mem_cons_of_mem _ (List.mem_flatMap.mpr ⟨member, listed, List.mem_cons_self⟩)

theorem map_inserted_parts_member (plainLabel separator : String) (member : Member) :
    (commentsOf (member.parts plainLabel separator)).map Comment.inserted =
      member.comment :: if member.deprecated then [plainLabel] else [] := by
  unfold Member.parts
  cases member.deprecated <;> rfl

theorem map_inserted_memberParts (plainLabel : String) (members : List Member) :
    (commentsOf (memberParts plainLabel members)).map Comment.inserted =
      members.flatMap fun member =>
        member.comment :: if member.deprecated then [plainLabel] else [] := by
  induction members using memberParts.induct with
  | case1 => rfl
  | case2 member =>
      rw [memberParts, map_inserted_parts_member, List.flatMap_cons, List.flatMap_nil,
        List.append_nil]
  | case3 member rest others ih =>
      rw [memberParts, commentsOf_append, List.map_append, map_inserted_parts_member, ih,
        List.flatMap_cons]
      exact others

theorem map_inserted_properties (properties : List Property) :
    (commentsOf (properties.flatMap Property.parts)).map Comment.inserted =
      properties.map Property.comment := by
  induction properties with
  | nil => rfl
  | cons property rest ih =>
      rw [List.flatMap_cons, commentsOf_append, List.map_append, ih]
      rfl

theorem map_inserted_commentsOf (source : Source) :
    (commentsOf source.parts).map Comment.inserted = source.insertions := by
  cases source with
  | members file =>
      unfold Source.parts EnumFile.parts
      simp only [commentsOf_append, commentsOf_comment, commentsOf_code, commentsOf_nil,
        List.map_append, List.map_cons, List.map_nil, map_inserted_memberParts, List.append_nil]
      rfl
  | characteristic file => rfl
  | service file =>
      unfold Source.parts InterfaceFile.parts
      simp only [commentsOf_append, commentsOf_comment, commentsOf_code, commentsOf_nil,
        List.map_append, List.map_cons, List.map_nil, map_inserted_properties, List.append_nil]
      rfl
  | index file => rfl

/-- The comments of a source are found as they were written exactly if no text that is inserted
closes its comment. -/
theorem blockComments_text_iff {stamp : String} {source : Source} (stamped : IsStarless stamp)
    (starless : ∀ word ∈ source.words, IsStarless word) :
    blockComments (source.text stamp) = (commentsOf source.parts).map Comment.text ↔
      ∀ text ∈ source.insertions, ¬Closes text := by
  have start : IsStarless (header stamp) := by
    unfold header
    simp only [isStarless_append, stamped, and_true]
    and_intros <;> exact isStarless_ofList (by decide)
  rw [source.text_eq_parts, blockComments_append_textOf_iff start (areSound_parts starless),
    ← map_inserted_commentsOf, List.forall_mem_map]

end HomeCatalog.Bindings.TypeScript
