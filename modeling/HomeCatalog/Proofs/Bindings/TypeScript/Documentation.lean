import HomeCatalog.Proofs.Bindings.References
import HomeCatalog.Proofs.Bindings.Repeats
import HomeCatalog.Proofs.Bindings.TypeScript.Comments
import HomeCatalog.Proofs.Calendar.Stamp
import HomeCatalog.Proofs.Catalog.Texts
import HomeCatalog.Proofs.Order

/-!
# Documentation in generated TypeScript

Every text that stands in a comment of a generated source is a single line.  Names are made of
words, so of all these texts only documentation can close a comment.  Whichever documentation does
so, it breaks the enum that lists its entry.
-/

namespace HomeCatalog.Bindings.TypeScript

open Identifier

/-! ## Quiet names -/

/-- Whether a text holds neither line feeds nor stars. -/
def IsQuiet (text : String) : Prop :=
  ∀ c ∈ text.toList, Text.isQuiet c = true

instance (text : String) : Decidable (IsQuiet text) :=
  List.decidableBAll (fun c => Text.isQuiet c = true) text.toList

theorem IsQuiet.isStarless {text : String} (quiet : IsQuiet text) : IsStarless text := by
  intro star
  exact absurd (quiet '*' star) (by decide)

theorem IsQuiet.feed_notMem {text : String} (quiet : IsQuiet text) : '\n' ∉ text.toList := by
  intro feed
  exact absurd (quiet '\n' feed) (by decide)

theorem IsQuiet.append {left right : String} (leftQuiet : IsQuiet left)
    (rightQuiet : IsQuiet right) : IsQuiet (left ++ right) := by
  rw [IsQuiet, String.toList_append, List.forall_mem_append]
  exact ⟨leftQuiet, rightQuiet⟩

theorem isQuiet_sanitize (raw : String) : IsQuiet (sanitize raw) := by
  rw [IsQuiet, toList_sanitize]
  exact fun c member => Text.isQuiet_of_isWordChar (List.mem_filter.mp member).2

theorem isQuiet_lowerCamel (raw : String) : IsQuiet (lowerCamel raw) := by
  rw [IsQuiet, lowerCamel, toList_lowerFirst, toList_sanitize]
  exact Text.isQuiet_lowerHead fun c member => (List.mem_filter.mp member).2

theorem holdsOfWords_isQuiet : HoldsOfWords fun c => Text.isQuiet c = true :=
  ⟨Text.isQuiet_of_isWordChar, Text.isQuiet_upperChar⟩

theorem isQuiet_typeName {suffix : String} (quiet : IsQuiet suffix) (raw : String) :
    IsQuiet (typeName raw suffix) :=
  holdsOfWords_isQuiet.typeName quiet raw

theorem isQuiet_of_isDigit {c : Char} (digit : c.isDigit = true) : Text.isQuiet c = true :=
  Text.isQuiet_of_isWordChar (Text.isWordChar_of_isDigit digit)

/-- The names that a namespace assigns are quiet if its normalized names are. -/
theorem isQuiet_nameOf {normalize : String → String} (quiet : ∀ raw, IsQuiet (normalize raw))
    (requests : List NameRequest) (identifier : String) :
    IsQuiet ((assign (.ofNormalize normalize) requests).nameOf identifier) := by
  refine forall_mem_nameOf_assign (.ofNormalize normalize) quiet ?_ ?_ ?_ _ _
  · simp [Namespace.ofNormalize]
  · decide
  · exact fun c digit => isQuiet_of_isDigit digit

/-! ## The words in the code -/

section

variable {catalog : Catalog}

/-- What holds of the files of all entries, and of the three files besides, holds of all sources. -/
theorem forall_mem_sources (holds : Source → Prop) :
    (∀ file ∈ sources catalog, holds file.2) ↔
      (holds (.members (serviceEnum catalog (Names.ofCatalog catalog))) ∧
        holds (.members (characteristicEnum catalog (Names.ofCatalog catalog)))) ∧
      (∀ entry ∈ catalog.characteristics,
        holds (.characteristic (aliasFile (Names.ofCatalog catalog) entry))) ∧
      (∀ entry ∈ catalog.services,
        holds (.service (interfaceFile (Names.ofCatalog catalog) catalog.characteristicsByName
          entry))) ∧
      holds (.index (indexFile catalog (Names.ofCatalog catalog))) := by
  simp only [sources, List.forall_mem_append, List.forall_mem_cons, List.forall_mem_map,
    Catalog.mem_sortedCharacteristics, Catalog.mem_sortedServices, List.not_mem_nil, false_implies,
    implies_true, and_true, and_assoc]

/-- Whether no name of a catalog holds a line feed or a star. -/
def HasQuietNames (catalog : Catalog) : Prop :=
  ∀ name ∈ catalog.names, IsQuiet name

theorem isQuiet_key (requests : List NameRequest) (identifier : String) :
    IsQuiet ((assign keyRules requests).nameOf identifier) :=
  isQuiet_nameOf (fun _ => isQuiet_sanitize _) requests identifier

theorem isQuiet_interface (requests : List NameRequest) (identifier : String) :
    IsQuiet ((assign interfaceRules requests).nameOf identifier) :=
  isQuiet_nameOf (isQuiet_typeName (by decide)) requests identifier

theorem isQuiet_alias (requests : List NameRequest) (identifier : String) :
    IsQuiet ((assign aliasRules requests).nameOf identifier) :=
  isQuiet_nameOf (isQuiet_typeName (by decide)) requests identifier

theorem isQuiet_property {requests : List (String × String)} :
    ∀ name ∈ ((Allocator.new propertyRules).allocateAll requests).1, IsQuiet name := by
  intro name member
  have normalized : ∀ raw, ∀ c ∈ (propertyRules.normalize raw).toList, Text.isQuiet c = true :=
    isQuiet_lowerCamel
  have role : IsQuiet (Allocator.new propertyRules).rules.roleWord := by decide
  exact (Allocator.new propertyRules).forall_mem_of_mem_allocateAll _ normalized role
    (by decide) (fun c digit => isQuiet_of_isDigit digit) member

/-- Every word in the code of a generated source is quiet if the names of the catalog are. -/
theorem isQuiet_of_mem_words (quiet : HasQuietNames catalog) :
    ∀ file ∈ sources catalog, ∀ word ∈ file.2.words, IsQuiet word := by
  obtain ⟨services, characteristics⟩ := Catalog.forall_mem_names.mp quiet
  refine (forall_mem_sources fun source => ∀ word ∈ source.words, IsQuiet word).mpr
    ⟨⟨?_, ?_⟩, ?_, ?_, ?_⟩
  · simp only [Source.words, serviceEnum, List.forall_mem_cons, List.forall_mem_append,
      List.forall_mem_map, Catalog.mem_sortedServices]
    refine ⟨by decide, fun _ _ => isQuiet_key _ _, ?_⟩
    exact fun entry member => services entry member _ (by simp [Service.names])
  · simp only [Source.words, characteristicEnum, List.forall_mem_cons, List.forall_mem_append,
      List.forall_mem_map, Catalog.mem_sortedCharacteristics]
    refine ⟨by decide, fun _ _ => isQuiet_key _ _, ?_⟩
    exact fun entry member => characteristics entry member _ (by simp [Characteristic.names])
  · intro entry _
    have kinds : ∀ kind, IsQuiet (valueType kind) := by
      intro kind
      cases kind <;> decide
    simp only [Source.words, aliasFile, List.forall_mem_cons]
    exact ⟨isQuiet_alias _ _, kinds entry.valueKind, by simp⟩
  · intro entry member
    have identifier := services entry member entry.identifier (by simp [Service.names])
    simp only [Source.words, interfaceFile, List.forall_mem_cons, List.forall_mem_append]
    refine ⟨⟨⟨isQuiet_interface _ _, identifier, by simp⟩, ?_⟩, ?_, ?_⟩
    · intro word imported
      rw [importsOf, mem_sortNames, List.mem_eraseDups] at imported
      obtain ⟨reference, _, rfl⟩ := List.mem_map.mp imported
      exact isQuiet_alias _ _
    · rw [properties, map_zipWith_right (by simp) fun _ _ => rfl]
      exact isQuiet_property
    · rw [List.forall_mem_map]
      exact forall_mem_zipWith fun _ _ => isQuiet_alias _ _
  · simp only [Source.words, indexFile, List.forall_mem_append, List.forall_mem_map]
    exact ⟨fun _ _ => isQuiet_alias _ _, fun _ _ => isQuiet_interface _ _⟩

/-! ## The texts in comments -/

/-- The texts that may stand in a comment: those without line feeds and stars, and the documentation
of an entry, for which such a text may step in. -/
inductive IsRemark (catalog : Catalog) : String → Prop where
  | quiet {text : String} (quiet : IsQuiet text) : IsRemark catalog text
  | documentation {documentation : Option String} {default : String}
      (known : ∀ text ∈ documentation, text ∈ catalog.documentations) (quiet : IsQuiet default) :
      IsRemark catalog (commentText documentation default)

/-- A remark is a single line. -/
theorem IsRemark.feed_notMem {text : String} (remark : IsRemark catalog text) :
    '\n' ∉ text.toList := by
  cases remark with
  | quiet quiet => exact quiet.feed_notMem
  | documentation _ _ => exact feed_notMem_commentText _ _

theorem documentation_mem_of_service {service : Service} (member : service ∈ catalog.services) :
    ∀ text ∈ service.documentation, text ∈ catalog.documentations := by
  intro text documented
  exact List.mem_append_left _ (List.mem_filterMap.mpr ⟨service, member, documented⟩)

theorem documentation_mem_of_characteristic {characteristic : Characteristic}
    (member : characteristic ∈ catalog.characteristics) :
    ∀ text ∈ characteristic.documentation, text ∈ catalog.documentations := by
  intro text documented
  exact List.mem_append_right _ (List.mem_filterMap.mpr ⟨characteristic, member, documented⟩)

/-- The properties of a service show whether its references are required, and their names. -/
theorem map_comment_properties (names : Names) (references : List Reference) :
    (properties names references).map Property.comment =
      references.map fun reference =>
        referenceWord reference.isRequired ++ " characteristic: " ++
          reference.characteristic.name :=
  map_zipWith_left (by simp) fun _ _ => rfl

/-- All comments of generated sources are remarks if the names of the catalog are quiet. -/
theorem isRemark_of_mem_insertions (quiet : HasQuietNames catalog) :
    ∀ file ∈ sources catalog, ∀ text ∈ file.2.insertions, IsRemark catalog text := by
  obtain ⟨services, characteristics⟩ := Catalog.forall_mem_names.mp quiet
  have serviceName : ∀ entry ∈ catalog.services, IsQuiet entry.name :=
    fun entry member => services entry member _ (by simp [Service.names])
  have characteristicName : ∀ entry ∈ catalog.characteristics, IsQuiet entry.name :=
    fun entry member => characteristics entry member _ (by simp [Characteristic.names])
  refine (forall_mem_sources fun source =>
    ∀ text ∈ source.insertions, IsRemark catalog text).mpr ⟨⟨?_, ?_⟩, ?_, ?_, ?_⟩
  · simp only [Source.insertions, serviceEnum, List.forall_mem_cons, List.forall_mem_flatMap,
      List.forall_mem_map, Catalog.mem_sortedServices]
    refine ⟨.quiet (by decide), fun entry member => ⟨?_, ?_⟩⟩
    · exact .documentation (documentation_mem_of_service member)
        (IsQuiet.append (by decide) (serviceName entry member))
    · split
      · exact List.forall_mem_singleton.mpr (.quiet (by decide))
      · exact fun _ none => absurd none List.not_mem_nil
  · simp only [Source.insertions, characteristicEnum, List.forall_mem_cons, List.forall_mem_flatMap,
      List.forall_mem_map, Catalog.mem_sortedCharacteristics]
    refine ⟨.quiet (by decide), fun entry member => ⟨?_, ?_⟩⟩
    · exact .documentation (documentation_mem_of_characteristic member)
        (IsQuiet.append (by decide) (characteristicName entry member))
    · split
      · exact List.forall_mem_singleton.mpr (.quiet (by decide))
      · exact fun _ none => absurd none List.not_mem_nil
  · intro entry member
    refine List.forall_mem_singleton.mpr ?_
    exact .documentation (documentation_mem_of_characteristic member)
      (IsQuiet.append (by decide) (characteristicName entry member))
  · intro entry member
    simp only [Source.insertions, interfaceFile, List.forall_mem_append, List.forall_mem_cons]
    refine ⟨⟨.quiet (isQuiet_interface _ _), ?_, .quiet (by decide), .quiet (by decide), by simp⟩,
      ?_⟩
    · exact .documentation (documentation_mem_of_service member)
        (IsQuiet.append (by decide) (serviceName entry member))
    · rw [map_comment_properties, List.forall_mem_map]
      intro reference referred
      have inCatalog := (mem_of_mem_references referred).1
      have word : IsQuiet (referenceWord reference.isRequired) := by
        cases reference.isRequired <;> decide
      exact .quiet ((word.append (by decide)).append (characteristicName _ inCatalog))
  · exact List.forall_mem_singleton.mpr (.quiet (by decide))

/-! ## Documentation that closes comments -/

/-- Replacing characters that are no part of a closing mark by others that are none leaves all
closing marks. -/
theorem infix_map_iff {f : Char → Char} (star : ∀ c, f c = '*' ↔ c = '*')
    (slash : ∀ c, f c = '/' ↔ c = '/') (cs : List Char) :
    ['*', '/'] <:+: cs.map f ↔ ['*', '/'] <:+: cs := by
  have starts : ∀ cs : List Char, ['*', '/'] <+: cs.map f ↔ ['*', '/'] <+: cs := by
    intro cs
    match cs with
    | [] => simp
    | [c] => simp
    | c :: d :: rest =>
        simp only [List.map_cons, List.cons_prefix_cons, List.nil_prefix, and_true,
          eq_comm (a := '*'), eq_comm (a := '/'), star, slash]
  induction cs with
  | nil => simp
  | cons c rest ih =>
      rw [List.map_cons, List.infix_cons_iff, List.infix_cons_iff]
      exact or_congr (starts (c :: rest)) ih

/-- What a comment shows of an entry: its documentation, or something else where there is none. -/
def shownText (documentation : Option String) (default : String) : String :=
  match documentation with
  | some text => if text.isEmpty then default else text
  | none => default

/-- Writing a text in a single line leaves its closing marks. -/
theorem closes_commentText (documentation : Option String) (default : String) :
    Closes (commentText documentation default) ↔ Closes (shownText documentation default) := by
  have image : ∀ text : List Char, Text.replaceChar '\n' [' '] text =
      text.map fun c => if c = '\n' then ' ' else c := by
    intro text
    rw [Text.replaceChar, ← List.flatMap_singleton' (text.map _), List.flatMap_map]
    apply List.flatMap_congr
    intro c _
    split <;> rfl
  have written : commentText documentation default =
      String.ofList (Text.replaceChar '\n' [' '] (shownText documentation default).toList) := rfl
  rw [written, Closes, String.toList_ofList, image]
  apply infix_map_iff
  · intro c
    split
    · next feed =>
        subst feed
        decide
    · rfl
  · intro c
    split
    · next feed =>
        subst feed
        decide
    · rfl

/-- What a comment shows closes it exactly if the documentation does. -/
theorem closes_commentText_iff {documentation : Option String} {default : String}
    (quiet : IsQuiet default) :
    Closes (commentText documentation default) ↔ ∃ text ∈ documentation, Closes text := by
  have plain : ¬Closes default := not_closes_of_isStarless quiet.isStarless
  rw [closes_commentText]
  cases documentation with
  | none => simp [shownText, plain]
  | some text =>
      by_cases empty : text = ""
      · subst empty
        simpa [shownText, Closes] using plain
      · simp [shownText, empty]

/-- The texts of the files of a catalog below which a lexer finds the comments as they were
written. -/
inductive KeepsComments (catalog : Catalog) (stamp : String) : String × String → Prop where
  | intro {path : String} {source : Source} (stored : (path, source) ∈ sources catalog)
      (kept : blockComments (header stamp ++ textOf source.parts) =
        (commentsOf source.parts).map Comment.text) :
      KeepsComments catalog stamp (path, header stamp ++ textOf source.parts)

/-- The texts of the files of a catalog, with comments of which each holds a single line besides
what is fixed. -/
inductive IsCommented (catalog : Catalog) (stamp : String) : String × String → Prop where
  | intro {path : String} {source : Source} (stored : (path, source) ∈ sources catalog)
      (oneLine : ∀ comment ∈ commentsOf source.parts, '\n' ∉ comment.inserted.toList) :
      IsCommented catalog stamp (path, header stamp ++ textOf source.parts)

/-- Every file of the tree is written from a source. -/
theorem exists_source_of_mem_tree {stamp : String} {file : String × String}
    (rendered : file ∈ tree stamp catalog) :
    ∃ path source, (path, source) ∈ sources catalog ∧
      file = (path, header stamp ++ textOf source.parts) := by
  have consistent := Entries.areConsistent_of_nodup (Entries.nodup_keys_ofPairs
    ((sources catalog).map fun entry => (entry.1, entry.2.text stamp)))
  have found := Entries.mem_of_lookup_ofPairs (consistent.lookup_eq_some_iff.mpr rendered)
  obtain ⟨⟨path, source⟩, stored, same⟩ := List.mem_map.mp found
  exact ⟨path, source, stored, by rw [← source.text_eq_parts]; exact same.symm⟩

section

variable (quiet : HasQuietNames catalog)

include quiet

/-- All files hold comments of single lines. -/
theorem isCommented_of_mem_tree {stamp : String} :
    ∀ file ∈ tree stamp catalog, IsCommented catalog stamp file := by
  intro file rendered
  obtain ⟨path, source, stored, rfl⟩ := exists_source_of_mem_tree rendered
  refine .intro stored ?_
  intro comment written
  have inserted : comment.inserted ∈ source.insertions :=
    map_inserted_commentsOf source ▸ List.mem_map_of_mem written
  exact (isRemark_of_mem_insertions quiet _ stored _ inserted).feed_notMem

/-- A source keeps its comments exactly if no text that is inserted into them closes one. -/
theorem kept_iff {stamp path : String} (stamped : IsStarless stamp) {source : Source}
    (stored : (path, source) ∈ sources catalog) :
    blockComments (header stamp ++ textOf source.parts) =
        (commentsOf source.parts).map Comment.text ↔
      ∀ text ∈ source.insertions, ¬Closes text := by
  rw [← source.text_eq_parts]
  exact blockComments_text_iff stamped fun word member =>
    (isQuiet_of_mem_words quiet _ stored word member).isStarless

/-- An enum that keeps its comments shows no documentation that closes one. -/
theorem not_closes_of_keepsComments {stamp path : String} (stamped : IsStarless stamp)
    {file : EnumFile} (stored : (path, .members file) ∈ sources catalog)
    (kept : KeepsComments catalog stamp (path, (Source.members file).text stamp)) :
    ∀ member ∈ file.members, ¬Closes member.comment := by
  intro member listed
  generalize text : (Source.members file).text stamp = written at kept
  obtain ⟨same, kept⟩ := kept
  obtain rfl := eq_members_of_mem_sources stored same
  exact (kept_iff quiet stamped stored).mp kept _ (comment_mem_insertions file listed)

/-- All files keep their comments exactly if no documentation closes one. -/
theorem keepsComments_iff {stamp : String} (stamped : IsStarless stamp) :
    (∀ file ∈ tree stamp catalog, KeepsComments catalog stamp file) ↔
      ∀ text ∈ catalog.documentations, ¬Closes text := by
  obtain ⟨services, characteristics⟩ := Catalog.forall_mem_names.mp quiet
  constructor
  · intro kept
    have enum : ∀ {path file}, (path, Source.members file) ∈ sources catalog →
        ∀ member ∈ file.members, ¬Closes member.comment := by
      intro path file stored
      apply not_closes_of_keepsComments quiet stamped stored
      exact kept _ (Entries.mem_of_lookup (lookup_tree_members stored stamp))
    rw [Catalog.documentations, List.forall_mem_append]
    constructor
    · intro text known closes
      obtain ⟨entry, member, documented⟩ := List.mem_filterMap.mp known
      have listed := enum (members_mem_sources.mpr (.inl ⟨rfl, rfl⟩)) _
        (List.mem_map_of_mem (Catalog.mem_sortedServices.mpr member))
      have named : IsQuiet entry.name := services entry member _ (by simp [Service.names])
      exact listed ((closes_commentText_iff (IsQuiet.append (by decide) named)).mpr
        ⟨text, documented, closes⟩)
    · intro text known closes
      obtain ⟨entry, member, documented⟩ := List.mem_filterMap.mp known
      have listed := enum (members_mem_sources.mpr (.inr ⟨rfl, rfl⟩)) _
        (List.mem_map_of_mem (Catalog.mem_sortedCharacteristics.mpr member))
      have named : IsQuiet entry.name :=
        characteristics entry member _ (by simp [Characteristic.names])
      exact listed ((closes_commentText_iff (IsQuiet.append (by decide) named)).mpr
        ⟨text, documented, closes⟩)
  · intro harmless file rendered
    obtain ⟨path, source, stored, rfl⟩ := exists_source_of_mem_tree rendered
    refine .intro stored ((kept_iff quiet stamped stored).mpr ?_)
    intro text inserted
    cases isRemark_of_mem_insertions quiet _ stored text inserted with
    | quiet quiet => exact not_closes_of_isStarless quiet.isStarless
    | documentation known quiet =>
        rw [closes_commentText_iff quiet]
        rintro ⟨text, documented, closes⟩
        exact harmless text (known text documented) closes

end

end

end HomeCatalog.Bindings.TypeScript
