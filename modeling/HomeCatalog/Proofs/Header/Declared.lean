import HomeCatalog.Header.Declaration
import HomeCatalog.Proofs.Text.Cutting
import HomeCatalog.Proofs.Text.Words

/-!
# What a header can declare

Whatever the text of a header is, the names that it declares are words, and the documentation holds
nothing but characters of the header and spaces.
-/

namespace HomeCatalog.Header

/-! ## Names -/

theorem isWord_of_named? {stem : String} {cs name after : List Char}
    (found : named? stem cs = some (name, after)) : Text.IsWord name := by
  rw [named?, Option.bind_eq_bind, Option.bind_eq_some_iff] at found
  obtain ⟨body, _, found⟩ := found
  dsimp only at found
  split at found
  · cases found
  · next filled =>
      cases found
      exact ⟨by simpa using filled, fun c member => List.mem_takeWhile_imp member⟩

theorem isWord_serviceStem : Text.IsWord serviceStem.toList :=
  ⟨by decide, List.all_eq_true.mp (by decide)⟩

theorem isWord_characteristicStem : Text.IsWord characteristicStem.toList :=
  ⟨by decide, List.all_eq_true.mp (by decide)⟩

/-! ## Documentation -/

/-- A comment holds nothing but characters of its line. -/
theorem subset_of_commentBody? {line body : List Char} (comment : commentBody? line = some body) :
    body ⊆ line := by
  rw [commentBody?] at comment
  split at comment
  · cases comment
    exact ((Text.strip_sublist _).trans (List.dropWhile_suffix _).sublist).subset
  · cases comment

theorem exists_line_of_mem_commentsAbove {above : List (List Char)} {body : List Char}
    (member : body ∈ commentsAbove above) : ∃ line ∈ above, body ⊆ line := by
  induction above with
  | nil => cases member
  | cons line rest ih =>
      have later : body ∈ commentsAbove rest → ∃ other ∈ line :: rest, body ⊆ other := by
        intro inRest
        obtain ⟨other, inAbove, subset⟩ := ih inRest
        exact ⟨other, List.mem_cons_of_mem _ inAbove, subset⟩
      rw [commentsAbove] at member
      split at member
      · exact later member
      · next _ comment =>
          rcases List.mem_cons.mp member with rfl | inRest
          · exact ⟨line, by simp,
              List.Subset.trans (subset_of_commentBody? comment) (Text.strip_sublist line).subset⟩
          · exact later inRest
      · split at member
        · exact later member
        · cases member

/-- Documentation holds nothing but characters of the text before and spaces. -/
theorem mem_of_documentationAfter {before : List Char} {text : String}
    (documented : documentationAfter before = some text) :
    ∀ c ∈ text.toList, c ∈ before ∨ c = ' ' := by
  rw [documentationAfter] at documented
  split at documented
  · cases documented
  · next bodies _ =>
      cases documented
      intro c member
      rw [String.toList_ofList] at member
      rcases Text.mem_of_mem_joinWith member with space | ⟨body, inBodies, inside⟩
      · exact Or.inr (List.mem_singleton.mp space)
      · obtain ⟨line, inLines, subset⟩ :=
          exists_line_of_mem_commentsAbove (List.mem_reverse.mp inBodies)
        exact Or.inl (Text.subset_of_mem_splitOn (List.mem_reverse.mp inLines) (subset inside))

/-! ## Declarations -/

/-- Every declaration that is found has a word for its name, and documentation from the text. -/
theorem declared_of_mem_declarationsFrom {stem : String} {skip : Nat} {before cs : List Char}
    {declaration : Declaration} (member : declaration ∈ declarationsFrom stem skip before cs) :
    Text.IsWord declaration.name.toList ∧
      ∀ text ∈ declaration.documentation, ∀ c ∈ text.toList, c ∈ before ∨ c ∈ cs ∨ c = ' ' := by
  -- The search only moves characters from the text ahead to the text before.
  have moved : ∀ {before rest : List Char} {c d : Char},
      d ∈ c :: before ∨ d ∈ rest ∨ d = ' ' → d ∈ before ∨ d ∈ c :: rest ∨ d = ' ' := by
    intro before rest c d place
    simp only [List.mem_cons] at place ⊢
    tauto
  induction skip, before, cs using declarationsFrom.induct stem with
  | case1 skip before => cases member
  | case2 skip before c rest ih =>
      obtain ⟨word, documented⟩ := ih member
      constructor
      · exact word
      · intro text described d inText
        exact moved (documented text described d inText)
  | case3 before c rest absent ih =>
      rw [declarationsFrom, absent] at member
      obtain ⟨word, documented⟩ := ih member
      constructor
      · exact word
      · intro text described d inText
        exact moved (documented text described d inText)
  | case4 before c rest name after found ih =>
      rw [declarationsFrom, found] at member
      rcases List.mem_cons.mp member with rfl | later
      · constructor
        · simpa using isWord_of_named? found
        · intro text described d inText
          rcases mem_of_documentationAfter described d inText with inBefore | space
          · exact Or.inl (List.mem_reverse.mp inBefore)
          · exact Or.inr (Or.inr space)
      · obtain ⟨word, documented⟩ := ih later
        constructor
        · exact word
        · intro text described d inText
          exact moved (documented text described d inText)

/-- The names that a header declares behind a stem, in order and with repeats. -/
def declaredNames (stem header : String) : List String :=
  (declarations stem header).map Declaration.name

/-- The names that a header declares are words. -/
theorem isWord_of_mem_declarations {stem header : String} {declaration : Declaration}
    (member : declaration ∈ declarations stem header) :
    Text.IsWord declaration.name.toList :=
  (declared_of_mem_declarationsFrom member).1

/-- The documentation that a header declares holds nothing but its characters and spaces. -/
theorem mem_of_mem_declarations {stem header text : String} {declaration : Declaration}
    (member : declaration ∈ declarations stem header)
    (documented : declaration.documentation = some text) :
    ∀ c ∈ text.toList, c ∈ header.toList ∨ c = ' ' := by
  intro c inText
  rcases (declared_of_mem_declarationsFrom member).2 text documented c inText with
    inBefore | inHeader | space
  · cases inBefore
  · exact Or.inl inHeader
  · exact Or.inr space

end HomeCatalog.Header
