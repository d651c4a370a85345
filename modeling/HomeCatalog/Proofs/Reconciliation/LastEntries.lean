import HomeCatalog.Reconciliation.Basic
import Mathlib.Data.List.Dedup

/-!
# Changes that go by names

Every change that a reconciliation makes to an entry gives it what is found for its name.  Metadata
speaks about the last entry of a name.  An entry with a later one of its name is shadowed by it: a
change of the last entries passes it over.
-/

namespace HomeCatalog.Reconciliation

variable {α : Type} {name : α → String}

/-! ## What is found for a name -/

/-- Give an entry what is found for its name. -/
def giveFound {β : Type} (name : α → String) (find : String → Option β) (give : α → β → α)
    (entry : α) : α :=
  (find (name entry)).elim entry (give entry)

section

variable {β : Type} {find : String → Option β} {give : α → β → α}

theorem name_giveFound (keeps : ∀ entry value, name (give entry value) = name entry)
    (entry : α) : name (giveFound name find give entry) = name entry := by
  rw [giveFound]
  cases find (name entry) with
  | none => rfl
  | some value => exact keeps entry value

/-- Giving the same again changes nothing if the second of two values counts. -/
theorem giveFound_giveFound (keeps : ∀ entry value, name (give entry value) = name entry)
    (again : ∀ entry value, give (give entry value) value = give entry value) (entry : α) :
    giveFound name find give (giveFound name find give entry) =
      giveFound name find give entry := by
  rw [giveFound, name_giveFound keeps, giveFound]
  cases find (name entry) with
  | none => rfl
  | some value => exact again entry value

end

theorem applySpecified_eq : applySpecified = giveFound Service.name specified? setReferences := by
  funext service
  rw [applySpecified, giveFound]
  cases specified? service.name <;> rfl

theorem applyStaged_eq (staged : List (String × List String × List String)) :
    applyStaged staged = giveFound Service.name (staged.lookup ·) setReferences := by
  funext service
  rw [applyStaged, giveFound]
  cases staged.lookup service.name <;> rfl

theorem applyHint_eq (formats : List (String × Text.Wide)) :
    applyHint formats = giveFound Characteristic.name (formats.lookup ·)
      fun entry format => { entry with valueKind := kindOfFormat format } := by
  funext entry
  rw [applyHint, giveFound]
  cases formats.lookup entry.name <;> rfl

theorem name_applyStaged (staged : List (String × List String × List String))
    (service : Service) : (applyStaged staged service).name = service.name := by
  rw [applyStaged_eq]
  apply name_giveFound
  intro _ _
  rfl

theorem name_applyHint (formats : List (String × Text.Wide)) (entry : Characteristic) :
    (applyHint formats entry).name = entry.name := by
  rw [applyHint_eq]
  apply name_giveFound
  intro _ _
  rfl

/-! ## The last entry of a name -/

theorem any_name_iff {title : String} {entries : List α} :
    (entries.any fun other => name other == title) = true ↔ title ∈ entries.map name := by
  simp

/-- A shadowed entry stays as it is. -/
theorem mapLast_cons_of_mem {entry : α} {rest : List α} (shadowed : name entry ∈ rest.map name)
    (change : α → α) :
    mapLast name change (entry :: rest) = entry :: mapLast name change rest := by
  rw [mapLast, if_pos (any_name_iff.mpr shadowed)]

/-- The last entry of its name is changed. -/
theorem mapLast_cons_of_notMem {entry : α} {rest : List α} (last : name entry ∉ rest.map name)
    (change : α → α) :
    mapLast name change (entry :: rest) = change entry :: mapLast name change rest := by
  rw [mapLast, if_neg fun later => last (any_name_iff.mp later)]

/-- An entry that a change leaves alone stays as it is, shadowed or not. -/
theorem mapLast_cons_of_fixed {change : α → α} {entry : α} (fixed : change entry = entry)
    (rest : List α) :
    mapLast name change (entry :: rest) = entry :: mapLast name change rest := by
  rw [mapLast, fixed, ite_self]

/-- Every entry keeps its place, and those that are not shadowed are changed. -/
theorem getElem?_mapLast (change : α → α) (entries : List α) (index : Nat) :
    (mapLast name change entries)[index]? =
      entries[index]?.map fun entry =>
        if name entry ∈ (entries.drop (index + 1)).map name then entry else change entry := by
  induction entries generalizing index with
  | nil => rfl
  | cons entry rest ih =>
      rw [mapLast]
      cases index with
      | zero => simp
      | succ index => simp [ih]

/-- A change that keeps the name of an entry keeps all names. -/
theorem map_name_mapLast {change : α → α} (keeps : ∀ entry, name (change entry) = name entry)
    (entries : List α) : (mapLast name change entries).map name = entries.map name := by
  induction entries with
  | nil => rfl
  | cons entry rest ih =>
      by_cases shadowed : name entry ∈ rest.map name
      · rw [mapLast_cons_of_mem shadowed, List.map_cons, List.map_cons, ih]
      · rw [mapLast_cons_of_notMem shadowed, List.map_cons, List.map_cons, ih, keeps]

/-- Two changes one after the other concern the same entries. -/
theorem mapLast_mapLast {first : α → α} (keeps : ∀ entry, name (first entry) = name entry)
    (second : α → α) (entries : List α) :
    mapLast name second (mapLast name first entries) =
      mapLast name (fun entry => second (first entry)) entries := by
  induction entries with
  | nil => rfl
  | cons entry rest ih =>
      have names := map_name_mapLast keeps rest
      by_cases shadowed : name entry ∈ rest.map name
      · rw [mapLast_cons_of_mem shadowed, mapLast_cons_of_mem shadowed,
          mapLast_cons_of_mem (by rw [names]; exact shadowed), ih]
      · rw [mapLast_cons_of_notMem shadowed, mapLast_cons_of_notMem shadowed,
          mapLast_cons_of_notMem (by rw [names, keeps]; exact shadowed), ih]

/-- A change that is made again changes nothing. -/
theorem mapLast_again {change : α → α} (keeps : ∀ entry, name (change entry) = name entry)
    (again : ∀ entry, change (change entry) = change entry) (entries : List α) :
    mapLast name change (mapLast name change entries) = mapLast name change entries := by
  rw [mapLast_mapLast keeps, funext again]

/-- Where only changes make entries count, and by their names, as many entries count as names. -/
theorem countP_mapLast {change : α → α} {counts : α → Bool} {decides : String → Bool}
    {entries : List α} (before : ∀ entry ∈ entries, counts entry = false)
    (after : ∀ entry ∈ entries, counts (change entry) = decides (name entry)) :
    (mapLast name change entries).countP counts = (entries.map name).dedup.countP decides := by
  induction entries with
  | nil => rfl
  | cons entry rest ih =>
      rw [List.forall_mem_cons] at before after
      have later := ih before.2 after.2
      by_cases shadowed : name entry ∈ rest.map name
      · rw [mapLast_cons_of_mem shadowed, List.map_cons, List.dedup_cons_of_mem shadowed,
          List.countP_cons_of_neg (by simp [before.1]), later]
      · rw [mapLast_cons_of_notMem shadowed, List.map_cons, List.dedup_cons_of_notMem shadowed,
          List.countP_cons, List.countP_cons, after.1, later]

end HomeCatalog.Reconciliation
