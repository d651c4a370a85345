import HomeCatalog.Proofs.Catalog.Sorting
import HomeCatalog.Proofs.Reconciliation.Decision

/-!
# Format hints

A format hint is about a name, and it reaches the last characteristic of that name.  Where a name
is declared once, or the earlier declarations have the kind that the hint states, every
characteristic ends up with the kind of its hint.  Otherwise the earlier declarations are passed
over.
-/

namespace HomeCatalog.Reconciliation

open Metadata

variable {formats : List (String × Text.Wide)} {entry : Characteristic}

theorem applyHint_of_lookup_none (unhinted : formats.lookup entry.name = none) :
    applyHint formats entry = entry := by
  rw [applyHint, unhinted]

theorem applyHint_of_lookup_some {format : Text.Wide}
    (hinted : formats.lookup entry.name = some format) :
    applyHint formats entry = { entry with valueKind := kindOfFormat format } := by
  rw [applyHint, hinted]

/-! ## What the hints make of the kinds -/

/-- Whether characteristics have taken format hints: every characteristic that a hint is about has
the kind that it states, and every other is as before. -/
structure HaveTakenHints (formats : List (String × Text.Wide))
    (before after : List Characteristic) : Prop where
  hinted : ∀ entry ∈ after, ∀ format, formats.lookup entry.name = some format →
    entry.valueKind = kindOfFormat format
  unhinted : ∀ (index : Nat) (entry : Characteristic), before[index]? = some entry →
    formats.lookup entry.name = none → after[index]? = some entry

/-- Whether every characteristic that is shadowed by a later one of its name has the kind that the
hint about it states, if there is one. -/
def ShadowedFollowHints (formats : List (String × Text.Wide)) (entries : List Characteristic) :
    Prop :=
  ∀ (index : Nat) (entry : Characteristic) (format : Text.Wide), entries[index]? = some entry →
    entry.name ∈ (entries.drop (index + 1)).map Characteristic.name →
    formats.lookup entry.name = some format → entry.valueKind = kindOfFormat format

/-- Hints reach the last characteristics of their names, so all characteristics have taken them if
the shadowed ones needed no change. -/
theorem haveTakenHints_mapLast_iff (formats : List (String × Text.Wide))
    (entries : List Characteristic) :
    HaveTakenHints formats entries (mapLast Characteristic.name (applyHint formats) entries) ↔
      ShadowedFollowHints formats entries := by
  constructor
  · intro taken index entry format found shadowed isHinted
    have kept : (mapLast Characteristic.name (applyHint formats) entries)[index]? =
        some entry := by
      rw [getElem?_mapLast, found, Option.map_some, if_pos shadowed]
    exact taken.hinted entry (List.mem_of_getElem? kept) format isHinted
  · intro follow
    constructor
    · intro entry member format isHinted
      obtain ⟨index, found⟩ := List.mem_iff_getElem?.mp member
      rw [getElem?_mapLast] at found
      obtain ⟨before, present, changed⟩ := Option.map_eq_some_iff.mp found
      split at changed
      · next shadowed =>
          cases changed
          exact follow index _ format present shadowed isHinted
      · next last =>
          rw [← changed, name_applyHint] at isHinted
          rw [← changed, applyHint_of_lookup_some isHinted]
    · intro index entry found isUnhinted
      rw [getElem?_mapLast, found, Option.map_some, applyHint_of_lookup_none isUnhinted, ite_self]

theorem unmatchedHints_perm (formats : List (String × Text.Wide)) (catalog : Catalog) :
    (unmatchedHints formats catalog).Perm
      ((formats.map Prod.fst).filter fun name => name ∉ catalog.characteristicNames) := by
  have absent : (fun name => !catalog.characteristicNames.contains name) = fun name =>
      decide (name ∉ catalog.characteristicNames) := by
    funext name
    simp
  rw [unmatchedHints, absent]
  exact List.mergeSort_perm _ _

/-- A hint is listed as unmatched exactly if there is one about no characteristic. -/
theorem unmatchedHints_ne_nil_iff (formats : List (String × Text.Wide)) (catalog : Catalog) :
    unmatchedHints formats catalog ≠ [] ↔
      ∃ name ∈ formats.map Prod.fst, name ∉ catalog.characteristicNames := by
  rw [ne_eq, List.eq_nil_iff_forall_not_mem]
  simp only [(unmatchedHints_perm formats catalog).mem_iff, List.mem_filter, decide_eq_true_eq,
    not_forall, not_not]

/-- Whichever strategy gives the references, every characteristic takes the hint about it exactly if
the shadowed ones follow it already.  The summary counts the kinds that changed, and lists the hints
that are about no characteristic. -/
theorem haveTakenHints_reconcile_iff (catalog : Catalog) (metadata : Relationships) :
    (HaveTakenHints metadata.formats catalog.characteristics
        (reconcile catalog (some metadata)).catalog.characteristics ↔
      ShadowedFollowHints metadata.formats catalog.characteristics) ∧
    (reconcile catalog (some metadata)).summary.upgradedValueKinds =
      changedKinds catalog (reconcile catalog (some metadata)).catalog ∧
    (reconcile catalog (some metadata)).summary.unmatchedFormatHints.Perm
      ((metadata.formats.map Prod.fst).filter fun name => name ∉ catalog.characteristicNames) ∧
    (reconcile catalog (some metadata)).summary.unmatchedFormatHints.Pairwise (· ≤ ·) := by
  have characteristics := characteristics_reconcileWith catalog metadata
  have summary := summary_reconcileWith catalog metadata
  rw [reconcile]
  constructor
  · rw [characteristics]
    exact haveTakenHints_mapLast_iff metadata.formats catalog.characteristics
  · rw [summary, changedKinds, characteristics]
    exact ⟨rfl, unmatchedHints_perm metadata.formats catalog, pairwise_sortNames _⟩

/-- A catalog in which one characteristic is declared twice. -/
def repeatedHueCatalog : Catalog where
  services := []
  characteristics := [
    ⟨"HMCharacteristicTypeHue", "Hue", "hue", .text, none, false⟩,
    ⟨"HMCharacteristicTypeHue", "Hue", "hue", .text, none, false⟩]

/-- Metadata that only says of one characteristic that it is a number. -/
def hueMetadata : Relationships where
  services := []
  formats := [("Hue", .ofString "float")]
  aliases := []

/-- The hint passes over the first declaration. -/
theorem reconcile_repeatedHueCatalog_overlooks :
    ¬HaveTakenHints hueMetadata.formats repeatedHueCatalog.characteristics
      (reconcile repeatedHueCatalog (some hueMetadata)).catalog.characteristics ∧
    (reconcile repeatedHueCatalog (some hueMetadata)).catalog.characteristics.map
      Characteristic.valueKind = [.text, .floating] ∧
    (reconcile repeatedHueCatalog (some hueMetadata)).summary.upgradedValueKinds = 1 := by
  have kinds : (reconcile repeatedHueCatalog (some hueMetadata)).catalog.characteristics.map
      Characteristic.valueKind = [.text, .floating] := by
    decide +kernel
  refine ⟨?_, kinds, by decide +kernel⟩
  intro taken
  have overlooked : ∃ entry ∈
      (reconcile repeatedHueCatalog (some hueMetadata)).catalog.characteristics,
      entry.name = "Hue" ∧ entry.valueKind = .text := by
    decide +kernel
  obtain ⟨entry, member, named, isText⟩ := overlooked
  have hinted := taken.hinted entry member (.ofString "float") (by rw [named]; rfl)
  rw [isText] at hinted
  exact absurd hinted (by decide +kernel)

/-! ## One hint after the other -/

/-- The number of characteristics whose kind differs between two lists. -/
def differingKinds (before after : List Characteristic) : Nat :=
  (before.zip after).countP fun pair => pair.1.valueKind != pair.2.valueKind

theorem differingKinds_cons (before after : Characteristic) (rest others : List Characteristic) :
    differingKinds (before :: rest) (after :: others) =
      differingKinds rest others + if before.valueKind = after.valueKind then 0 else 1 := by
  by_cases same : before.valueKind = after.valueKind <;> simp [differingKinds, same]

/-- No kind differs from itself. -/
theorem differingKinds_self (entries : List Characteristic) :
    differingKinds entries entries = 0 := by
  induction entries with
  | nil => rfl
  | cons entry rest ih => simp [differingKinds_cons, ih]

/-- No kind differs between two lists of one length exactly if their kinds are the same. -/
theorem differingKinds_eq_zero_iff {before after : List Characteristic}
    (sameLength : before.length = after.length) :
    differingKinds before after = 0 ↔
      before.map Characteristic.valueKind = after.map Characteristic.valueKind := by
  induction before generalizing after with
  | nil =>
      cases after with
      | nil => exact iff_of_true rfl rfl
      | cons entry rest => cases sameLength
  | cons entry rest ih =>
      cases after with
      | nil => cases sameLength
      | cons other others =>
          rw [differingKinds_cons, Nat.add_eq_zero_iff, ih (Nat.succ.inj sameLength),
            List.map_cons, List.map_cons, List.cons.injEq, and_comm]
          simp

/-- Hints change kinds only, so nothing changes where no kind does. -/
theorem mapLast_applyHint_of_differingKinds {entries : List Characteristic}
    (none : differingKinds entries (mapLast Characteristic.name (applyHint formats) entries) = 0) :
    mapLast Characteristic.name (applyHint formats) entries = entries := by
  induction entries with
  | nil => rfl
  | cons entry rest ih =>
      by_cases shadowed : entry.name ∈ rest.map Characteristic.name
      · rw [mapLast_cons_of_mem shadowed, differingKinds_cons] at none
        rw [mapLast_cons_of_mem shadowed, ih (by omega)]
      · rw [mapLast_cons_of_notMem shadowed, differingKinds_cons] at none
        rw [mapLast_cons_of_notMem shadowed, ih (by omega)]
        have kind : entry.valueKind = (applyHint formats entry).valueKind := by
          by_contra differs
          rw [if_neg differs] at none
          omega
        cases hinted : formats.lookup entry.name with
        | none => rw [applyHint_of_lookup_none hinted]
        | some format =>
            rw [applyHint_of_lookup_some hinted] at kind ⊢
            change entry.valueKind = kindOfFormat format at kind
            rw [← kind]

variable {title : String} {format : Text.Wide}

theorem applyHint_cons_of_eq (named : entry.name = title) :
    applyHint ((title, format) :: formats) entry =
      { entry with valueKind := kindOfFormat format } :=
  applyHint_of_lookup_some (by simp [named])

theorem applyHint_cons_of_ne (apart : entry.name ≠ title) :
    applyHint ((title, format) :: formats) entry = applyHint formats entry := by
  have skipped : ((title, format) :: formats).lookup entry.name = formats.lookup entry.name := by
    rw [List.lookup_cons, beq_eq_false_iff_ne.mpr apart]
  rw [applyHint, applyHint, skipped]

/-- One hint changes one kind at most: that of the last characteristic of its name. -/
theorem differingKinds_applyHint (title : String) (format : Text.Wide)
    (entries : List Characteristic) :
    differingKinds entries (mapLast Characteristic.name (applyHint [(title, format)]) entries) =
      (entries.filter fun entry => title == entry.name).getLast?.elim 0 fun entry =>
        if entry.valueKind = kindOfFormat format then 0 else 1 := by
  induction entries with
  | nil => rfl
  | cons entry rest ih =>
      by_cases named : entry.name = title
      · rw [List.filter_cons_of_pos (by simp [named])]
        by_cases shadowed : entry.name ∈ rest.map Characteristic.name
        · -- The rest has a later declaration of the name, which takes the hint instead.
          obtain ⟨other, member, same⟩ := List.mem_map.mp shadowed
          have later : other ∈ rest.filter fun other => title == other.name := by
            rw [List.mem_filter, same]
            exact ⟨member, by simp [named]⟩
          rw [mapLast_cons_of_mem shadowed, differingKinds_cons, if_pos rfl, ih,
            List.getLast?_cons_of_ne_nil (List.ne_nil_of_mem later)]
          rfl
        · have absent : (rest.filter fun other => title == other.name) = [] := by
            rw [List.filter_eq_nil_iff]
            intro other member same
            apply shadowed
            rw [named, eq_of_beq same]
            exact List.mem_map_of_mem member
          rw [mapLast_cons_of_notMem shadowed, differingKinds_cons, ih, absent,
            applyHint_cons_of_eq named]
          simp
      · rw [mapLast_cons_of_fixed (applyHint_cons_of_ne named), differingKinds_cons, if_pos rfl, ih,
          List.filter_cons_of_neg (by simpa using Ne.symm named)]
        rfl

/-- Take one hint: the last characteristic of its name gets the kind that it states, which counts if
it had another. -/
def takeHint (state : Catalog × Nat) (hint : String × Text.Wide) : Catalog × Nat :=
  match state.1.characteristicsByName.lookup hint.1 with
  | none => state
  | some entry =>
      if entry.valueKind = kindOfFormat hint.2 then state
      else (applyFormats [hint] state.1, state.2 + 1)

theorem applyFormats_of_changedKinds {catalog : Catalog}
    (none : changedKinds catalog (applyFormats formats catalog) = 0) :
    applyFormats formats catalog = catalog :=
  congrArg (Catalog.mk catalog.services) (mapLast_applyHint_of_differingKinds none)

theorem takeHint_eq (catalog : Catalog) (count : Nat) (title : String) (format : Text.Wide) :
    takeHint (catalog, count) (title, format) = (applyFormats [(title, format)] catalog,
      count + changedKinds catalog (applyFormats [(title, format)] catalog)) := by
  have changed : changedKinds catalog (applyFormats [(title, format)] catalog) = _ :=
    differingKinds_applyHint title format catalog.characteristics
  rw [← Catalog.lookup_characteristicsByName] at changed
  rw [takeHint]
  cases found : catalog.characteristicsByName.lookup title with
  | none =>
      rw [found, Option.elim_none] at changed
      rw [changed, applyFormats_of_changedKinds changed]
      rfl
  | some entry =>
      rw [found, Option.elim_some] at changed
      by_cases same : entry.valueKind = kindOfFormat format
      · rw [if_pos same] at changed
        rw [changed, applyFormats_of_changedKinds changed]
        exact if_pos same
      · rw [if_neg same] at changed
        rw [changed]
        exact if_neg same

/-- Where either of two steps leaves every kind alone, the kinds that differ behind both are those
that differ behind the first and those that differ between them. -/
theorem differingKinds_mapLast {first second : Characteristic → Characteristic}
    (once : ∀ entry,
      (first entry).valueKind = entry.valueKind ∨ second (first entry) = first entry)
    (entries : List Characteristic) :
    differingKinds entries
        (mapLast Characteristic.name (fun entry => second (first entry)) entries) =
      differingKinds entries (mapLast Characteristic.name first entries) +
        differingKinds (mapLast Characteristic.name first entries)
          (mapLast Characteristic.name (fun entry => second (first entry)) entries) := by
  induction entries with
  | nil => rfl
  | cons entry rest ih =>
      by_cases shadowed : entry.name ∈ rest.map Characteristic.name
      · simp only [mapLast_cons_of_mem shadowed, differingKinds_cons, ih]
        simp
      · simp only [mapLast_cons_of_notMem shadowed, differingKinds_cons, ih]
        -- Were both steps to change a kind, the sum would count it twice.
        rcases once entry with same | same
        · simp [same]
          omega
        · simp [same]
          omega

theorem applyHint_cons (fresh : title ∉ formats.map Prod.fst) (entry : Characteristic) :
    applyHint ((title, format) :: formats) entry =
      applyHint formats (applyHint [(title, format)] entry) := by
  by_cases named : entry.name = title
  · have unhinted : formats.lookup entry.name = none := by
      rw [List.lookup_eq_none_iff]
      intro hint member
      rw [named, bne_iff_ne]
      intro same
      exact fresh (List.mem_map.mpr ⟨hint, member, same.symm⟩)
    have kept : applyHint formats { entry with valueKind := kindOfFormat format } =
        { entry with valueKind := kindOfFormat format } :=
      applyHint_of_lookup_none unhinted
    rw [applyHint_cons_of_eq named, applyHint_cons_of_eq named, kept]
  · rw [applyHint_cons_of_ne named, applyHint_cons_of_ne named]
    rfl

theorem applyFormats_cons (fresh : title ∉ formats.map Prod.fst) (catalog : Catalog) :
    applyFormats ((title, format) :: formats) catalog =
      applyFormats formats (applyFormats [(title, format)] catalog) := by
  rw [applyFormats, applyFormats, applyFormats, mapLast_mapLast (name_applyHint _),
    funext (applyHint_cons fresh)]

/-- No kind that one hint changes is changed by a hint about another name. -/
theorem changedKinds_applyFormats_cons (fresh : title ∉ formats.map Prod.fst)
    (catalog : Catalog) :
    changedKinds catalog (applyFormats ((title, format) :: formats) catalog) =
      changedKinds catalog (applyFormats [(title, format)] catalog) +
        changedKinds (applyFormats [(title, format)] catalog)
          (applyFormats ((title, format) :: formats) catalog) := by
  have once : ∀ entry : Characteristic,
      (applyHint [(title, format)] entry).valueKind = entry.valueKind ∨
        applyHint formats (applyHint [(title, format)] entry) =
          applyHint [(title, format)] entry := by
    intro entry
    by_cases named : entry.name = title
    · right
      rw [← applyHint_cons fresh, applyHint_cons_of_eq named, applyHint_cons_of_eq named]
    · left
      rw [applyHint_cons_of_ne named]
      rfl
  have steps := differingKinds_mapLast once catalog.characteristics
  rw [← funext (applyHint_cons fresh)] at steps
  exact steps

theorem applyFormats_nil (catalog : Catalog) : applyFormats [] catalog = catalog := by
  apply congrArg (Catalog.mk catalog.services)
  induction catalog.characteristics with
  | nil => rfl
  | cons entry rest ih => rw [mapLast_cons_of_fixed rfl, ih]

/-- Taking the hints one after the other gives every last characteristic of a name the kind of its
hint, and counts the kinds that change, if no two hints are about one name. -/
theorem foldl_takeHint (distinct : (formats.map Prod.fst).Nodup) (catalog : Catalog)
    (count : Nat) :
    formats.foldl takeHint (catalog, count) = (applyFormats formats catalog,
      count + changedKinds catalog (applyFormats formats catalog)) := by
  induction formats generalizing catalog count with
  | nil =>
      have unchanged : changedKinds catalog catalog = 0 :=
        differingKinds_self catalog.characteristics
      rw [applyFormats_nil, unchanged]
      rfl
  | cons hint rest ih =>
      obtain ⟨title, format⟩ := hint
      obtain ⟨fresh, distinct⟩ := List.nodup_cons.mp distinct
      rw [List.foldl_cons, takeHint_eq, ih distinct, ← applyFormats_cons fresh,
        changedKinds_applyFormats_cons fresh, Nat.add_assoc]

end HomeCatalog.Reconciliation
