import HomeCatalog.Bindings.Basic
import HomeCatalog.Proofs.Order

/-!
# The pass over the references of a service

References are resolved in one pass over the required and then the optional names, which passes over
every name that it met before.  So each name counts at its first occurrence, as required if it is
required at all, and those that lead nowhere are noticed in the same order.
-/

namespace HomeCatalog.Bindings

/-- The names to which a service refers, each once: required ones first. -/
def mentions (service : Service) : List String :=
  (service.required ++ service.optional).eraseDups

section

variable (byName : List (String × Characteristic)) (service : Service)

/-- The references under some names. -/
def referencesUnder (isRequired : String → Bool) (names : List String) : List Reference :=
  names.filterMap fun name =>
    (byName.lookup name).map fun characteristic => ⟨characteristic, isRequired name⟩

/-- The findings about the names of a service that lead nowhere. -/
def unknownAmong (names : List String) : List Finding :=
  (names.filter fun name => (byName.lookup name).isNone).map fun name =>
    .unknownCharacteristic name service.name

/-- The state of a pass after it took up some different names that it had not met. -/
def Resolution.after (isRequired : Bool) (resolution : Resolution) (names : List String) :
    Resolution where
  met := names.reverse ++ resolution.met
  references := resolution.references ++ referencesUnder byName (fun _ => isRequired) names
  findings := resolution.findings ++ unknownAmong byName service names

namespace Resolution

variable (isRequired : Bool) (resolution : Resolution)

theorem after_nil : after byName service isRequired resolution [] = resolution := by
  simp [after, referencesUnder, unknownAmong]

/-- One step takes up the first of some names. -/
theorem after_cons (name : String) (names : List String) :
    after byName service isRequired resolution (name :: names) =
      after byName service isRequired (takeUp byName service isRequired resolution name) names := by
  rw [takeUp]
  cases found : byName.lookup name <;> simp [after, referencesUnder, unknownAmong, found]

theorem met_takeUp (name : String) :
    (takeUp byName service isRequired resolution name).met = name :: resolution.met := by
  rw [takeUp]
  split <;> rfl

/-- The names of a list that were not met before, each once. -/
def fresh (names : List String) : List String :=
  (names.filter fun name => !resolution.met.contains name).eraseDups

/-- A pass over a list of names takes up those that are fresh. -/
theorem foldl_visit (names : List String) :
    names.foldl (visit byName service isRequired) resolution =
      after byName service isRequired resolution (resolution.fresh names) := by
  induction names generalizing resolution with
  | nil => exact (after_nil byName service isRequired resolution).symm
  | cons name rest ih =>
      rw [List.foldl_cons, ih, visit]
      by_cases met : resolution.met.contains name = true
      · rw [if_pos met, fresh, fresh, List.filter_cons_of_neg (by simpa using met)]
      · -- A name that is taken up is met from then on, so it is dropped from the rest.
        have later : (takeUp byName service isRequired resolution name).fresh rest =
            ((rest.filter fun other => !resolution.met.contains other).filter fun other =>
              !other == name).eraseDups := by
          rw [fresh, met_takeUp, List.filter_filter]
          congr 2
          funext other
          rw [List.contains_cons, Bool.not_or]
        have taken : resolution.fresh (name :: rest) =
            name :: (takeUp byName service isRequired resolution name).fresh rest := by
          rw [later, fresh, List.filter_cons_of_pos (by simpa using met), List.eraseDups_cons]
        rw [if_neg met, taken, after_cons]

end Resolution

/-- The optional names of a service that are not required, each once. -/
def onlyOptional (service : Service) : List String :=
  (service.optional.filter fun name => !service.required.contains name).eraseDups

theorem mentions_eq : mentions service = service.required.eraseDups ++ onlyOptional service := by
  rw [mentions, List.eraseDups_append]
  rfl

/-- A pass resolves the required names first and then what is only optional. -/
theorem resolve_eq :
    resolve byName service =
      Resolution.after byName service false
        (Resolution.after byName service true .start service.required.eraseDups)
        (onlyOptional service) := by
  have required : Resolution.start.fresh service.required = service.required.eraseDups := by
    simp [Resolution.fresh, Resolution.start]
  rw [resolve, Resolution.foldl_visit, Resolution.foldl_visit, required]
  congr 1
  rw [Resolution.fresh, onlyOptional]
  congr 2
  funext name
  have met : (Resolution.after byName service true .start service.required.eraseDups).met =
      service.required.eraseDups.reverse := List.append_nil _
  rw [met, Bool.not_inj_iff, Bool.eq_iff_iff]
  simp

/-- A service refers to the characteristics of the names that it mentions, as required ones where it
requires the name. -/
theorem references_eq :
    references byName service =
      referencesUnder byName service.required.contains (mentions service) := by
  have required : referencesUnder byName service.required.contains service.required.eraseDups =
      referencesUnder byName (fun _ => true) service.required.eraseDups := by
    refine List.filterMap_congr fun name member => ?_
    have listed : service.required.contains name = true := by
      simpa using List.mem_eraseDups.mp member
    rw [listed]
  have optional : referencesUnder byName service.required.contains (onlyOptional service) =
      referencesUnder byName (fun _ => false) (onlyOptional service) := by
    refine List.filterMap_congr fun name member => ?_
    have unlisted : service.required.contains name = false := by
      simpa using (List.mem_filter.mp (List.mem_eraseDups.mp member)).2
    rw [unlisted]
  rw [mentions_eq, referencesUnder, List.filterMap_append, ← referencesUnder, ← referencesUnder,
    required, optional, references, resolve_eq]
  rfl

/-- What is noticed about a service are the names that it mentions and that lead nowhere. -/
theorem unresolved_eq :
    unresolved byName service = unknownAmong byName service (mentions service) := by
  rw [mentions_eq, unknownAmong, List.filter_append, List.map_append, unresolved, resolve_eq]
  rfl

theorem mem_mentions {service : Service} {name : String} :
    name ∈ mentions service ↔ name ∈ service.required ++ service.optional := by
  rw [mentions, List.mem_eraseDups]

end

end HomeCatalog.Bindings
