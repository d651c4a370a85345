import HomeCatalog.Bindings.Swift.Names
import HomeCatalog.Bindings.TypeScript.Names
import HomeCatalog.Proofs.Identifier.Allocation

/-!
# The namespaces of generated sources

Constants, types, accessors, enum members and properties each have a namespace.  Their reserved
words are such that no role word, underscore or number leads back to one of them, so each namespace
hands out legal names for whatever it is asked.
-/

namespace HomeCatalog.Bindings

open Identifier

/-- The namespaces from which the names in generated sources are drawn. -/
def namespaces : List Namespace :=
  [ Swift.serviceConstantRules, Swift.characteristicConstantRules, Swift.propertyRules,
    Swift.serviceTypeRules, Swift.characteristicTypeRules, TypeScript.keyRules,
    TypeScript.propertyRules, TypeScript.interfaceRules, TypeScript.aliasRules ]

/-- A namespace without reserved words is sound. -/
theorem isSound_ofNormalize (normalize : String → String) :
    (Namespace.ofNormalize normalize).IsSound :=
  fun _ reserved => absurd reserved List.not_mem_nil

namespace Swift

theorem isSound_serviceConstantRules : serviceConstantRules.IsSound := by
  decide +kernel

theorem isSound_characteristicConstantRules : characteristicConstantRules.IsSound := by
  decide +kernel

theorem isSound_propertyRules : propertyRules.IsSound := by
  decide +kernel

end Swift

theorem TypeScript.isSound_propertyRules : TypeScript.propertyRules.IsSound := by
  decide +kernel

/-- Every namespace of generated sources is sound. -/
theorem isSound_of_mem_namespaces {rules : Namespace} (known : rules ∈ namespaces) :
    rules.IsSound := by
  simp only [namespaces, List.mem_cons, List.not_mem_nil, or_false] at known
  rcases known with rfl | rfl | rfl | rfl | rfl | rfl | rfl | rfl | rfl
  · exact Swift.isSound_serviceConstantRules
  · exact Swift.isSound_characteristicConstantRules
  · exact Swift.isSound_propertyRules
  · exact isSound_ofNormalize _
  · exact isSound_ofNormalize _
  · exact isSound_ofNormalize _
  · exact TypeScript.isSound_propertyRules
  · exact isSound_ofNormalize _
  · exact isSound_ofNormalize _

/-- Whatever is requested of an allocator of generated sources, each request gets a name, no two get
one name, every name is legal, and each is its candidate or, where that is taken, its candidate with
the least number from two on that is free.  The allocator contains these names and no others. -/
theorem allocateAll_fresh_legal {rules : Namespace} (known : rules ∈ namespaces)
    (requests : List (String × String)) :
    let names := ((Allocator.new rules).allocateAll requests).1
    names.length = requests.length ∧ names.Nodup ∧
      (∀ name ∈ names, rules.IsLegal name) ∧
      (∀ index request, requests[index]? = some request →
        ∃ name, names[index]? = some name ∧
          IsLeastFree (names.take index) (rules.candidate request.1 request.2) name) ∧
      ∀ name, ((Allocator.new rules).allocateAll requests).2.contains name = true ↔
        name ∈ names := by
  have sound := isSound_of_mem_namespaces known
  refine ⟨Allocator.length_allocateAll _ requests, Allocator.nodup_allocateAll _ requests,
    fun _ member => sound.isLegal_of_mem_allocateAll member, ?_, ?_⟩
  · intro index request requested
    obtain ⟨name, found, least⟩ :=
      (Allocator.new rules).isLeastFree_allocateAll requests requested
    refine ⟨name, found, least.congr ?_⟩
    simp [Allocator.new]
  · intro name
    rw [Allocator.contains, List.contains_iff_mem, Allocator.mem_used_allocateAll]
    simp [Allocator.new]

/-- Requests for accessors of one service that meet each other, a keyword, a digit and nothing. -/
def meetingRequests : List (String × String) :=
  [("level2", "Level 2"), ("level", ""), ("Level", ""), ("class", ""), ("9 lives", ""), ("-", "")]

/-- The number of one request is passed over for another, and the role word stands for nothing. -/
theorem allocateAll_meetingRequests :
    Swift.propertyRules ∈ namespaces ∧
      ((Allocator.new Swift.propertyRules).allocateAll meetingRequests).1 =
        ["level2", "level", "level3", "classCharacteristic", "_9lives",
          "characteristicCharacteristic"] ∧
      ((Allocator.new Swift.propertyRules).allocateAll meetingRequests).1.Nodup ∧
      ((Allocator.new Swift.propertyRules).allocateAll meetingRequests).2.contains "level3" =
        true := by
  have known : Swift.propertyRules ∈ namespaces := by simp [namespaces]
  have names : ((Allocator.new Swift.propertyRules).allocateAll meetingRequests).1 =
      ["level2", "level", "level3", "classCharacteristic", "_9lives",
        "characteristicCharacteristic"] := by
    decide +kernel
  obtain ⟨_, distinct, _, _, contained⟩ := allocateAll_fresh_legal known meetingRequests
  refine ⟨known, names, distinct, (contained "level3").mpr ?_⟩
  rw [names]
  decide

end HomeCatalog.Bindings
