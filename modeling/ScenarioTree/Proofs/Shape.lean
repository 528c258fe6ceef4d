/-
This file describes the nodes that building can lead to. What a node may be is said slot by slot: a
condition on the node itself, which also says what may stand in its slots, and the same for every
node in a slot.

Everything that is built is of this shape. The rules ask for tags and parameters by name, and an
element of a kind becomes a node of that kind or a gap, which only a kind that can fail may leave.
-/

import ScenarioTree.Proofs.Gap
import ScenarioTree.Proofs.Numeral

namespace ScenarioTree

open ScenarioTree.Build (Kind)
open ScenarioTree.Xml (Element Path)

/-! ### Shapes -/

/-- Whether some element of a kind fails. -/
def Build.Kind.CanFail (kind : Kind) : Prop :=
  kind ∉ [Kind.null, .string, .list, .dict, .template, .actionwords, .scenarios]

instance (kind : Kind) : Decidable kind.CanFail :=
  inferInstanceAs (Decidable (_ ∉ _))

namespace Node

/-- The kind of the elements that become such a node. Entries and projects are made otherwise. -/
def maker? : Node → Option Kind
  | null => some .null
  | string _ => some .string
  | number _ => some .number
  | boolean _ => some .boolean
  | var _ => some .var
  | field _ _ => some .field
  | index _ _ => some .index
  | binary _ _ _ | unary _ _ => some .operation
  | parenthesis _ => some .parenthesis
  | list _ => some .list
  | dict _ => some .dict
  | template _ => some .template
  | assign _ _ => some .assign
  | call _ _ => some .call
  | conditional _ _ _ => some .conditional
  | step _ _ => some .step
  | loop _ _ => some .loop
  | tag _ _ => some .tag
  | parameter _ _ => some .parameter
  | actionword _ _ _ _ => some .actionword
  | scenario _ _ _ _ _ => some .scenario
  | actionwords _ => some .actionwords
  | scenarios _ => some .scenarios
  | property _ _ | argument _ _ | project _ _ _ _ => none

/-- Whether a slot may hold what elements of a kind become: a node of that kind, or nothing. -/
def Fits (kind : Kind) (slot : Slot) : Prop :=
  ∀ node, slot = some node → node.maker? = some kind

/-- What is asked of a node apart from what stands in its slots. -/
def Shaped : Node → Prop
  | number value => value.Denotable
  | var name => ∃ character ∈ name.toList, Text.isBlank character = false
  | dict items => ∀ item ∈ items, ∃ key value, item = some (property key value)
  | call _ arguments => ∀ item ∈ arguments, ∃ name value, item = some (argument name value)
  | step key value =>
    ∀ kind, Kind.ofTag? key = some kind → Fits kind value ∧ (value = none → kind.CanFail)
  | actionword _ tags parameters _ | scenario _ _ tags parameters _ =>
    (∀ item ∈ tags, Fits .tag item) ∧ ∀ item ∈ parameters, Fits .parameter item
  | actionwords items => ∀ item ∈ items, Fits .actionword item
  | scenarios items => ∀ item ∈ items, Fits .scenario item
  | property _ _ | argument _ _ | project _ _ _ _ => False
  | _ => True

/-- A node that is shaped right, and so is every node inside it. -/
inductive WellShaped : Node → Prop where
  | node {node : Node} (shaped : node.Shaped)
      (inner : ∀ part, some part ∈ node.slots → WellShaped part) : WellShaped node

end Node

namespace Build

/-! ### What elements of a kind become -/

theorem Made.maker?_eq {slotOf : Element → Slot} {element : Element} {kind : Kind} {node : Node}
    (made : Made slotOf element kind node) : node.maker? = some kind := by
  cases made <;> rfl

theorem fits_slotOf {element : Element} {kind : Kind}
    (announced : Kind.ofTag? element.tag = some kind) : Node.Fits kind (slotOf element) := by
  intro node built
  obtain ⟨other, otherAnnounced, made⟩ := build_ok_iff.mp (slotOf_eq_some_iff.mp built)
  rw [announced] at otherAnnounced
  obtain rfl := Option.some.inj otherAnnounced
  exact made.maker?_eq

/-- A kind of which some element has a defect can fail. -/
theorem canFail_of_defect {element : Element} {kind : Kind} {cause : Cause}
    (announced : Kind.ofTag? element.tag = some kind) (defect : Defect element cause) :
    kind.CanFail := by
  intro steady
  simp only [List.mem_cons, List.not_mem_nil, or_false] at steady
  cases defect with
  | kind unknown =>
    rw [unknown] at announced
    cases announced
  | child other required _ =>
    obtain rfl := Option.some.inj (announced.symm.trans other)
    rcases steady with rfl | rfl | rfl | rfl | rfl | rfl | rfl <;> cases required
  | number other _ | boolean other _ _ | name other _ | payload other _ | role other _ _ _ =>
    obtain rfl := Option.some.inj (announced.symm.trans other)
    simp at steady

theorem canFail_of_gap {element : Element} {kind : Kind}
    (announced : Kind.ofTag? element.tag = some kind) (gap : slotOf element = none) :
    kind.CanFail := by
  obtain ⟨failure, failed⟩ := slotOf_eq_none_iff.mp gap
  exact canFail_of_defect announced (defect_of_build_error failed).2

/-! ### What is selected by name -/

/-- Slots of elements that are selected by the name of a kind fit that kind. -/
theorem fits_of_mem_select {element : Element} {kind : Kind} (path : Path) {name : String}
    (announced : Kind.ofTag? name = some kind) {slot : Slot}
    (member : slot ∈ (element.select (path ++ [name])).map slotOf) : Node.Fits kind slot := by
  obtain ⟨found, foundMember, rfl⟩ := List.mem_map.mp member
  have other : name ≠ "*" := by
    rintro rfl
    cases announced
  have named := tag_of_mem_select path other foundMember
  exact fits_slotOf (named ▸ announced)

/-! ### Everything that is built is well shaped -/

theorem Made.shaped {element : Element} {kind : Kind} {node : Node}
    (made : Made slotOf element kind node) : node.Shaped := by
  cases made with
  | number read => exact Number.exists_ofText_iff.mp ⟨_, read⟩
  | var named =>
    by_contra blank
    refine named (Text.trim_eq_nil_iff.mpr fun character member => ?_)
    by_contra visible
    exact blank ⟨character, member, Bool.not_eq_true _ ▸ visible⟩
  | dict | call _ =>
    intro item member
    obtain ⟨wrapper, _, rfl⟩ := List.mem_map.mp member
    exact ⟨_, _, rfl⟩
  | step payloadFound known =>
    intro kind announced
    exact ⟨fits_slotOf announced, canFail_of_gap announced⟩
  | role roleFound unknown payloadFound =>
    intro kind announced
    rw [unknown] at announced
    cases announced
  | actionword _ | scenario _ =>
    exact ⟨fun _ => fits_of_mem_select ["tags"] rfl, fun _ => fits_of_mem_select ["parameters"] rfl⟩
  | actionwords | scenarios => exact fun _ => fits_of_mem_select [] rfl
  | _ => trivial

/-- What stands in a slot of a node was built from an element at one of the sites. -/
theorem Made.exists_of_mem_slots {element : Element} {kind : Kind} {node part : Node}
    (made : Made slotOf element kind node) (member : some part ∈ node.slots) :
    ∃ site ∈ kind.sites element, ∃ found, site.part = .element found ∧
      (build found).result = .ok part := by
  have owed : some part ∈ node.owed element := by
    cases made with
    | parameter _ =>
      have default := List.mem_singleton.mp member
      cases wrapperFound : element.selectFirst? ["default_value"] with
      | none =>
        rw [wrapperFound] at default
        cases default
      | some wrapper => simpa [Node.owed, wrapperFound] using default
    | _ => exact member
  rw [made.owed_eq, List.map_map] at owed
  obtain ⟨⟨place, source⟩, siteMember, slot⟩ := List.mem_map.mp owed
  cases source with
  | vacant holder => cases slot
  | element found => exact ⟨_, siteMember, found, rfl, slotOf_eq_some_iff.mp slot⟩

/-- Everything that is built is well shaped. -/
theorem wellShaped_of_build {element : Element} {node : Node}
    (built : (build element).result = .ok node) : node.WellShaped := by
  induction element using sitesOf_induction generalizing node with
  | step element wellShaped =>
    obtain ⟨kind, announced, made⟩ := build_ok_iff.mp built
    refine .node made.shaped fun part member => ?_
    obtain ⟨site, siteMember, found, is, foundBuilt⟩ := made.exists_of_mem_slots member
    rw [← sitesOf_eq announced] at siteMember
    exact wellShaped site siteMember found is foundBuilt

end Build

end ScenarioTree
