/-
This file finds an element for every node that is well shaped. The element is put together from
elements for the slots of the node, under the names by which its rule looks for them; an empty slot
is filled by an element that fails. Together with the shape of what is built this says exactly which
nodes building can lead to.
-/

import ScenarioTree.Proofs.Containment
import ScenarioTree.Proofs.Shape

namespace ScenarioTree

open ScenarioTree.Build (Kind)
open ScenarioTree.Xml (Element Run)

/-! ### Plain elements -/

namespace Xml.Element

/-- An element with a text and nothing else. -/
def leaf (tag text : String) : Element :=
  ⟨⟨"", tag⟩, [], .ofText text, [], .empty⟩

/-- An element with children and nothing else. -/
def branch (tag : String) (children : List Element) : Element :=
  ⟨⟨"", tag⟩, [], .empty, children, .empty⟩

@[simp]
theorem tag_leaf (tag text : String) : (leaf tag text).tag = tag := rfl

@[simp]
theorem tag_branch (tag : String) (children : List Element) : (branch tag children).tag = tag := rfl

@[simp]
theorem content_leaf (tag text : String) : (leaf tag text).content = text := by
  simp [leaf, content, contentOfChildren, Run.ofText, Run.content, String.join]

@[simp]
theorem children_branch (tag : String) (children : List Element) :
    (branch tag children).children = children := rfl

/-- All children are kept that have the name that is asked for. -/
theorem filter_named {name : String} {children : List Element}
    (named : ∀ child ∈ children, child.tag = name) :
    children.filter (fun child => child.tag == name) = children :=
  List.filter_eq_self.mpr fun child member => beq_iff_eq.mpr (named child member)

end Xml.Element

/-! ### Elements for slots -/

namespace Build

open ScenarioTree.Xml.Element (leaf branch tag_leaf tag_branch content_leaf filter_named
  selectFirst? select answers)

theorem exists_map_eq {α β : Type} {keep : α → Prop} {change : α → β} {values : List β}
    (each : ∀ value ∈ values, ∃ source, keep source ∧ change source = value) :
    ∃ sources : List α, (∀ source ∈ sources, keep source) ∧ sources.map change = values := by
  induction values with
  | nil => exact ⟨[], by simp, rfl⟩
  | cons value rest induction =>
    obtain ⟨source, kept, rfl⟩ := each value List.mem_cons_self
    obtain ⟨sources, allKept, rfl⟩ := induction fun other member =>
      each other (List.mem_cons_of_mem _ member)
    exact ⟨source :: sources, List.forall_mem_cons.mpr ⟨kept, allKept⟩, rfl⟩

theorem Kind.exists_tag (kind : Kind) : ∃ tag, Kind.ofTag? tag = some kind := by
  have listed : ∃ entry ∈ Kind.tags, Kind.ofTag? entry.1 = some kind := by
    cases kind <;> decide
  obtain ⟨entry, _, announced⟩ := listed
  exact ⟨entry.1, announced⟩

theorem slotOf_eq_none_of_defect {element : Element} {cause : Cause}
    (defect : Defect element cause) : slotOf element = none :=
  slotOf_eq_none_iff.mpr (build_error_iff.mpr ⟨cause, defect⟩)

/-- An element of no kind fails. -/
theorem slotOf_unknown : slotOf (leaf "" "") = none :=
  slotOf_eq_none_of_defect (.kind rfl)

/-- An empty element of a kind that can fail does so. -/
theorem slotOf_empty {tag : String} {kind : Kind} (announced : Kind.ofTag? tag = some kind)
    (canFail : kind.CanFail) : slotOf (leaf tag "") = none := by
  have absent (path : Xml.Path) (required : path ∈ kind.required (leaf tag ""))
      (none : (leaf tag "").select path = []) : slotOf (leaf tag "") = Option.none :=
    slotOf_eq_none_of_defect (.child announced required none)
  cases kind with
  | null | string | list | dict | template | actionwords | scenarios =>
    exact absurd (by decide) canFail
  | number =>
    have refused : Number.ofText (leaf tag "").content = .error .notNumber := by
      rw [content_leaf]
      decide
    exact slotOf_eq_none_of_defect (.number announced refused)
  | boolean =>
    refine slotOf_eq_none_of_defect (.boolean announced ?_ ?_)
    all_goals
      rw [content_leaf]
      decide
  | var =>
    refine slotOf_eq_none_of_defect (.name announced ?_)
    rw [content_leaf]
    simp
  | step => exact slotOf_eq_none_of_defect (.payload announced rfl)
  | field | index => exact absent ["base", "*"] List.mem_cons_self rfl
  | operation => exact absent ["operator"] List.mem_cons_self rfl
  | parenthesis => exact absent ["*"] List.mem_cons_self rfl
  | assign => exact absent ["to", "*"] List.mem_cons_self rfl
  | call => exact absent ["actionword"] List.mem_cons_self rfl
  | conditional | loop => exact absent ["condition", "*"] List.mem_cons_self rfl
  | tag => exact absent ["key"] List.mem_cons_self rfl
  | parameter | actionword | scenario => exact absent ["name"] List.mem_cons_self rfl

/-! ### Elements for nodes -/

/-- Whether a node comes from some element, under every tag of its kind. -/
def Buildable (node : Node) : Prop :=
  ∃ kind, node.maker? = some kind ∧
    ∀ tag, Kind.ofTag? tag = some kind → ∃ element : Element, element.tag = tag ∧
      slotOf element = some node

theorem Buildable.of_made {node : Node} {kind : Kind} {element : String → Element}
    (named : ∀ tag, (element tag).tag = tag) (made : ∀ tag, Made slotOf (element tag) kind node) :
    Buildable node := by
  refine ⟨kind, (made "").maker?_eq, fun tag announced => ⟨element tag, named tag, ?_⟩⟩
  rw [slotOf_eq_some_iff, build_ok_iff]
  exact ⟨kind, by rw [named, announced], made tag⟩

section

variable {slot : Slot}

/-- Every slot is filled by some element. -/
theorem exists_slotOf (filled : ∀ node, slot = some node → Buildable node) :
    ∃ element : Element, slotOf element = slot := by
  cases slot with
  | none => exact ⟨leaf "" "", slotOf_unknown⟩
  | some node =>
    obtain ⟨kind, _, built⟩ := filled node rfl
    obtain ⟨tag, announced⟩ := kind.exists_tag
    obtain ⟨element, _, slot⟩ := built tag announced
    exact ⟨element, slot⟩

/-- Every slot is filled by what some wrapper of a given name holds. -/
theorem exists_heldSlot (name : String) (filled : ∀ node, slot = some node → Buildable node) :
    ∃ wrapper : Element, wrapper.tag = name ∧ heldSlot slotOf wrapper = slot := by
  obtain ⟨element, rfl⟩ := exists_slotOf filled
  exact ⟨branch name [element], rfl, rfl⟩

/-- A slot that fits a kind is filled by an element of a tag of the kind. -/
theorem exists_slotOf_of_fits {tag : String} {kind : Kind}
    (announced : Kind.ofTag? tag = some kind) (fits : Node.Fits kind slot)
    (gap : slot = none → kind.CanFail) (filled : ∀ node, slot = some node → Buildable node) :
    ∃ element : Element, element.tag = tag ∧ slotOf element = slot := by
  cases slot with
  | none => exact ⟨leaf tag "", rfl, slotOf_empty announced (gap rfl)⟩
  | some node =>
    obtain ⟨other, maker, built⟩ := filled node rfl
    rw [fits node rfl] at maker
    obtain rfl := Option.some.inj maker
    exact built tag announced

end

section

variable {slots : List Slot}

theorem exists_map_slotOf (filled : ∀ node, some node ∈ slots → Buildable node) :
    ∃ elements : List Element, elements.map slotOf = slots := by
  have each : ∀ slot ∈ slots, ∃ element : Element, True ∧ slotOf element = slot := by
    intro slot member
    obtain ⟨element, same⟩ := exists_slotOf fun node is => filled node (is ▸ member)
    exact ⟨element, trivial, same⟩
  obtain ⟨elements, _, same⟩ := exists_map_eq each
  exact ⟨elements, same⟩

theorem exists_map_slotOf_of_fits {tag : String} {kind : Kind}
    (announced : Kind.ofTag? tag = some kind) (canFail : kind.CanFail)
    (fits : ∀ slot ∈ slots, Node.Fits kind slot)
    (filled : ∀ node, some node ∈ slots → Buildable node) :
    ∃ elements : List Element, (∀ element ∈ elements, element.tag = tag) ∧
      elements.map slotOf = slots :=
  exists_map_eq fun slot member => exists_slotOf_of_fits announced (fits slot member)
    (fun _ => canFail) fun node is => filled node (is ▸ member)

/-- The slots of a declaration are filled by elements of the right names. -/
theorem exists_declared {tags parameters body : List Slot}
    (fits : (∀ slot ∈ tags, Node.Fits .tag slot) ∧ ∀ slot ∈ parameters, Node.Fits .parameter slot)
    (filled : ∀ node, some node ∈ tags ++ (parameters ++ body) → Buildable node) :
    ∃ tagElements parameterElements steps : List Element,
      (∀ element ∈ tagElements, element.tag = "tag") ∧ tagElements.map slotOf = tags ∧
      (∀ element ∈ parameterElements, element.tag = "parameter") ∧
      parameterElements.map slotOf = parameters ∧ steps.map slotOf = body := by
  have tagAnnounced : Kind.ofTag? "tag" = some .tag := rfl
  have parameterAnnounced : Kind.ofTag? "parameter" = some .parameter := rfl
  simp only [List.mem_append] at filled
  obtain ⟨tagElements, tagsNamed, tagsSame⟩ :=
    exists_map_slotOf_of_fits tagAnnounced (by decide) fits.1
      fun node member => filled node (.inl member)
  obtain ⟨parameterElements, parametersNamed, parametersSame⟩ :=
    exists_map_slotOf_of_fits parameterAnnounced (by decide) fits.2
      fun node member => filled node (.inr (.inl member))
  obtain ⟨steps, stepsSame⟩ :=
    exists_map_slotOf fun node member => filled node (.inr (.inr member))
  exact ⟨tagElements, parameterElements, steps, tagsNamed, tagsSame, parametersNamed,
    parametersSame, stepsSame⟩

theorem exists_map_heldSlot (name : String) (filled : ∀ node, some node ∈ slots → Buildable node) :
    ∃ wrappers : List Element, (∀ wrapper ∈ wrappers, wrapper.tag = name) ∧
      wrappers.map (heldSlot slotOf) = slots :=
  exists_map_eq fun _ member => exists_heldSlot name fun node is => filled node (is ▸ member)

/-- Named entries come from wrappers with their names. -/
theorem exists_map_entries {make : String → Slot → Node}
    (named : ∀ slot ∈ slots, ∃ name value, slot = some (make name value))
    (value : ∀ name value, Node.entryValue (some (make name value)) = value)
    (filled : ∀ node, some node ∈ slots.map Node.entryValue → Buildable node) :
    ∃ wrappers : List Element, wrappers.map (fun wrapper =>
      some (make wrapper.tag (heldSlot slotOf wrapper))) = slots := by
  have each : ∀ slot ∈ slots, ∃ wrapper : Element, True ∧
      some (make wrapper.tag (heldSlot slotOf wrapper)) = slot := by
    intro slot member
    obtain ⟨name, inner, rfl⟩ := named slot member
    have inside (node : Node) (is : inner = some node) : Buildable node :=
      filled node (List.mem_map.mpr ⟨_, member, by rw [value, is]⟩)
    obtain ⟨wrapper, rfl, rfl⟩ := exists_heldSlot name inside
    exact ⟨wrapper, trivial, rfl⟩
  obtain ⟨wrappers, _, same⟩ := exists_map_eq each
  exact ⟨wrappers, same⟩

end

/-! ### Each rule on plain elements -/

section

variable (tag : String)

theorem made_string (value : String) : Made slotOf (leaf tag value) .string (.string value) := by
  have made : Made slotOf (leaf tag value) .string (.string (leaf tag value).content) := .string
  rwa [content_leaf] at made

theorem made_number {text : String} {value : Number} (read : Number.ofText text = .ok value) :
    Made slotOf (leaf tag text) .number (.number value) :=
  .number (by rwa [content_leaf])

theorem made_boolean (value : Bool) :
    Made slotOf (leaf tag (Text.truthWord value)) .boolean (.boolean value) := by
  have read : Literal.readBoolean (Text.truthWord value) = .ok value := by
    cases value <;> decide
  exact .boolean (by rwa [content_leaf])

theorem made_var {name : String}
    (named : ∃ character ∈ name.toList, Text.isBlank character = false) :
    Made slotOf (leaf tag name) .var (.var name) := by
  have visible : Text.trim (leaf tag name).content.toList ≠ [] := by
    rw [content_leaf]
    intro blank
    obtain ⟨character, member, visible⟩ := named
    rw [Text.trim_eq_nil_iff.mp blank character member] at visible
    cases visible
  have made : Made slotOf (leaf tag name) .var (.var (leaf tag name).content) := .var visible
  rwa [content_leaf] at made

theorem made_field (base : Element) (name : String) :
    Made slotOf (branch tag [branch "base" [base], leaf "name" name]) .field
      (.field (slotOf base) name) := by
  have made : Made slotOf (branch tag [branch "base" [base], leaf "name" name]) .field
      (.field (slotOf base) (leaf "name" name).content) :=
    .field (by simp [selectFirst?, select, answers]) (by simp [selectFirst?, select, answers])
  rwa [content_leaf] at made

theorem made_index (base expression : Element) :
    Made slotOf (branch tag [branch "base" [base], branch "expression" [expression]]) .index
      (.index (slotOf base) (slotOf expression)) :=
  .index (by simp [selectFirst?, select, answers]) (by simp [selectFirst?, select, answers])

theorem made_binary (left : Element) (operator : String) (right : Element) :
    Made slotOf (branch tag [leaf "operator" operator, branch "left" [left],
      branch "right" [right]]) .operation (.binary (slotOf left) operator (slotOf right)) := by
  have made : Made slotOf (branch tag [leaf "operator" operator, branch "left" [left],
      branch "right" [right]]) .operation
        (.binary (slotOf left) (leaf "operator" operator).content (slotOf right)) :=
    .binary (by simp [selectFirst?, select, answers]; rfl)
      (by simp [selectFirst?, select, answers]) (by simp [selectFirst?, select, answers])
      (by simp [selectFirst?, select, answers])
  rwa [content_leaf] at made

theorem made_unary (operator : String) (expression : Element) :
    Made slotOf (branch tag [leaf "operator" operator, branch "expression" [expression]])
      .operation (.unary operator (slotOf expression)) := by
  have made : Made slotOf (branch tag [leaf "operator" operator,
      branch "expression" [expression]]) .operation
        (.unary (leaf "operator" operator).content (slotOf expression)) :=
    .unary (by simp [selectFirst?, select, answers]) (by simp [selectFirst?, select, answers])
      (by simp [selectFirst?, select, answers])
  rwa [content_leaf] at made

theorem made_parenthesis (content : Element) :
    Made slotOf (branch tag [content]) .parenthesis (.parenthesis (slotOf content)) :=
  .parenthesis (by simp [selectFirst?, select_star])

theorem made_list {items : List Element} (named : ∀ item ∈ items, item.tag = "item") :
    Made slotOf (branch tag items) .list (.list (items.map (heldSlot slotOf))) := by
  have made : Made slotOf (branch tag items) .list _ := .list
  simpa [select, answers, filter_named named] using made

theorem made_dict (entries : List Element) :
    Made slotOf (branch tag entries) .dict (.dict (entries.map fun entry =>
      some (.property entry.tag (heldSlot slotOf entry)))) := by
  have made : Made slotOf (branch tag entries) .dict _ := .dict
  rwa [select_star] at made

theorem made_template (chunks : List Element) :
    Made slotOf (branch tag chunks) .template (.template (chunks.map slotOf)) := by
  have made : Made slotOf (branch tag chunks) .template _ := .template
  rwa [select_star] at made

theorem made_assign (target value : Element) :
    Made slotOf (branch tag [branch "to" [target], branch "value" [value]]) .assign
      (.assign (slotOf target) (slotOf value)) :=
  .assign (by simp [selectFirst?, select, answers]) (by simp [selectFirst?, select, answers])

theorem made_call (name : String) (arguments : List Element) :
    Made slotOf (branch tag [branch "arguments" arguments, leaf "actionword" name]) .call
      (.call name (arguments.map fun argument =>
        some (.argument argument.tag (heldSlot slotOf argument)))) := by
  have made : Made slotOf (branch tag [branch "arguments" arguments, leaf "actionword" name])
      .call _ := .call (by simp [selectFirst?, select, answers]; rfl)
  simpa [select, answers] using made

theorem made_conditional (condition : Element) (thens elses : List Element) :
    Made slotOf (branch tag [branch "condition" [condition], branch "then" thens,
      branch "else" elses]) .conditional
        (.conditional (slotOf condition) (thens.map slotOf) (elses.map slotOf)) := by
  have made : Made slotOf (branch tag [branch "condition" [condition], branch "then" thens,
      branch "else" elses]) .conditional _ :=
    .conditional (by simp [selectFirst?, select, answers]; rfl)
  simpa [select, answers] using made

theorem made_loop (condition : Element) (body : List Element) :
    Made slotOf (branch tag [branch "condition" [condition], branch "body" body]) .loop
      (.loop (slotOf condition) (body.map slotOf)) := by
  have made : Made slotOf (branch tag [branch "condition" [condition], branch "body" body])
      .loop _ := .loop (by simp [selectFirst?, select, answers]; rfl)
  simpa [select, answers] using made

theorem made_step {payload : Element} {kind : Kind} (known : Kind.ofTag? payload.tag = some kind) :
    Made slotOf (branch tag [payload]) .step (.step payload.tag (slotOf payload)) :=
  .step rfl known

theorem made_role {role : String} (unknown : Kind.ofTag? role = none) (payload : Element) :
    Made slotOf (branch tag [branch role [payload]]) .step (.step role (slotOf payload)) := by
  have inside : (branch role [payload]).selectFirst? ["*"] = some payload := by
    simp [selectFirst?, select_star]
  have made : Made slotOf (branch tag [branch role [payload]]) .step
      (.step (branch role [payload]).tag (slotOf payload)) := .role rfl unknown inside
  exact made

theorem made_tag (key : String) (value : Option String) :
    Made slotOf (branch tag (leaf "key" key :: (value.map (leaf "value")).toList)) .tag
      (.tag key value) := by
  have made : Made slotOf (branch tag (leaf "key" key :: (value.map (leaf "value")).toList))
      .tag _ := .tag (by simp [selectFirst?, select, answers]; rfl)
  cases value with
  | none => simpa [selectFirst?, select, answers] using made
  | some value => simpa [selectFirst?, select, answers] using made

theorem made_parameter (name : String) {wrapper : Element} (named : wrapper.tag = "default_value") :
    Made slotOf (branch tag [leaf "name" name, wrapper]) .parameter
      (.parameter name (heldSlot slotOf wrapper)) := by
  have made : Made slotOf (branch tag [leaf "name" name, wrapper]) .parameter _ :=
    .parameter (by simp [selectFirst?, select, answers]; rfl)
  simpa [selectFirst?, select, answers, named] using made

theorem made_actionword (name : String) {tags parameters : List Element} (steps : List Element)
    (tagsNamed : ∀ element ∈ tags, element.tag = "tag")
    (parametersNamed : ∀ element ∈ parameters, element.tag = "parameter") :
    Made slotOf (branch tag [leaf "name" name, branch "tags" tags,
      branch "parameters" parameters, branch "steps" steps]) .actionword
        (.actionword name (tags.map slotOf) (parameters.map slotOf) (steps.map slotOf)) := by
  have made : Made slotOf (branch tag [leaf "name" name, branch "tags" tags,
      branch "parameters" parameters, branch "steps" steps]) .actionword _ :=
    .actionword (by simp [selectFirst?, select, answers]; rfl)
  simpa [select, answers, filter_named tagsNamed, filter_named parametersNamed] using made

theorem made_scenario (name description : String) {tags parameters : List Element}
    (steps : List Element) (tagsNamed : ∀ element ∈ tags, element.tag = "tag")
    (parametersNamed : ∀ element ∈ parameters, element.tag = "parameter") :
    Made slotOf (branch tag [leaf "name" name, leaf "description" description,
      branch "tags" tags, branch "parameters" parameters, branch "steps" steps]) .scenario
        (.scenario name description (tags.map slotOf) (parameters.map slotOf)
          (steps.map slotOf)) := by
  have made : Made slotOf (branch tag [leaf "name" name, leaf "description" description,
      branch "tags" tags, branch "parameters" parameters, branch "steps" steps]) .scenario _ :=
    .scenario (by simp [selectFirst?, select, answers]; rfl)
  simpa [selectFirst?, select, answers, filter_named tagsNamed, filter_named parametersNamed]
    using made

theorem made_actionwords {items : List Element} (named : ∀ item ∈ items, item.tag = "actionword") :
    Made slotOf (branch tag items) .actionwords (.actionwords (items.map slotOf)) := by
  have made : Made slotOf (branch tag items) .actionwords _ := .actionwords
  simpa [select, answers, filter_named named] using made

theorem made_scenarios {items : List Element} (named : ∀ item ∈ items, item.tag = "scenario") :
    Made slotOf (branch tag items) .scenarios (.scenarios (items.map slotOf)) := by
  have made : Made slotOf (branch tag items) .scenarios _ := .scenarios
  simpa [select, answers, filter_named named] using made

end

/-! ### The image of building -/

/-- Every node that is well shaped comes from some element. -/
theorem buildable_of_wellShaped {node : Node} (wellShaped : node.WellShaped) : Buildable node := by
  induction wellShaped with
  | @node node shaped _ filled =>
    have filledAt (slot : Slot) (member : slot ∈ node.slots) (part : Node)
        (is : slot = some part) : Buildable part := filled part (is ▸ member)
    cases node with
    | property _ _ | argument _ _ | project _ _ _ _ => exact shaped.elim
    | null => exact .of_made (fun tag => tag_leaf tag "") fun _ => .null
    | string value =>
      exact .of_made (fun tag => tag_leaf tag value) fun tag => made_string tag value
    | number value =>
      obtain ⟨text, read⟩ := Number.exists_ofText_iff.mpr shaped
      exact .of_made (fun tag => tag_leaf tag text) fun tag => made_number tag read
    | boolean value => exact .of_made (fun tag => tag_leaf tag _) fun tag => made_boolean tag value
    | var name => exact .of_made (fun tag => tag_leaf tag name) fun tag => made_var tag shaped
    | field base name =>
      obtain ⟨base, rfl⟩ := exists_slotOf (filledAt base (by simp [Node.slots]))
      exact .of_made (fun tag => tag_branch tag _) fun tag => made_field tag base name
    | index base expression =>
      obtain ⟨base, rfl⟩ := exists_slotOf (filledAt base (by simp [Node.slots]))
      obtain ⟨expression, rfl⟩ := exists_slotOf (filledAt expression (by simp [Node.slots]))
      exact .of_made (fun tag => tag_branch tag _) fun tag => made_index tag base expression
    | binary left operator right =>
      obtain ⟨left, rfl⟩ := exists_slotOf (filledAt left (by simp [Node.slots]))
      obtain ⟨right, rfl⟩ := exists_slotOf (filledAt right (by simp [Node.slots]))
      exact .of_made (fun tag => tag_branch tag _) fun tag => made_binary tag left operator right
    | unary operator expression =>
      obtain ⟨expression, rfl⟩ := exists_slotOf (filledAt expression (by simp [Node.slots]))
      exact .of_made (fun tag => tag_branch tag _) fun tag => made_unary tag operator expression
    | parenthesis content =>
      obtain ⟨content, rfl⟩ := exists_slotOf (filledAt content (by simp [Node.slots]))
      exact .of_made (fun tag => tag_branch tag _) fun tag => made_parenthesis tag content
    | list items =>
      obtain ⟨items, named, rfl⟩ := exists_map_heldSlot "item" filled
      exact .of_made (fun tag => tag_branch tag _) fun tag => made_list tag named
    | dict items =>
      obtain ⟨entries, rfl⟩ := exists_map_entries shaped (fun _ _ => rfl) filled
      exact .of_made (fun tag => tag_branch tag _) fun tag => made_dict tag entries
    | template chunks =>
      obtain ⟨chunks, rfl⟩ := exists_map_slotOf filled
      exact .of_made (fun tag => tag_branch tag _) fun tag => made_template tag chunks
    | assign target value =>
      obtain ⟨target, rfl⟩ := exists_slotOf (filledAt target (by simp [Node.slots]))
      obtain ⟨value, rfl⟩ := exists_slotOf (filledAt value (by simp [Node.slots]))
      exact .of_made (fun tag => tag_branch tag _) fun tag => made_assign tag target value
    | call name arguments =>
      obtain ⟨arguments, rfl⟩ := exists_map_entries shaped (fun _ _ => rfl) filled
      exact .of_made (fun tag => tag_branch tag _) fun tag => made_call tag name arguments
    | conditional condition thenBody elseBody =>
      obtain ⟨condition, rfl⟩ := exists_slotOf (filledAt condition (by simp [Node.slots]))
      obtain ⟨thens, rfl⟩ := exists_map_slotOf fun part (member : some part ∈ thenBody) =>
        filled part (by simp [Node.slots, member])
      obtain ⟨elses, rfl⟩ := exists_map_slotOf fun part (member : some part ∈ elseBody) =>
        filled part (by simp [Node.slots, member])
      exact .of_made (fun tag => tag_branch tag _) fun tag =>
        made_conditional tag condition thens elses
    | loop condition body =>
      obtain ⟨condition, rfl⟩ := exists_slotOf (filledAt condition (by simp [Node.slots]))
      obtain ⟨body, rfl⟩ := exists_map_slotOf fun part (member : some part ∈ body) =>
        filled part (by simp [Node.slots, member])
      exact .of_made (fun tag => tag_branch tag _) fun tag => made_loop tag condition body
    | step key value =>
      -- a key that is a tag must be the tag of the payload itself; any other is a role around it
      have filledValue := filledAt value (by simp [Node.slots])
      cases announced : Kind.ofTag? key with
      | none =>
        obtain ⟨payload, rfl⟩ := exists_slotOf filledValue
        exact .of_made (fun tag => tag_branch tag _) fun tag => made_role tag announced payload
      | some kind =>
        obtain ⟨fits, gap⟩ := shaped kind announced
        obtain ⟨payload, rfl, rfl⟩ := exists_slotOf_of_fits announced fits gap filledValue
        exact .of_made (fun tag => tag_branch tag _) fun tag => made_step tag announced
    | tag key value =>
      exact .of_made (fun tag => tag_branch tag _) fun tag => made_tag tag key value
    | parameter name default =>
      obtain ⟨wrapper, named, rfl⟩ :=
        exists_heldSlot "default_value" (filledAt default (by simp [Node.slots]))
      exact .of_made (fun tag => tag_branch tag _) fun tag => made_parameter tag name named
    | actionword name tags parameters body =>
      obtain ⟨tags, parameters, steps, tagsNamed, rfl, parametersNamed, rfl, rfl⟩ :=
        exists_declared shaped filled
      exact .of_made (fun tag => tag_branch tag _) fun tag =>
        made_actionword tag name steps tagsNamed parametersNamed
    | scenario name description tags parameters body =>
      obtain ⟨tags, parameters, steps, tagsNamed, rfl, parametersNamed, rfl, rfl⟩ :=
        exists_declared shaped filled
      exact .of_made (fun tag => tag_branch tag _) fun tag =>
        made_scenario tag name description steps tagsNamed parametersNamed
    | actionwords items =>
      have announced : Kind.ofTag? "actionword" = some .actionword := rfl
      obtain ⟨items, named, rfl⟩ :=
        exists_map_slotOf_of_fits announced (by decide) shaped filled
      exact .of_made (fun tag => tag_branch tag _) fun tag => made_actionwords tag named
    | scenarios items =>
      have announced : Kind.ofTag? "scenario" = some .scenario := rfl
      obtain ⟨items, named, rfl⟩ :=
        exists_map_slotOf_of_fits announced (by decide) shaped filled
      exact .of_made (fun tag => tag_branch tag _) fun tag => made_scenarios tag named

/-- In every session, some element is built to a node exactly when the node is well shaped. -/
theorem exists_build_iff_wellShaped (session : Session) (node : Node) :
    (∃ element, (session.build element).1 = .ok node) ↔ node.WellShaped := by
  simp only [Session.build_eq]
  constructor
  · rintro ⟨element, built⟩
    exact wellShaped_of_build built
  · intro wellShaped
    obtain ⟨kind, _, built⟩ := buildable_of_wellShaped wellShaped
    obtain ⟨tag, announced⟩ := kind.exists_tag
    obtain ⟨element, _, slot⟩ := built tag announced
    exact ⟨element, slotOf_eq_some_iff.mp slot⟩

end Build

end ScenarioTree
