/-
This file says once and for all what a construction rule can do. A rule either makes a node, and
then `Made` gives the node, field by field, in terms of the element and of the slots its parts were
built for; or it fails, and then `Defect` gives what the element itself lacks. Neither mentions the
order in which a rule looks for things, and a defect does not mention what building a part came to.

The two relations exclude each other and together they describe the rules exactly (`made_iff`,
`defect_of_error`), so that what is proved of rules later is proved by cases on them.
-/

import ScenarioTree.Proofs.Blank
import ScenarioTree.Proofs.Plan

namespace ScenarioTree.Build

open ScenarioTree.Xml (Element Path)

theorem selectFirst?_eq_none_iff {element : Element} {path : Path} :
    element.selectFirst? path = none ↔ element.select path = [] :=
  List.head?_eq_none_iff

theorem select_ne_nil_of_first {element found : Element} {path : Path}
    (first : element.selectFirst? path = some found) : element.select path ≠ [] := fun none => by
  rw [selectFirst?_eq_none_iff.mpr none] at first
  cases first

/-- A star leads to all children. -/
theorem select_star (element : Element) : element.select ["*"] = element.children := by
  simp [Element.select, Element.answers]

theorem select_star_eq_nil_iff {element : Element} :
    element.select ["*"] = [] ↔ element.children = [] := by
  rw [select_star]

theorem answers_of_mem_select {element found : Element} {path : Path} {step : String}
    (member : found ∈ element.select (path ++ [step])) : found.answers step := by
  induction path generalizing element with
  | nil =>
    simp only [List.nil_append, Element.select, List.flatMap_singleton', List.mem_filter] at member
    exact member.2
  | cons first rest induction =>
    obtain ⟨child, _, below⟩ := List.mem_flatMap.mp member
    exact induction below

theorem tag_of_mem_select {element found : Element} (path : Path) {name : String}
    (other : name ≠ "*") (member : found ∈ element.select (path ++ [name])) :
    found.tag = name := by
  have answers := answers_of_mem_select member
  simpa [Element.answers, other] using answers

/-! ### What rules make -/

/-- The node that an element of a kind makes when `slotOf` says what its parts were built to. -/
inductive Made (slotOf : Element → Slot) (element : Element) : Kind → Node → Prop where
  | null : Made slotOf element .null .null
  | string : Made slotOf element .string (.string element.content)
  | number {value : Number} (read : Number.ofText element.content = .ok value) :
      Made slotOf element .number (.number value)
  | boolean {value : Bool} (read : Literal.readBoolean element.content = .ok value) :
      Made slotOf element .boolean (.boolean value)
  | var (named : Text.trim element.content.toList ≠ []) :
      Made slotOf element .var (.var element.content)
  | field {base name : Element} (baseFound : element.selectFirst? ["base", "*"] = some base)
      (nameFound : element.selectFirst? ["name"] = some name) :
      Made slotOf element .field (.field (slotOf base) name.content)
  | index {base expression : Element}
      (baseFound : element.selectFirst? ["base", "*"] = some base)
      (expressionFound : element.selectFirst? ["expression", "*"] = some expression) :
      Made slotOf element .index (.index (slotOf base) (slotOf expression))
  | binary {side operator left right : Element}
      (sideFound : element.selectFirst? ["left"] = some side)
      (operatorFound : element.selectFirst? ["operator"] = some operator)
      (leftFound : element.selectFirst? ["left", "*"] = some left)
      (rightFound : element.selectFirst? ["right", "*"] = some right) :
      Made slotOf element .operation (.binary (slotOf left) operator.content (slotOf right))
  | unary {operator expression : Element} (oneSided : element.selectFirst? ["left"] = none)
      (operatorFound : element.selectFirst? ["operator"] = some operator)
      (expressionFound : element.selectFirst? ["expression", "*"] = some expression) :
      Made slotOf element .operation (.unary operator.content (slotOf expression))
  | parenthesis {content : Element} (contentFound : element.selectFirst? ["*"] = some content) :
      Made slotOf element .parenthesis (.parenthesis (slotOf content))
  | list : Made slotOf element .list (.list ((element.select ["item"]).map (heldSlot slotOf)))
  | dict :
      Made slotOf element .dict (.dict ((element.select ["*"]).map fun entry =>
        some (.property entry.tag (heldSlot slotOf entry))))
  | template : Made slotOf element .template (.template ((element.select ["*"]).map slotOf))
  | assign {target value : Element} (targetFound : element.selectFirst? ["to", "*"] = some target)
      (valueFound : element.selectFirst? ["value", "*"] = some value) :
      Made slotOf element .assign (.assign (slotOf target) (slotOf value))
  | call {name : Element} (nameFound : element.selectFirst? ["actionword"] = some name) :
      Made slotOf element .call
        (.call name.content ((element.select ["arguments", "*"]).map fun argument =>
          some (.argument argument.tag (heldSlot slotOf argument))))
  | conditional {condition : Element}
      (conditionFound : element.selectFirst? ["condition", "*"] = some condition) :
      Made slotOf element .conditional
        (.conditional (slotOf condition) ((element.select ["then", "*"]).map slotOf)
          ((element.select ["else", "*"]).map slotOf))
  | loop {condition : Element}
      (conditionFound : element.selectFirst? ["condition", "*"] = some condition) :
      Made slotOf element .loop
        (.loop (slotOf condition) ((element.select ["body", "*"]).map slotOf))
  | step {payload : Element} {kind : Kind} (payloadFound : element.firstChild? = some payload)
      (known : Kind.ofTag? payload.tag = some kind) :
      Made slotOf element .step (.step payload.tag (slotOf payload))
  | role {role payload : Element} (roleFound : element.firstChild? = some role)
      (unknown : Kind.ofTag? role.tag = none)
      (payloadFound : role.selectFirst? ["*"] = some payload) :
      Made slotOf element .step (.step role.tag (slotOf payload))
  | tag {key : Element} (keyFound : element.selectFirst? ["key"] = some key) :
      Made slotOf element .tag
        (.tag key.content ((element.selectFirst? ["value"]).map Element.content))
  | parameter {name : Element} (nameFound : element.selectFirst? ["name"] = some name) :
      Made slotOf element .parameter
        (.parameter name.content
          ((element.selectFirst? ["default_value"]).bind (heldSlot slotOf)))
  | actionword {name : Element} (nameFound : element.selectFirst? ["name"] = some name) :
      Made slotOf element .actionword
        (.actionword name.content ((element.select ["tags", "tag"]).map slotOf)
          ((element.select ["parameters", "parameter"]).map slotOf)
          ((element.select ["steps", "*"]).map slotOf))
  | scenario {name : Element} (nameFound : element.selectFirst? ["name"] = some name) :
      Made slotOf element .scenario
        (.scenario name.content
          (((element.selectFirst? ["description"]).map Element.content).getD "")
          ((element.select ["tags", "tag"]).map slotOf)
          ((element.select ["parameters", "parameter"]).map slotOf)
          ((element.select ["steps", "*"]).map slotOf))
  | actionwords :
      Made slotOf element .actionwords (.actionwords ((element.select ["actionword"]).map slotOf))
  | scenarios :
      Made slotOf element .scenarios (.scenarios ((element.select ["scenario"]).map slotOf))

/-! ### Each rule makes what is described -/

section

variable (build : Element → Yield) {element : Element} {node : Node}

theorem literalNumber_made_iff :
    Literal.number (.source (.element element)) = .ok node ↔
      Made (fun part => (build part).slot) element .number node := by
  rw [Literal.number, Literal.readNumber, TextSource.content]
  constructor
  · intro made
    cases read : Number.ofText element.content with
    | error refusal =>
      rw [read] at made
      cases made
    | ok value =>
      rw [read] at made
      cases made
      exact .number read
  · intro made
    cases made with
    | number read => rw [read]; rfl

theorem literalBoolean_made_iff :
    Literal.boolean (.source (.element element)) = .ok node ↔
      Made (fun part => (build part).slot) element .boolean node := by
  rw [Literal.boolean, TextSource.content]
  constructor
  · intro made
    cases read : Literal.readBoolean element.content with
    | error cause =>
      rw [read] at made
      cases made
    | ok value =>
      rw [read] at made
      cases made
      exact .boolean read
  · intro made
    cases made with
    | boolean read => rw [read]; rfl

theorem planVar_made_iff :
    ((planVar element).run build).result = .ok node ↔
      Made (fun part => (build part).slot) element .var node := by
  rw [planVar]
  constructor
  · intro made
    split at made
    · exact ((Plan.fail_ok_iff build).mp made).elim
    · next named =>
      obtain rfl := (Plan.done_ok_iff build).mp made
      exact .var (by simpa using named)
  · intro made
    cases made with
    | var named => simp [named]

theorem planField_made_iff :
    ((planField element).run build).result = .ok node ↔
      Made (fun part => (build part).slot) element .field node := by
  simp only [planField, Plan.seq_ok_iff, Plan.map_ok_iff, slotAt_ok_iff, textAt_ok_iff]
  constructor
  · rintro ⟨_, _, ⟨_, ⟨base, baseFound, rfl⟩, rfl⟩, ⟨name, nameFound, rfl⟩, rfl⟩
    exact .field baseFound nameFound
  · intro made
    cases made with
    | field baseFound nameFound => simp [baseFound, nameFound]

theorem planIndex_made_iff :
    ((planIndex element).run build).result = .ok node ↔
      Made (fun part => (build part).slot) element .index node := by
  simp only [planIndex, Plan.seq_ok_iff, Plan.map_ok_iff, slotAt_ok_iff]
  constructor
  · rintro ⟨_, _, ⟨_, ⟨base, baseFound, rfl⟩, rfl⟩, ⟨expression, expressionFound, rfl⟩, rfl⟩
    exact .index baseFound expressionFound
  · intro made
    cases made with
    | index baseFound expressionFound => simp [baseFound, expressionFound]

theorem planOperation_made_iff :
    ((planOperation element).run build).result = .ok node ↔
      Made (fun part => (build part).slot) element .operation node := by
  rw [planOperation]
  cases sideFound : element.selectFirst? ["left"] with
  | none =>
    simp only [Option.isSome_none, Bool.false_eq_true, if_false, Plan.seq_ok_iff,
      Plan.map_ok_iff, slotAt_ok_iff, textAt_ok_iff]
    constructor
    · rintro ⟨_, _, ⟨_, ⟨operator, operatorFound, rfl⟩, rfl⟩,
        ⟨expression, expressionFound, rfl⟩, rfl⟩
      exact .unary sideFound operatorFound expressionFound
    · intro made
      cases made with
      | binary otherFound => simp [sideFound] at otherFound
      | unary _ operatorFound expressionFound => simp [operatorFound, expressionFound]
  | some side =>
    simp only [Option.isSome_some, if_true, Plan.seq_ok_iff, Plan.map_ok_iff, slotAt_ok_iff,
      textAt_ok_iff]
    constructor
    · rintro ⟨_, _, ⟨_, _, ⟨_, ⟨operator, operatorFound, rfl⟩, rfl⟩, ⟨left, leftFound, rfl⟩, rfl⟩,
        ⟨right, rightFound, rfl⟩, rfl⟩
      exact .binary sideFound operatorFound leftFound rightFound
    · intro made
      cases made with
      | binary _ operatorFound leftFound rightFound =>
        simp [operatorFound, leftFound, rightFound]
      | unary oneSided => simp [sideFound] at oneSided

theorem planCall_made_iff :
    ((planCall element).run build).result = .ok node ↔
      Made (fun part => (build part).slot) element .call node := by
  simp only [planCall, Plan.seq_ok_iff, Plan.map_ok_iff, entriesAt_ok_iff, textAt_ok_iff]
  constructor
  · rintro ⟨_, _, ⟨_, rfl, rfl⟩, ⟨name, nameFound, rfl⟩, rfl⟩
    exact .call nameFound
  · intro made
    cases made with
    | call nameFound => simp [nameFound]

theorem planConditional_made_iff :
    ((planConditional element).run build).result = .ok node ↔
      Made (fun part => (build part).slot) element .conditional node := by
  simp only [planConditional, Plan.seq_ok_iff, Plan.map_ok_iff, slotAt_ok_iff, slotsAt_ok_iff]
  constructor
  · rintro ⟨_, _, ⟨_, _, ⟨_, ⟨condition, conditionFound, rfl⟩, rfl⟩, rfl, rfl⟩, rfl, rfl⟩
    exact .conditional conditionFound
  · intro made
    cases made with
    | conditional conditionFound => simp [conditionFound]

theorem planStep_made_iff :
    ((planStep element).run build).result = .ok node ↔
      Made (fun part => (build part).slot) element .step node := by
  rw [planStep]
  cases firstFound : element.firstChild? with
  | none =>
    simp only [Plan.fail_ok_iff, false_iff]
    intro made
    cases made with
    | step payloadFound => simp [firstFound] at payloadFound
    | role roleFound => simp [firstFound] at roleFound
  | some first =>
    simp only
    cases announced : Kind.ofTag? first.tag with
    | none =>
      simp only [Option.isSome_none, Bool.false_eq_true, if_false, Plan.map_ok_iff, slotAt_ok_iff]
      constructor
      · rintro ⟨_, ⟨payload, payloadFound, rfl⟩, rfl⟩
        exact .role firstFound announced payloadFound
      · intro made
        cases made with
        | step payloadFound known =>
          obtain rfl := Option.some.inj (firstFound.symm.trans payloadFound)
          simp [announced] at known
        | role roleFound _ payloadFound =>
          obtain rfl := Option.some.inj (firstFound.symm.trans roleFound)
          simp [payloadFound]
    | some kind =>
      simp only [Option.isSome_some, if_true, Plan.map_ok_iff, Plan.slot_ok_iff]
      constructor
      · rintro ⟨_, rfl, rfl⟩
        exact .step firstFound announced
      · intro made
        cases made with
        | step payloadFound _ =>
          obtain rfl := Option.some.inj (firstFound.symm.trans payloadFound)
          exact ⟨_, rfl, rfl⟩
        | role roleFound unknown =>
          obtain rfl := Option.some.inj (firstFound.symm.trans roleFound)
          simp [announced] at unknown

theorem planTag_made_iff :
    ((planTag element).run build).result = .ok node ↔
      Made (fun part => (build part).slot) element .tag node := by
  simp only [planTag, Plan.map_ok_iff, textAt_ok_iff]
  constructor
  · rintro ⟨_, ⟨key, keyFound, rfl⟩, rfl⟩
    exact .tag keyFound
  · intro made
    cases made with
    | tag keyFound => simp [keyFound]

theorem planParameter_made_iff :
    ((planParameter element).run build).result = .ok node ↔
      Made (fun part => (build part).slot) element .parameter node := by
  have described : Made (fun part => (build part).slot) element .parameter node ↔
      ∃ name, element.selectFirst? ["name"] = some name ∧
        .parameter name.content ((element.selectFirst? ["default_value"]).bind
          (heldSlot fun part => (build part).slot)) = node := by
    constructor
    · intro made
      cases made with
      | parameter nameFound => exact ⟨_, nameFound, rfl⟩
    · rintro ⟨name, nameFound, rfl⟩
      exact .parameter nameFound
  rw [described, planParameter]
  cases element.selectFirst? ["default_value"] with
  | none =>
    simp only [Plan.map_ok_iff, textAt_ok_iff, Option.bind_none]
    constructor
    · rintro ⟨_, ⟨name, nameFound, rfl⟩, rfl⟩
      exact ⟨name, nameFound, rfl⟩
    · rintro ⟨name, nameFound, rfl⟩
      exact ⟨_, ⟨name, nameFound, rfl⟩, rfl⟩
  | some wrapper =>
    simp only [Plan.seq_ok_iff, Plan.map_ok_iff, textAt_ok_iff, Plan.slot_ok_iff,
      Part.build_within_slot, Option.bind_some]
    constructor
    · rintro ⟨_, _, ⟨_, ⟨name, nameFound, rfl⟩, rfl⟩, rfl, rfl⟩
      exact ⟨name, nameFound, rfl⟩
    · rintro ⟨name, nameFound, rfl⟩
      exact ⟨_, _, ⟨_, ⟨name, nameFound, rfl⟩, rfl⟩, rfl, rfl⟩

theorem planActionword_made_iff :
    ((planActionword element).run build).result = .ok node ↔
      Made (fun part => (build part).slot) element .actionword node := by
  simp only [planActionword, planTags, planParameters, planSteps, Plan.seq_ok_iff,
    Plan.map_ok_iff, textAt_ok_iff, slotsAt_ok_iff]
  constructor
  · rintro ⟨_, _, ⟨_, _, ⟨_, _, ⟨_, ⟨name, nameFound, rfl⟩, rfl⟩, rfl, rfl⟩, rfl, rfl⟩, rfl, rfl⟩
    exact .actionword nameFound
  · intro made
    cases made with
    | actionword nameFound => simp [nameFound]

theorem planScenario_made_iff :
    ((planScenario element).run build).result = .ok node ↔
      Made (fun part => (build part).slot) element .scenario node := by
  simp only [planScenario, planTags, planParameters, planSteps, Plan.seq_ok_iff,
    Plan.map_ok_iff, textAt_ok_iff, slotsAt_ok_iff]
  constructor
  · rintro ⟨_, _, ⟨_, _, ⟨_, _, ⟨_, ⟨name, nameFound, rfl⟩, rfl⟩, rfl, rfl⟩, rfl, rfl⟩, rfl, rfl⟩
    exact .scenario nameFound
  · intro made
    cases made with
    | scenario nameFound => simp [nameFound]

/-- A rule makes exactly the nodes that `Made` describes. -/
theorem made_iff {kind : Kind} :
    ((kind.plan element).run build).result = .ok node ↔
      Made (fun part => (build part).slot) element kind node := by
  cases kind with
  | null =>
    rw [Kind.plan, Plan.done_ok_iff]
    exact ⟨fun made => made ▸ .null, fun made => by cases made; rfl⟩
  | string =>
    rw [Kind.plan, Plan.done_ok_iff]
    exact ⟨fun made => made ▸ .string, fun made => by cases made; rfl⟩
  | number => rw [Kind.plan, Plan.ofExcept_ok_iff, literalNumber_made_iff]
  | boolean => rw [Kind.plan, Plan.ofExcept_ok_iff, literalBoolean_made_iff]
  | var => exact planVar_made_iff build
  | field => exact planField_made_iff build
  | index => exact planIndex_made_iff build
  | operation => exact planOperation_made_iff build
  | parenthesis =>
    rw [Kind.plan, Plan.map_ok_iff]
    constructor
    · rintro ⟨_, content, rfl⟩
      obtain ⟨content, contentFound, rfl⟩ := (slotAt_ok_iff build).mp content
      exact .parenthesis contentFound
    · intro made
      cases made with
      | parenthesis contentFound => simp [contentFound]
  | list =>
    simp only [Kind.plan, planList, Plan.map_ok_iff, Plan.slots_ok_iff, List.map_map,
      Function.comp_def, Part.build_within_slot, exists_eq_left']
    exact ⟨fun made => made ▸ .list, fun made => by cases made; rfl⟩
  | dict =>
    simp only [Kind.plan, Plan.map_ok_iff, entriesAt_ok_iff, exists_eq_left']
    exact ⟨fun made => made ▸ .dict, fun made => by cases made; rfl⟩
  | template =>
    simp only [Kind.plan, Plan.map_ok_iff, slotsAt_ok_iff, exists_eq_left']
    exact ⟨fun made => made ▸ .template, fun made => by cases made; rfl⟩
  | assign =>
    simp only [Kind.plan, Plan.seq_ok_iff, Plan.map_ok_iff, slotAt_ok_iff]
    constructor
    · rintro ⟨_, _, ⟨_, ⟨target, targetFound, rfl⟩, rfl⟩, ⟨value, valueFound, rfl⟩, rfl⟩
      exact .assign targetFound valueFound
    · intro made
      cases made with
      | assign targetFound valueFound => simp [targetFound, valueFound]
  | call => exact planCall_made_iff build
  | conditional => exact planConditional_made_iff build
  | loop =>
    simp only [Kind.plan, Plan.seq_ok_iff, Plan.map_ok_iff, slotAt_ok_iff, slotsAt_ok_iff]
    constructor
    · rintro ⟨_, _, ⟨_, ⟨condition, conditionFound, rfl⟩, rfl⟩, rfl, rfl⟩
      exact .loop conditionFound
    · intro made
      cases made with
      | loop conditionFound => simp [conditionFound]
  | step => exact planStep_made_iff build
  | tag => exact planTag_made_iff build
  | parameter => exact planParameter_made_iff build
  | actionword => exact planActionword_made_iff build
  | scenario => exact planScenario_made_iff build
  | actionwords =>
    simp only [Kind.plan, Plan.map_ok_iff, slotsAt_ok_iff, exists_eq_left']
    exact ⟨fun made => made ▸ .actionwords, fun made => by cases made; rfl⟩
  | scenarios =>
    simp only [Kind.plan, Plan.map_ok_iff, slotsAt_ok_iff, exists_eq_left']
    exact ⟨fun made => made ▸ .scenarios, fun made => by cases made; rfl⟩

end

/-! ### What elements lack -/

/-- The paths that must lead to an element in an element of a kind. -/
def Kind.required (kind : Kind) (element : Element) : List Path :=
  match kind with
  | .field => [["base", "*"], ["name"]]
  | .index => [["base", "*"], ["expression", "*"]]
  | .operation =>
    ["operator"] ::
      if element.select ["left"] = [] then [["expression", "*"]]
      else [["left", "*"], ["right", "*"]]
  | .parenthesis => [["*"]]
  | .assign => [["to", "*"], ["value", "*"]]
  | .call => [["actionword"]]
  | .conditional | .loop => [["condition", "*"]]
  | .tag => [["key"]]
  | .parameter | .actionword | .scenario => [["name"]]
  | _ => []

/-- What an element lacks, whatever becomes of the elements in it: a kind, a text that can be read,
or a child that must be there. -/
inductive Defect (element : Element) : Cause → Prop where
  | kind (unknown : Kind.ofTag? element.tag = none) : Defect element (.unknownKind element.tag)
  | number {refusal : Number.Refusal} (announced : Kind.ofTag? element.tag = some .number)
      (refused : Number.ofText element.content = .error refusal) :
      Defect element (.ofRefusal element.content refusal)
  | boolean (announced : Kind.ofTag? element.tag = some .boolean)
      (notTrue : (Text.trim element.content.toList).map Char.toLower ≠ ['t', 'r', 'u', 'e'])
      (notFalse : (Text.trim element.content.toList).map Char.toLower ≠ ['f', 'a', 'l', 's', 'e']) :
      Defect element (.notBoolean element.content)
  | name (announced : Kind.ofTag? element.tag = some .var)
      (blank : ∀ character ∈ element.content.toList, Text.isBlank character) :
      Defect element .emptyName
  | child {kind : Kind} {path : Path} (announced : Kind.ofTag? element.tag = some kind)
      (required : path ∈ kind.required element) (absent : element.select path = []) :
      Defect element (.missingChild element.tag path)
  | payload (announced : Kind.ofTag? element.tag = some .step) (absent : element.children = []) :
      Defect element .missingPayload
  | role {role : Element} (announced : Kind.ofTag? element.tag = some .step)
      (first : element.children.head? = some role) (unknown : Kind.ofTag? role.tag = none)
      (absent : role.children = []) : Defect element (.missingChild role.tag ["*"])

theorem readBoolean_error_iff {text : String} {cause : Cause} :
    Literal.readBoolean text = .error cause ↔
      (Text.trim text.toList).map Char.toLower ≠ ['t', 'r', 'u', 'e'] ∧
        (Text.trim text.toList).map Char.toLower ≠ ['f', 'a', 'l', 's', 'e'] ∧
          .notBoolean text = cause := by
  rw [Literal.readBoolean]
  split
  · simp_all
  · split <;> simp_all

section

variable (build : Element → Yield) {element : Element}

/-- A required child that is absent is a defect. -/
theorem defect_of_missing {kind : Kind} {path : Path} {cause : Cause}
    (announced : Kind.ofTag? element.tag = some kind) (required : path ∈ kind.required element)
    (missing : element.selectFirst? path = none ∧ .missingChild element.tag path = cause) :
    Defect element cause := by
  obtain ⟨absent, rfl⟩ := missing
  exact .child announced required (selectFirst?_eq_none_iff.mp absent)

/-- A rule that fails names a defect of the element. -/
theorem defect_of_error {kind : Kind} {cause : Cause}
    (announced : Kind.ofTag? element.tag = some kind)
    (failed : ((kind.plan element).run build).result = .error cause) : Defect element cause := by
  have missing (path : Path) (required : path ∈ kind.required element)
      (absent : element.selectFirst? path = none ∧ .missingChild element.tag path = cause) :
      Defect element cause := defect_of_missing announced required absent
  cases kind with
  | null => exact ((Plan.done_error_iff build).mp failed).elim
  | string => exact ((Plan.done_error_iff build).mp failed).elim
  | number =>
    have refused := (Plan.ofExcept_error_iff build).mp failed
    rw [Literal.number, Literal.readNumber, TextSource.content] at refused
    cases read : Number.ofText element.content with
    | error refusal =>
      rw [read] at refused
      cases refused
      exact .number announced read
    | ok value =>
      rw [read] at refused
      cases refused
  | boolean =>
    have refused := (Plan.ofExcept_error_iff build).mp failed
    rw [Literal.boolean, TextSource.content] at refused
    cases read : Literal.readBoolean element.content with
    | error cause =>
      rw [read] at refused
      cases refused
      obtain ⟨notTrue, notFalse, rfl⟩ := readBoolean_error_iff.mp read
      exact .boolean announced notTrue notFalse
    | ok value =>
      rw [read] at refused
      cases refused
  | var =>
    rw [Kind.plan, planVar] at failed
    split at failed
    · next blank =>
      obtain rfl := (Plan.fail_error_iff build).mp failed
      exact .name announced (Text.trim_eq_nil_iff.mp (List.isEmpty_iff.mp blank))
    · exact ((Plan.done_error_iff build).mp failed).elim
  | field =>
    simp only [Kind.plan, planField, Plan.seq_error_iff, Plan.map_error_iff, slotAt_error_iff,
      textAt_error_iff] at failed
    rcases failed with absent | ⟨_, absent⟩
    · exact missing _ (by simp [Kind.required]) absent
    · exact missing _ (by simp [Kind.required]) absent
  | index =>
    simp only [Kind.plan, planIndex, Plan.seq_error_iff, Plan.map_error_iff,
      slotAt_error_iff] at failed
    rcases failed with absent | ⟨_, absent⟩
    · exact missing _ (by simp [Kind.required]) absent
    · exact missing _ (by simp [Kind.required]) absent
  | operation =>
    rw [Kind.plan, planOperation] at failed
    cases sideFound : element.selectFirst? ["left"] with
    | none =>
      have oneSided := selectFirst?_eq_none_iff.mp sideFound
      simp only [sideFound, Option.isSome_none, Bool.false_eq_true, if_false, Plan.seq_error_iff,
        Plan.map_error_iff, slotAt_error_iff, textAt_error_iff] at failed
      rcases failed with absent | ⟨_, absent⟩
      · exact missing _ (by simp [Kind.required]) absent
      · exact missing _ (by simp [Kind.required, oneSided]) absent
    | some side =>
      have twoSided := select_ne_nil_of_first sideFound
      simp only [sideFound, Option.isSome_some, if_true, Plan.seq_error_iff, Plan.map_error_iff,
        slotAt_error_iff, textAt_error_iff] at failed
      rcases failed with (absent | ⟨_, absent⟩) | ⟨_, absent⟩
      · exact missing _ (by simp [Kind.required]) absent
      · exact missing _ (by simp [Kind.required, twoSided]) absent
      · exact missing _ (by simp [Kind.required, twoSided]) absent
  | parenthesis =>
    simp only [Kind.plan, Plan.map_error_iff, slotAt_error_iff] at failed
    exact missing _ (by simp [Kind.required]) failed
  | list => simp [Kind.plan, planList] at failed
  | dict => simp [Kind.plan] at failed
  | template => simp [Kind.plan] at failed
  | assign =>
    simp only [Kind.plan, Plan.seq_error_iff, Plan.map_error_iff, slotAt_error_iff] at failed
    rcases failed with absent | ⟨_, absent⟩
    · exact missing _ (by simp [Kind.required]) absent
    · exact missing _ (by simp [Kind.required]) absent
  | call =>
    simp only [Kind.plan, planCall, Plan.seq_error_iff, Plan.map_error_iff, entriesAt_error_iff,
      textAt_error_iff, false_or] at failed
    exact missing _ (by simp [Kind.required]) failed.2
  | conditional =>
    simp only [Kind.plan, planConditional, Plan.seq_error_iff, Plan.map_error_iff,
      slotAt_error_iff, slotsAt_error_iff, and_false, or_false] at failed
    exact missing _ (by simp [Kind.required]) failed
  | loop =>
    simp only [Kind.plan, Plan.seq_error_iff, Plan.map_error_iff, slotAt_error_iff,
      slotsAt_error_iff, and_false, or_false] at failed
    exact missing _ (by simp [Kind.required]) failed
  | step =>
    rw [Kind.plan, planStep] at failed
    cases firstFound : element.firstChild? with
    | none =>
      rw [firstFound] at failed
      obtain rfl := (Plan.fail_error_iff build).mp failed
      exact .payload announced (List.head?_eq_none_iff.mp firstFound)
    | some first =>
      simp only [firstFound] at failed
      cases known : Kind.ofTag? first.tag with
      | none =>
        simp only [known, Option.isSome_none, Bool.false_eq_true, if_false, Plan.map_error_iff,
          slotAt_error_iff] at failed
        obtain ⟨absent, rfl⟩ := failed
        exact .role announced firstFound known
          (select_star_eq_nil_iff.mp (selectFirst?_eq_none_iff.mp absent))
      | some kind => simp [known] at failed
  | tag =>
    simp only [Kind.plan, planTag, Plan.map_error_iff, textAt_error_iff] at failed
    exact missing _ (by simp [Kind.required]) failed
  | parameter =>
    rw [Kind.plan, planParameter] at failed
    cases wrapperFound : element.selectFirst? ["default_value"] with
    | none =>
      simp only [wrapperFound, Plan.map_error_iff, textAt_error_iff] at failed
      exact missing _ (by simp [Kind.required]) failed
    | some wrapper =>
      simp only [wrapperFound, Plan.seq_error_iff, Plan.map_error_iff, textAt_error_iff,
        Plan.slot_error_iff, and_false, or_false] at failed
      exact missing _ (by simp [Kind.required]) failed
  | actionword =>
    simp only [Kind.plan, planActionword, planTags, planParameters, planSteps,
      Plan.seq_error_iff, Plan.map_error_iff, textAt_error_iff, slotsAt_error_iff, and_false,
      or_false] at failed
    exact missing _ (by simp [Kind.required]) failed
  | scenario =>
    simp only [Kind.plan, planScenario, planTags, planParameters, planSteps,
      Plan.seq_error_iff, Plan.map_error_iff, textAt_error_iff, slotsAt_error_iff, and_false,
      or_false] at failed
    exact missing _ (by simp [Kind.required]) failed
  | actionwords => simp [Kind.plan] at failed
  | scenarios => simp [Kind.plan] at failed

end

/-! ### A rule that makes a node names no defect -/

/-- An element that made a node has the children it must have. -/
theorem Made.present {slotOf : Element → Slot} {element : Element} {kind : Kind} {node : Node}
    (made : Made slotOf element kind node) {path : Path} (required : path ∈ kind.required element) :
    element.select path ≠ [] := by
  cases made
  case binary sideFound operatorFound leftFound rightFound =>
    rw [Kind.required, if_neg (select_ne_nil_of_first sideFound)] at required
    simp only [List.mem_cons, List.not_mem_nil, or_false] at required
    rcases required with rfl | rfl | rfl
    · exact select_ne_nil_of_first operatorFound
    · exact select_ne_nil_of_first leftFound
    · exact select_ne_nil_of_first rightFound
  case unary oneSided operatorFound expressionFound =>
    rw [Kind.required, if_pos (selectFirst?_eq_none_iff.mp oneSided)] at required
    simp only [List.mem_cons, List.not_mem_nil, or_false] at required
    rcases required with rfl | rfl
    · exact select_ne_nil_of_first operatorFound
    · exact select_ne_nil_of_first expressionFound
  case field first second | index first second | assign first second =>
    simp only [Kind.required, List.mem_cons, List.not_mem_nil, or_false] at required
    rcases required with rfl | rfl
    · exact select_ne_nil_of_first first
    · exact select_ne_nil_of_first second
  case parenthesis found | call found | conditional found | loop found | tag found |
      parameter found | actionword found | scenario found =>
    obtain rfl := List.mem_singleton.mp required
    exact select_ne_nil_of_first found
  all_goals exact absurd required List.not_mem_nil

/-- An element that made a node lacks nothing. -/
theorem Made.flawless {slotOf : Element → Slot} {element : Element} {kind : Kind} {node : Node}
    (made : Made slotOf element kind node) (announced : Kind.ofTag? element.tag = some kind)
    (cause : Cause) : ¬ Defect element cause := by
  intro defect
  cases defect with
  | kind unknown => rw [unknown] at announced; cases announced
  | number other refused =>
    obtain rfl := Option.some.inj (announced.symm.trans other)
    cases made with
    | number read => rw [refused] at read; cases read
  | boolean other notTrue notFalse =>
    obtain rfl := Option.some.inj (announced.symm.trans other)
    cases made with
    | boolean read =>
      rw [readBoolean_error_iff.mpr ⟨notTrue, notFalse, rfl⟩] at read
      cases read
  | name other blank =>
    obtain rfl := Option.some.inj (announced.symm.trans other)
    cases made with
    | var named => exact named (Text.trim_eq_nil_iff.mpr blank)
  | child other required absent =>
    obtain rfl := Option.some.inj (announced.symm.trans other)
    exact made.present required absent
  | payload other absent =>
    obtain rfl := Option.some.inj (announced.symm.trans other)
    cases made with
    | step payloadFound => simp [Element.firstChild?, absent] at payloadFound
    | role roleFound => simp [Element.firstChild?, absent] at roleFound
  | role other first unknown absent =>
    obtain rfl := Option.some.inj (announced.symm.trans other)
    cases made with
    | step payloadFound known =>
      obtain rfl := Option.some.inj (first.symm.trans payloadFound)
      rw [unknown] at known
      cases known
    | role roleFound _ payloadFound =>
      obtain rfl := Option.some.inj (first.symm.trans roleFound)
      exact select_ne_nil_of_first payloadFound (select_star_eq_nil_iff.mpr absent)

end ScenarioTree.Build
