/-
This file holds the construction rules, one for each kind of element. A rule reads as the node
that it makes, applied to what it needs in the order in which it looks for it.
-/

import ScenarioTree.Build.Kind
import ScenarioTree.Build.Literal
import ScenarioTree.Build.Plan

namespace ScenarioTree.Build

open ScenarioTree.Xml (Element)

/-! ### Literals and expressions -/

/-- A plan of a value that needs no parts. -/
def Plan.ofExcept {α : Type} : Except Cause α → Plan α
  | .ok value => .done value
  | .error cause => .fail cause

/-- The name of a variable, which must not be blank. -/
def planVar (element : Element) : Plan Node :=
  let name := element.content
  if (Text.trim name.toList).isEmpty then .fail .emptyName else .done (.var name)

/-- The access to a member by name. -/
def planField (element : Element) : Plan Node :=
  Node.field <$> slotAt element ["base", "*"] <*> textAt element ["name"]

/-- The access to a member by an expression. -/
def planIndex (element : Element) : Plan Node :=
  Node.index <$> slotAt element ["base", "*"] <*> slotAt element ["expression", "*"]

/-- An operation: with a left side it has two operands, and otherwise one. -/
def planOperation (element : Element) : Plan Node :=
  if (element.selectFirst? ["left"]).isSome then
    (fun operator left right => Node.binary left operator right) <$> textAt element ["operator"] <*>
      slotAt element ["left", "*"] <*> slotAt element ["right", "*"]
  else
    Node.unary <$> textAt element ["operator"] <*> slotAt element ["expression", "*"]

/-- The items of a list, each in a wrapper. -/
def planList (element : Element) : Plan Node :=
  Node.list <$> Plan.slots ((element.select ["item"]).map .within)

/-! ### Statements -/

/-- A call. Its arguments are built before its name is looked for. -/
def planCall (element : Element) : Plan Node :=
  (fun arguments name => Node.call name arguments) <$>
    entriesAt element ["arguments", "*"] .argument <*> textAt element ["actionword"]

/-- A conditional statement. -/
def planConditional (element : Element) : Plan Node :=
  Node.conditional <$> slotAt element ["condition", "*"] <*> slotsAt element ["then", "*"] <*>
    slotsAt element ["else", "*"]

/-- A step. Its first child is the node of the step if it can be built, and otherwise names the role
of the node that it holds. -/
def planStep (element : Element) : Plan Node :=
  match element.firstChild? with
  | none => .fail .missingPayload
  | some payload =>
    if (Kind.ofTag? payload.tag).isSome then
      Node.step payload.tag <$> Plan.slot (.element payload)
    else Node.step payload.tag <$> slotAt payload ["*"]

/-! ### Declarations -/

/-- A tag, with a value if it has one. -/
def planTag (element : Element) : Plan Node :=
  (Node.tag · ((element.selectFirst? ["value"]).map Element.content)) <$> textAt element ["key"]

/-- A parameter, with a default if it has one. -/
def planParameter (element : Element) : Plan Node :=
  match element.selectFirst? ["default_value"] with
  | some wrapper => Node.parameter <$> textAt element ["name"] <*> Plan.slot (.within wrapper)
  | none => (Node.parameter · none) <$> textAt element ["name"]

/-- The tags of a declaration. -/
def planTags (element : Element) : Plan (List Slot) :=
  slotsAt element ["tags", "tag"]

/-- The parameters of a declaration. -/
def planParameters (element : Element) : Plan (List Slot) :=
  slotsAt element ["parameters", "parameter"]

/-- The steps of a declaration. -/
def planSteps (element : Element) : Plan (List Slot) :=
  slotsAt element ["steps", "*"]

/-- A declared action. -/
def planActionword (element : Element) : Plan Node :=
  Node.actionword <$> textAt element ["name"] <*> planTags element <*> planParameters element <*>
    planSteps element

/-- A test scenario; a description may be missing. -/
def planScenario (element : Element) : Plan Node :=
  let description := ((element.selectFirst? ["description"]).map Element.content).getD ""
  (Node.scenario · description) <$> textAt element ["name"] <*> planTags element <*>
    planParameters element <*> planSteps element

/-! ### All rules -/

/-- The rule of a kind. -/
def Kind.plan (kind : Kind) (element : Element) : Plan Node :=
  match kind with
  | .null => .done Literal.null
  | .string => .done (Literal.string (.element element))
  | .number => .ofExcept (Literal.number (.source (.element element)))
  | .boolean => .ofExcept (Literal.boolean (.source (.element element)))
  | .var => planVar element
  | .field => planField element
  | .index => planIndex element
  | .operation => planOperation element
  | .parenthesis => Node.parenthesis <$> slotAt element ["*"]
  | .list => planList element
  | .dict => Node.dict <$> entriesAt element ["*"] .property
  | .template => Node.template <$> slotsAt element ["*"]
  | .assign => Node.assign <$> slotAt element ["to", "*"] <*> slotAt element ["value", "*"]
  | .call => planCall element
  | .conditional => planConditional element
  | .loop => Node.loop <$> slotAt element ["condition", "*"] <*> slotsAt element ["body", "*"]
  | .step => planStep element
  | .tag => planTag element
  | .parameter => planParameter element
  | .actionword => planActionword element
  | .scenario => planScenario element
  | .actionwords => Node.actionwords <$> slotsAt element ["actionword"]
  | .scenarios => Node.scenarios <$> slotsAt element ["scenario"]

/-- The plan of an element: the rule that its tag announces, if there is one. -/
def planOf (element : Element) : Plan Node :=
  match Kind.ofTag? element.tag with
  | some kind => kind.plan element
  | none => .fail (.unknownKind element.tag)

end ScenarioTree.Build
