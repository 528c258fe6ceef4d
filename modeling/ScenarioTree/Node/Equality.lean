/-
This file compares nodes. Two nodes are the same when they are of one kind and their fields are the
same: numbers by their exact value, sequences entry by entry, and a gap only with a gap. A number
that is no number is not even the same as itself.
-/

import ScenarioTree.Node.Basic

namespace ScenarioTree

namespace Node

mutual

/-- Whether two nodes are the same. -/
def same : Node → Node → Bool
  | null, null => true
  | string left, string right => left == right
  | number left, number right => left.same right
  | boolean left, boolean right => left == right
  | var left, var right => left == right
  | property key value, property key' value' => key == key' && sameSlot value value'
  | field base name, field base' name' => sameSlot base base' && name == name'
  | index base expression, index base' expression' =>
    sameSlot base base' && sameSlot expression expression'
  | binary left operator right, binary left' operator' right' =>
    sameSlot left left' && operator == operator' && sameSlot right right'
  | unary operator expression, unary operator' expression' =>
    operator == operator' && sameSlot expression expression'
  | parenthesis content, parenthesis content' => sameSlot content content'
  | list items, list items' => sameSlots items items'
  | dict items, dict items' => sameSlots items items'
  | template chunks, template chunks' => sameSlots chunks chunks'
  | assign target value, assign target' value' => sameSlot target target' && sameSlot value value'
  | argument name value, argument name' value' => name == name' && sameSlot value value'
  | call name arguments, call name' arguments' => name == name' && sameSlots arguments arguments'
  | conditional condition thenBody elseBody, conditional condition' thenBody' elseBody' =>
    sameSlot condition condition' && sameSlots thenBody thenBody' && sameSlots elseBody elseBody'
  | step key value, step key' value' => key == key' && sameSlot value value'
  | loop condition body, loop condition' body' =>
    sameSlot condition condition' && sameSlots body body'
  | tag key value, tag key' value' => key == key' && value == value'
  | parameter name default, parameter name' default' => name == name' && sameSlot default default'
  | actionword name tags parameters body, actionword name' tags' parameters' body' =>
    name == name' && sameSlots tags tags' && sameSlots parameters parameters' &&
      sameSlots body body'
  | scenario name description tags parameters body,
      scenario name' description' tags' parameters' body' =>
    name == name' && description == description' && sameSlots tags tags' &&
      sameSlots parameters parameters' && sameSlots body body'
  | actionwords items, actionwords items' => sameSlots items items'
  | scenarios items, scenarios items' => sameSlots items items'
  | project name description tests words, project name' description' tests' words' =>
    name == name' && description == description' && sameSlot tests tests' && sameSlot words words'
  | _, _ => false

/-- Whether two slots are the same. -/
def sameSlot : Option Node → Option Node → Bool
  | none, none => true
  | some left, some right => left.same right
  | _, _ => false

/-- Whether two sequences of slots are the same. -/
def sameSlots : List (Option Node) → List (Option Node) → Bool
  | [], [] => true
  | left :: lefts, right :: rights => sameSlot left right && sameSlots lefts rights
  | _, _ => false

end

end Node

end ScenarioTree
