/-
This file shows nodes as plain data: an object with the kind of the node and its fields in order.
Sequences become lists, and a gap becomes nothing.
-/

import ScenarioTree.Data.Basic
import ScenarioTree.Node.Basic

namespace ScenarioTree

namespace Node

mutual

/-- The fields of a node as data, in order. -/
def fields : Node → List (String × Data)
  | null => []
  | string value => [("value", .string value)]
  | number value => [("value", .number value)]
  | boolean value => [("value", .boolean value)]
  | var name => [("name", .string name)]
  | property key value => [("key", .string key), ("value", viewSlot value)]
  | field base name => [("base", viewSlot base), ("name", .string name)]
  | index base expression =>
    [("base", viewSlot base), ("expression", viewSlot expression)]
  | binary left operator right =>
    [("left", viewSlot left), ("operator", .string operator), ("right", viewSlot right)]
  | unary operator expression =>
    [("operator", .string operator), ("expression", viewSlot expression)]
  | parenthesis content => [("content", viewSlot content)]
  | list items => [("items", .list (viewSlots items))]
  | dict items => [("items", .list (viewSlots items))]
  | template chunks => [("chunks", .list (viewSlots chunks))]
  | assign target value => [("to", viewSlot target), ("value", viewSlot value)]
  | argument name value => [("name", .string name), ("value", viewSlot value)]
  | call name arguments =>
    [("actionword", .string name), ("arguments", .list (viewSlots arguments))]
  | conditional condition thenBody elseBody =>
    [("condition", viewSlot condition), ("then_body", .list (viewSlots thenBody)),
        ("else_body", .list (viewSlots elseBody))]
  | step key value => [("key", .string key), ("value", viewSlot value)]
  | loop condition body =>
    [("condition", viewSlot condition), ("body", .list (viewSlots body))]
  | tag key value => [("key", .string key), ("value", value.elim .null .string)]
  | parameter name default =>
    [("name", .string name), ("default", viewSlot default)]
  | actionword name tags parameters body =>
    [("name", .string name), ("tags", .list (viewSlots tags)),
        ("parameters", .list (viewSlots parameters)), ("body", .list (viewSlots body))]
  | scenario name description tags parameters body =>
    [("name", .string name), ("description", .string description),
        ("tags", .list (viewSlots tags)), ("parameters", .list (viewSlots parameters)),
        ("body", .list (viewSlots body))]
  | actionwords items => [("items", .list (viewSlots items))]
  | scenarios items => [("items", .list (viewSlots items))]
  | project name description tests words =>
    [("name", .string name), ("description", .string description),
        ("scenarios", viewSlot tests), ("actionwords", viewSlot words)]

/-- A slot as data. -/
def viewSlot : Option Node → Data
  | none => .null
  | some node => .object (("kind", .string node.kind) :: node.fields)

/-- A sequence of slots as data. -/
def viewSlots : List (Option Node) → List Data
  | [] => []
  | slot :: rest => viewSlot slot :: viewSlots rest

end

/-- A node as data: its kind, then its fields. -/
def view (node : Node) : Data :=
  .object (("kind", .string node.kind) :: node.fields)

end Node

end ScenarioTree
