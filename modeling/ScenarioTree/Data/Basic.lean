/-
This file holds plain data: what a tree of nodes looks like to a program that only knows numbers,
texts, lists and objects. The fields of an object have an order, and no two have the same name.
-/

import ScenarioTree.Number.Basic

namespace ScenarioTree

/-- Plain data. -/
inductive Data where
  | null
  | boolean (value : Bool)
  | number (value : Number)
  | string (value : String)
  | list (items : List Data)
  | object (fields : List (String × Data))

end ScenarioTree
