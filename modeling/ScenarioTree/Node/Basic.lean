/-
This file holds the syntax tree of a test project: literals, expressions, statements and the
declarations of a project. Where a node has a node inside it there is a slot, which is empty when
that part of the project could not be built; such an empty slot is a gap.
-/

import ScenarioTree.Number.Basic

namespace ScenarioTree

/-- A node of the syntax tree. -/
inductive Node where
  -- Literals
  | null
  | string (value : String)
  | number (value : Number)
  | boolean (value : Bool)
  -- Expressions
  | var (name : String)
  | property (key : String) (value : Option Node)
  | field (base : Option Node) (name : String)
  | index (base expression : Option Node)
  | binary (left : Option Node) (operator : String) (right : Option Node)
  | unary (operator : String) (expression : Option Node)
  | parenthesis (content : Option Node)
  | list (items : List (Option Node))
  | dict (items : List (Option Node))
  | template (chunks : List (Option Node))
  -- Statements
  | assign (target value : Option Node)
  | argument (name : String) (value : Option Node)
  | call (actionword : String) (arguments : List (Option Node))
  | conditional (condition : Option Node) (thenBody elseBody : List (Option Node))
  | step (key : String) (value : Option Node)
  | loop (condition : Option Node) (body : List (Option Node))
  -- Declarations
  | tag (key : String) (value : Option String)
  | parameter (name : String) (default : Option Node)
  | actionword (name : String) (tags parameters body : List (Option Node))
  | scenario (name description : String) (tags parameters body : List (Option Node))
  | actionwords (items : List (Option Node))
  | scenarios (items : List (Option Node))
  -- The project
  | project (name description : String) (scenarios actionwords : Option Node)

/-- The place of a node inside another; empty when it could not be built. -/
abbrev Slot := Option Node

namespace Node

/-- What a node is, in a word. -/
def kind : Node → String
  | null => "NullLiteral"
  | string _ => "StringLiteral"
  | number _ => "NumericLiteral"
  | boolean _ => "BooleanLiteral"
  | var _ => "Variable"
  | property _ _ => "Property"
  | field _ _ => "Field"
  | index _ _ => "Index"
  | binary _ _ _ => "BinaryExpression"
  | unary _ _ => "UnaryExpression"
  | parenthesis _ => "Parenthesis"
  | list _ => "List"
  | dict _ => "Dict"
  | template _ => "Template"
  | assign _ _ => "Assign"
  | argument _ _ => "Argument"
  | call _ _ => "Call"
  | conditional _ _ _ => "IfThen"
  | step _ _ => "Step"
  | loop _ _ => "While"
  | tag _ _ => "Tag"
  | parameter _ _ => "Parameter"
  | actionword _ _ _ _ => "Actionword"
  | scenario _ _ _ _ _ => "Scenario"
  | actionwords _ => "Actionwords"
  | scenarios _ => "Scenarios"
  | project _ _ _ _ => "Project"

end Node

end ScenarioTree
