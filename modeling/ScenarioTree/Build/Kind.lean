/-
This file lists the kinds of elements that can be built, with the tags that announce them. Some
literals have two tags.
-/

namespace ScenarioTree.Build

/-- A kind of element that has a construction rule. -/
inductive Kind where
  | null
  | string
  | number
  | boolean
  | var
  | field
  | index
  | operation
  | parenthesis
  | list
  | dict
  | template
  | assign
  | call
  | conditional
  | loop
  | step
  | tag
  | parameter
  | actionword
  | scenario
  | actionwords
  | scenarios
  deriving DecidableEq

namespace Kind

/-- The tags of elements that can be built. -/
def tags : List (String × Kind) :=
  [("nullliteral", null), ("null", null), ("stringliteral", string), ("string", string),
    ("numericliteral", number), ("numeric", number), ("booleanliteral", boolean),
    ("boolean", boolean), ("var", var), ("field", field), ("index", index),
    ("operation", operation), ("parenthesis", parenthesis), ("list", list), ("dict", dict),
    ("template", template), ("assign", assign), ("call", call), ("if", conditional),
    ("while", loop), ("step", step), ("tag", tag), ("parameter", parameter),
    ("actionword", actionword), ("scenario", scenario), ("actionwords", actionwords),
    ("scenarios", scenarios)]

/-- The kind that a tag announces. -/
def ofTag? (tag : String) : Option Kind :=
  tags.lookup tag

end Kind

end ScenarioTree.Build
