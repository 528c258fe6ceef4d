/-
This file holds the problems that a run can end with. Every problem has a message, may show the
element it is about, and may name the file; its kind is one of a few that refine each other.
-/

namespace ScenarioTree

/-- What a problem is about. -/
inductive ProblemKind where
  | general
  | document
  | projectStructure
  | options
  | building
  | unknownElement
  | missingChild
  | malformedValue
  deriving DecidableEq

namespace ProblemKind

/-- All kinds, every kind after those that it refines. -/
def all : List ProblemKind :=
  [.general, .document, .projectStructure, .options, .building, .unknownElement, .missingChild,
    .malformedValue]

/-- Whether a kind is another one or refines it. Every problem is a general one, and the last three
are problems in building. -/
def refines (kind other : ProblemKind) : Bool :=
  kind == other || other == .general ||
    (other == .building &&
      (kind == .unknownElement || kind == .missingChild || kind == .malformedValue))

end ProblemKind

/-- A problem. -/
structure Problem where
  kind : ProblemKind
  message : String
  element : Option String := none
  path : Option String := none
  deriving DecidableEq

/-- A message with the file it is about before it; an empty path is no path. -/
def located (path : Option String) (message : String) : String :=
  match path with
  | none => message
  | some path => if path.isEmpty then message else path ++ ": " ++ message

/-- The wording of a problem. -/
def Problem.text (problem : Problem) : String :=
  located problem.path problem.message

end ScenarioTree
