/-
This file lists what can be wrong with a document and where. A fault is placed by line and column:
lines are counted from one, columns in characters from zero, and a line end belongs to the line that
it ends.
-/

namespace ScenarioTree.Xml

/-! ### Places -/

/-- A place in a document. -/
structure Position where
  line : Nat := 1
  column : Nat := 0
  deriving DecidableEq

/-- The place after a character that stands here. -/
def Position.after (position : Position) (character : Char) : Position :=
  if character == '\n' || character == '\r' then ⟨position.line + 1, 0⟩
  else ⟨position.line, position.column + 1⟩

/-! ### Faults -/

/-- Why a document is not well formed. -/
inductive Reason where
  | noElement
  | unclosedToken
  | unclosedSection
  | invalidToken
  | malformedSyntax
  | mismatchedTag
  | junkAfterRoot
  | duplicateAttribute
  | undefinedEntity
  | skippedEntity (name : String)
  | recursiveEntity
  | binaryEntity
  | externalInAttribute
  | asynchronousEntity
  | parameterReference
  | invalidNumber
  | unboundPrefix
  | undeclaredPrefix
  | reservedXml
  | reservedXmlns
  | reservedNamespace
  | misplacedDeclaration
  | malformedDeclaration
  | publicIdentifier
  deriving DecidableEq

/-- The beginning of `characters` that takes at most `budget` bytes. A character that only begins
within the budget is shown as U+FFFD. -/
def clip (budget : Nat) : List Char → List Char
  | [] => []
  | character :: rest =>
    if budget = 0 then []
    else if budget < character.utf8Size then ['\uFFFD']
    else character :: clip (budget - character.utf8Size) rest

/-- The wording of a reason. The name of an entity is clipped to what fits in a hundred bytes with
the two marks around it. -/
def Reason.message : Reason → String
  | .noElement => "no element found"
  | .unclosedToken => "unclosed token"
  | .unclosedSection => "unclosed CDATA section"
  | .invalidToken => "not well-formed (invalid token)"
  | .malformedSyntax => "syntax error"
  | .mismatchedTag => "mismatched tag"
  | .junkAfterRoot => "junk after document element"
  | .duplicateAttribute => "duplicate attribute"
  | .undefinedEntity => "undefined entity"
  | .skippedEntity name =>
    "undefined entity " ++ String.ofList (clip 100 ('&' :: name.toList ++ [';']))
  | .recursiveEntity => "recursive entity reference"
  | .binaryEntity => "reference to binary entity"
  | .externalInAttribute => "reference to external entity in attribute"
  | .asynchronousEntity => "asynchronous entity"
  | .parameterReference => "illegal parameter entity reference"
  | .invalidNumber => "reference to invalid character number"
  | .unboundPrefix => "unbound prefix"
  | .undeclaredPrefix => "must not undeclare prefix"
  | .reservedXml =>
    "reserved prefix (xml) must not be undeclared or bound to another namespace name"
  | .reservedXmlns => "reserved prefix (xmlns) must not be declared or undeclared"
  | .reservedNamespace => "prefix must not be bound to one of the reserved namespace names"
  | .misplacedDeclaration => "XML or text declaration not at start of entity"
  | .malformedDeclaration => "XML declaration not well-formed"
  | .publicIdentifier => "illegal character(s) in public id"

/-- A reason and its place. -/
structure Fault where
  reason : Reason
  position : Position
  deriving DecidableEq

/-- The wording of a fault. -/
def Fault.message (fault : Fault) : String :=
  fault.reason.message ++ ": line " ++ toString fault.position.line ++ ", column " ++
    toString fault.position.column

end ScenarioTree.Xml
