/-
This file lists why an element cannot be built and words each cause. All causes but one are faults
of the element as an author may write it; a run of digits too long to be read is reported apart, as
a failure that is not expected.
-/

import ScenarioTree.Number.Literal
import ScenarioTree.Problem
import ScenarioTree.Text.Quoted
import ScenarioTree.Xml.Query

namespace ScenarioTree.Build

open ScenarioTree.Xml (Path)

/-- Why an element cannot be built. -/
inductive Cause where
  | unknownKind (tag : String)
  | missingChild (tag : String) (path : Path)
  | missingElementChild (tag : String)
  | missingPayload
  | emptyName
  | notNumber (text : String)
  | notFinite (text : String)
  | tooLong (digits : Nat)
  | notBoolean (text : String)
  | truthNumber (value : Bool)
  deriving DecidableEq

namespace Cause

/-- The cause of a text that is no number. -/
def ofRefusal (text : String) : Number.Refusal → Cause
  | .notNumber => .notNumber text
  | .notFinite => .notFinite text
  | .tooLong digits => .tooLong digits

/-- The wording of a cause. -/
def message : Cause → String
  | unknownKind tag => "No construction rule for <" ++ tag ++ ">"
  | missingChild tag path => "<" ++ tag ++ "> has no '" ++ "/".intercalate path ++ "' child"
  | missingElementChild tag => "<" ++ tag ++ "> has no element child"
  | missingPayload => "<step> has no payload"
  | emptyName => "<var> has an empty name"
  | notNumber text => "Not a number: " ++ Text.quoted text
  | notFinite text => "Not a finite number: " ++ Text.quoted text
  | tooLong digits =>
    "ValueError: Exceeds the limit (" ++ toString Number.digitLimit ++
      " digits) for integer string conversion: value has " ++ toString digits ++
      " digits; use sys.set_int_max_str_digits() to increase the limit"
  | notBoolean text => "Not a boolean: " ++ Text.quoted text
  | truthNumber value => "Not a number: " ++ Text.truthWord value

/-- The kind of problem that a cause is, if it is an expected one. -/
def kind? : Cause → Option ProblemKind
  | unknownKind _ => some .unknownElement
  | missingChild _ _ | missingElementChild _ | missingPayload => some .missingChild
  | emptyName | notNumber _ | notFinite _ | notBoolean _ | truthNumber _ => some .malformedValue
  | tooLong _ => none

/-- Whether the cause is one that no author should be able to bring about. -/
def unexpected (cause : Cause) : Bool :=
  cause.kind?.isNone

end Cause

end ScenarioTree.Build
