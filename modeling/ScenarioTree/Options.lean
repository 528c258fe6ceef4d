/-
This file reads options. Options are written as a mapping in YAML whose only key may be `verbose`
with a truth value; a text that denotes nothing leaves every option at its default. The faults of
a mapping are looked for in a fixed order, so the order of its entries does not matter. A fault has a
wording, unless what it would have to show cannot be shown.
-/

import ScenarioTree.File.Tree
import ScenarioTree.Problem
import ScenarioTree.Yaml.Meaning

namespace ScenarioTree

open ScenarioTree.Yaml (Value)

/-- The options of a build: whether every failure is reported. -/
structure Options where
  verbose : Bool := false
  deriving DecidableEq

namespace Options

/-- Why a text gives no options. -/
inductive Fault where
  | invalid
  | notMapping
  | unknown (keys : List Value)
  | notTruth (value : Value)

namespace Fault

/-- The names of keys, in order. -/
def names (keys : List Value) : List String :=
  (keys.map Value.keyText).mergeSort (· ≤ ·)

/-- The wording of a fault. Unknown options are listed by name, in order; what is wrong with a text
that is no document is not explained any further. -/
def message : Fault → String
  | invalid => "Invalid YAML: the text is not one well-formed document"
  | notMapping => "Options file must contain a mapping"
  | unknown keys => "Unknown option(s): " ++ ", ".intercalate (names keys)
  | notTruth value => "'verbose' must be true or false, got " ++ value.shown

/-- The values that the wording of a fault shows. -/
def subjects : Fault → List Value
  | unknown keys => keys
  | notTruth value => [value]
  | _ => []

end Fault

/-- Whether a key names an option. -/
def isKnown : Value → Bool
  | .text name => name == "verbose"
  | _ => false

/-- The keys that name no option. -/
def unknownKeys (entries : List (Value × Value)) : List Value :=
  (entries.map Prod.fst).filter fun key => !isKnown key

/-- The options of a mapping. -/
def ofEntries (entries : List (Value × Value)) : Except Fault Options :=
  match unknownKeys entries with
  | [] =>
    match entries.find? fun entry => isKnown entry.1 with
    | none => .ok {}
    | some (_, .boolean verbose) => .ok { verbose := verbose }
    | some (_, value) => .error (.notTruth value)
  | keys => .error (.unknown keys)

/-- The options that a value gives. -/
def ofValue : Value → Except Fault Options
  | .null => .ok {}
  | .mapping entries => ofEntries entries
  | _ => .error .notMapping

/-! ### Options files -/

/-- What keeps an options file from being read: a problem for its author, or a failure to read it at
all, be it as a text or as values that can be shown. -/
inductive Obstacle where
  | problem (problem : Problem)
  | unreadable (reason : File.Unreadable)
  | noValue (fault : Yaml.Fault)

/-- A problem of an options file. -/
def problemAt (location : File.Location) (message : String) : Problem where
  kind := .options
  message := message
  path := some location.text

/-- What a fault at a location comes to: a problem, if the fault can be put into words. -/
def obstacle (location : File.Location) (fault : Fault) : Obstacle :=
  if fault.subjects.all Value.isShowable then .problem (problemAt location fault.message)
  else .noValue .outOfRange

/-- The options of a document at a location, from what it denotes. -/
def ofDenoted (location : File.Location) : Except Yaml.Fault Value → Except Obstacle Options
  | .error .malformed => .error (obstacle location .invalid)
  | .error other => .error (.noValue other)
  | .ok value => (ofValue value).mapError (obstacle location)

/-- The options of a text, found at a location. -/
def ofText (location : File.Location) (text : String) : Except Obstacle Options :=
  ofDenoted location (Yaml.read text)

/-- The options of a file. -/
def load (look : File.Location → File.Found) (location : File.Location) :
    Except Obstacle Options :=
  let found := look location
  if found.isThere then
    match found.text with
    | .error reason => .error (.unreadable reason)
    | .ok text => ofText location text
  else .error (.problem (problemAt location ("Options file not found: " ++ location.text)))

end Options

end ScenarioTree
