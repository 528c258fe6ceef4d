/-
This file holds what the document type declares, and resolves attribute values under it:
references are replaced, white space becomes blanks, and in an attribute of another type than
character data the blanks at the ends disappear and those inside are joined.

The text of an entity may refer to further entities. An entity that is being replaced may not
occur in its own text, so the depth of replacement never exceeds the number of entities; that
number is the fuel of `resolveWithin`.
-/

import ScenarioTree.Xml.Fault
import ScenarioTree.Xml.Reference

namespace ScenarioTree.Xml

/-! ### Declarations -/

/-- What an entity stands for: a text, something outside of the document, or data that is no
text. -/
inductive Entity where
  | internal (text : String)
  | external
  | binary
  deriving DecidableEq

/-- A declared attribute of an element, with the value it has when it is not written. -/
structure AttributeDefault where
  name : String
  tokenized : Bool
  value : Option String
  deriving DecidableEq

/-- What the document type declares. `referenced` tells that there may be declarations that were not
read, `standalone` that the document does not depend on such declarations, and `heeded` that
declarations still count. -/
structure Declared where
  entities : List (String × Entity)
  attributes : List (String × AttributeDefault)
  referenced : Bool
  standalone : Bool
  heeded : Bool
  deriving DecidableEq

namespace Declared

/-- Nothing is declared. -/
def nothing : Declared := ⟨[], [], false, false, true⟩

/-- Whether an entity must have been declared before it is used. -/
def strict (declared : Declared) : Bool :=
  !declared.referenced || declared.standalone

/-- The entity of a name. -/
def entity? (declared : Declared) (name : String) : Option Entity :=
  declared.entities.lookup name

/-- One more entity; the first declaration of a name is the one that counts. -/
def addEntity (declared : Declared) (name : String) (entity : Entity) : Declared :=
  if !declared.heeded || (Reference.predefined? name).isSome || (declared.entity? name).isSome then
    declared
  else { declared with entities := declared.entities ++ [(name, entity)] }

/-- The declared attributes of an element, in the order of their declaration. -/
def attributesOf (declared : Declared) (element : String) : List AttributeDefault :=
  (declared.attributes.filter (·.1 == element)).map (·.2)

/-- One more attribute of an element. A default or an identifier does not count when the attribute
was declared before. -/
def addAttribute (declared : Declared) (element : String) (added : AttributeDefault)
    (identifier : Bool) : Declared :=
  let known := (declared.attributesOf element).any (·.name == added.name)
  if !declared.heeded || ((added.value.isSome || identifier) && known) then declared
  else { declared with attributes := declared.attributes ++ [(element, added)] }

/-- Whether the values of an attribute are lists of tokens. -/
def tokenized (declared : Declared) (element attributeName : String) : Bool :=
  match (declared.attributesOf element).find? (·.name == attributeName) with
  | some found => found.tokenized
  | none => false

end Declared

/-! ### Attribute values -/

/-- A fault in a value, without a place when it counts as a fault of the construct around it. -/
structure ValueFault where
  reason : Reason
  position : Option Position

/-- A value that is being resolved: the place of the next character, the reference in hand with its
place, and the characters so far, the newest first. -/
structure PendingValue where
  here : Position
  reference : Option (Position × Reference.Pending)
  resolved : List Char

namespace PendingValue

/-- The value with a blank added. Lists of tokens have no blank at the beginning and no two in a
row. -/
def addBlank (tokenized : Bool) (resolved : List Char) : List Char :=
  if tokenized && (resolved.isEmpty || resolved.head? == some ' ') then resolved
  else ' ' :: resolved

/-- The characters of the finished value. -/
def finish (tokenized : Bool) (resolved : List Char) : List Char :=
  match tokenized, resolved with
  | true, ' ' :: rest => rest.reverse
  | _, resolved => resolved.reverse

end PendingValue

namespace Declared

/-- The value with a reference resolved that began at `start`. `replace` resolves the text of an
entity after what is there already. -/
def resolveReference (declared : Declared) (tokenized : Bool) (opened : List String)
    (replace : String → String → List Char → Except ValueFault (List Char))
    (start : Position) (resolved : List Char) : Reference → Except ValueFault (List Char)
  | .numbered number =>
    match Reference.characterOf? number with
    | none => .error ⟨.invalidNumber, some start⟩
    | some ' ' => .ok (PendingValue.addBlank tokenized resolved)
    | some character => .ok (character :: resolved)
  | .named name =>
    match Reference.predefined? name, declared.entity? name with
    | some character, _ => .ok (character :: resolved)
    | none, none =>
      if declared.strict then .error ⟨.undefinedEntity, none⟩ else .ok resolved
    | none, some entity =>
      if opened.contains name then .error ⟨.recursiveEntity, some start⟩
      else match entity with
        | .binary => .error ⟨.binaryEntity, some start⟩
        | .external => .error ⟨.externalInAttribute, some start⟩
        | .internal text => replace name text resolved

/-- One more character of a value. -/
def stepValue (declared : Declared) (tokenized : Bool) (opened : List String)
    (replace : String → String → List Char → Except ValueFault (List Char))
    (value : PendingValue) (character : Char) : Except ValueFault PendingValue :=
  let next := value.here.after character
  match value.reference with
  | some (start, reference) =>
    match reference.step character with
    | .more pending => .ok { value with here := next, reference := some (start, pending) }
    | .done found => do
      let resolved ←
        declared.resolveReference tokenized opened replace start value.resolved found
      return ⟨next, none, resolved⟩
    | .invalid => .error ⟨.invalidToken, some value.here⟩
  | none =>
    if character == '&' then
      .ok { value with here := next, reference := some (value.here, .opened) }
    else if character == '<' then .error ⟨.invalidToken, some value.here⟩
    else if isSpace character then
      .ok { value with here := next, resolved := PendingValue.addBlank tokenized value.resolved }
    else .ok { value with here := next, resolved := character :: value.resolved }

/-- The characters of a value after what is there already, while the entities in `opened` are being
replaced. -/
def resolveWithin (declared : Declared) (tokenized : Bool) :
    Nat → List String → Position → List Char → List Char → Except ValueFault (List Char)
  | 0, _, start, _, _ => .error ⟨.recursiveEntity, some start⟩
  | fuel + 1, opened, start, resolved, text => do
    let replace (name replacement : String) (before : List Char) :=
      (resolveWithin declared tokenized fuel (name :: opened) start before
        replacement.toList).mapError fun fault => { fault with position := none }
    let value ←
      text.foldlM (declared.stepValue tokenized opened replace) ⟨start, none, resolved⟩
    match value.reference with
    | some (place, _) => .error ⟨.invalidToken, some place⟩
    | none => return value.resolved

/-- The value that stands for a written one, which begins at `start`, while the entities in `opened`
are being replaced. A fault without a place of its own is placed at `around`. -/
def resolve (declared : Declared) (tokenized : Bool) (opened : List String)
    (around start : Position) (text : String) : Except Fault String :=
  match declared.resolveWithin tokenized (declared.entities.length + 1) opened start []
    text.toList with
  | .ok resolved => .ok (String.ofList (PendingValue.finish tokenized resolved))
  | .error fault => .error ⟨fault.reason, fault.position.getD around⟩

end Declared

end ScenarioTree.Xml
