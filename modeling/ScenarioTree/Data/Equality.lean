/-
This file compares data. Numbers are compared by their exact value, and a truth value counts as the
number one or zero; lists are compared entry by entry, and objects by the names of their fields,
whose order makes no difference.
-/

import ScenarioTree.Data.Basic

namespace ScenarioTree.Data

/-- The number that data counts as. -/
def number? : Data → Option Number
  | boolean value => some (.integer (if value then 1 else 0))
  | number value => some value
  | _ => none

/-- Whether both are the same number. -/
def sameNumber (left right : Data) : Bool :=
  match left.number?, right.number? with
  | some left, some right => left.same right
  | _, _ => false

mutual

/-- Whether data is the same. -/
def same : Data → Data → Bool
  | null, null => true
  | string left, string right => left == right
  | list lefts, list rights => sameItems lefts rights
  | object lefts, object rights => lefts.length == rights.length && sameFields lefts rights
  | left, right => left.sameNumber right

/-- Whether the entries of two lists are the same. -/
def sameItems : List Data → List Data → Bool
  | [], [] => true
  | left :: lefts, right :: rights => left.same right && sameItems lefts rights
  | _, _ => false

/-- Whether all fields are found among others, with the same values. -/
def sameFields : List (String × Data) → List (String × Data) → Bool
  | [], _ => true
  | (name, left) :: lefts, others =>
    (match others.lookup name with
    | some right => left.same right
    | none => false) && sameFields lefts others

end

end ScenarioTree.Data
