/-
This file holds the values that a document may denote, and shows them as texts. Numbers, truth
values and nothing are shown by words, texts in quotes, and collections in brackets with their
entries in order; a collection inside of itself is shown by three dots. A value in which there is an
integer of too many digits cannot be shown.
-/

import ScenarioTree.Number.Literal
import ScenarioTree.Number.Shortest
import ScenarioTree.Text.Quoted
import ScenarioTree.Yaml.Timestamp

namespace ScenarioTree.Yaml

/-- A value. -/
inductive Value where
  | null
  | boolean (value : Bool)
  | number (value : Number)
  | text (value : String)
  | bytes (value : List UInt8)
  | timestamp (value : Timestamp)
  | list (items : List Value)
  | pair (first second : Value)
  | set (members : List Value)
  | mapping (entries : List (Value × Value))
  | enclosing (isMapping : Bool)

namespace Value

/-! ### Texts -/

/-- How a byte stands in a text of bytes. -/
def shownByte (quote : Char) (byte : UInt8) : List Char :=
  let code := byte.toNat
  let character := Char.ofNat code
  if character == quote || character == '\\' then ['\\', character]
  else if character == '\n' then ['\\', 'n']
  else if character == '\r' then ['\\', 'r']
  else if character == '\t' then ['\\', 't']
  else if 0x20 ≤ code && code < 0x7F then [character]
  else '\\' :: 'x' :: Text.hexDigits 2 code

/-- Bytes in quotes. -/
def shownBytes (bytes : List UInt8) : String :=
  let quote := Text.quoteFor (bytes.map fun byte => Char.ofNat byte.toNat)
  String.ofList ('b' :: quote :: (bytes.flatMap (shownByte quote) ++ [quote]))

mutual

/-- A value as it is shown. -/
def shown : Value → String
  | null => "None"
  | boolean value => Text.truthWord value
  | number value => value.text
  | text value => Text.quoted value
  | bytes value => shownBytes value
  | timestamp value => value.shown
  | list items => "[" ++ ", ".intercalate (shownItems items) ++ "]"
  | pair first second => "(" ++ first.shown ++ ", " ++ second.shown ++ ")"
  | set [] => "set()"
  | set (member :: more) =>
    "\x7b" ++ ", ".intercalate (member.shown :: shownItems more) ++ "\x7d"
  | mapping entries => "\x7b" ++ ", ".intercalate (shownEntries entries) ++ "\x7d"
  | enclosing true => "\x7b...\x7d"
  | enclosing false => "[...]"

/-- Values as they are shown. -/
def shownItems : List Value → List String
  | [] => []
  | item :: rest => item.shown :: shownItems rest

/-- The entries of a mapping as they are shown. -/
def shownEntries : List (Value × Value) → List String
  | [] => []
  | (key, value) :: rest => (key.shown ++ ": " ++ value.shown) :: shownEntries rest

end

/-- A value as the name of an option: texts stand for themselves. -/
def keyText : Value → String
  | text value => value
  | timestamp value => value.keyText
  | value => value.shown

/-! ### Values that cannot be shown -/

mutual

/-- Whether a value can be shown: an integer is only written with so many digits. -/
def isShowable : Value → Bool
  | number (.integer value) => value.natAbs < Nat.pow 10 Number.digitLimit
  | list items => areShowable items
  | pair first second => first.isShowable && second.isShowable
  | set members => areShowable members
  | mapping entries => entriesAreShowable entries
  | _ => true

/-- Whether all values can be shown. -/
def areShowable : List Value → Bool
  | [] => true
  | item :: rest => item.isShowable && areShowable rest

/-- Whether all keys and values of a mapping can be shown. -/
def entriesAreShowable : List (Value × Value) → Bool
  | [] => true
  | (key, value) :: rest => key.isShowable && value.isShowable && entriesAreShowable rest

end

/-! ### Keys -/

/-- Whether a value may be a key. Collections may not. -/
def mayBeKey : Value → Bool
  | list _ | set _ | mapping _ | enclosing _ => false
  | _ => true

/-- The number that a key counts as; truth values count as one and zero. -/
def keyNumber? : Value → Option Number
  | boolean value => some (.integer (if value then 1 else 0))
  | number value => some value
  | _ => none

/-- The moment that a key counts as; only timestamps with an offset have one. -/
def keyMoment? : Value → Option (Int × Nat × Nat)
  | timestamp value => value.moment?
  | _ => none

/-- Whether two keys are the same: numbers by their value, timestamps by their moment, everything
else as it is shown. -/
def sameKey (left right : Value) : Bool :=
  match left.keyNumber?, right.keyNumber? with
  | some left, some right => left.same right || left == right
  | none, none =>
    match left.keyMoment?, right.keyMoment? with
    | some left, some right => left == right
    | none, none => left.shown == right.shown
    | _, _ => false
  | _, _ => false

/-- An entry put into a mapping. A key that is there keeps its place and gets the new value. -/
def put (key value : Value) : List (Value × Value) → List (Value × Value)
  | [] => [(key, value)]
  | (known, former) :: rest =>
    if known.sameKey key then (known, value) :: rest
    else (known, former) :: put key value rest

end Value

end ScenarioTree.Yaml
