/-
This file reads references: an ampersand, a name or the number of a character, and a semicolon. A
reference is read one character at a time; the state says what has been seen since the ampersand.
-/

import ScenarioTree.Xml.Character

namespace ScenarioTree.Xml

/-- What one more character makes of a piece of markup that is being read. -/
inductive Progress (Pending Token : Type) where
  | more (pending : Pending)
  | done (token : Token)
  | invalid

/-- A reference to an entity, or to a character by its number. -/
inductive Reference where
  | named (name : String)
  | numbered (number : Nat)
  deriving DecidableEq

namespace Reference

/-! ### Reading -/

/-- What has been seen of a reference. Names are held with the newest character first. -/
inductive Pending where
  | opened
  | entity (seen : List Char)
  | hash
  | decimal (number : Nat)
  | hexadecimalStart
  | hexadecimal (number : Nat)
  deriving DecidableEq

/-- The least number beyond all characters. Larger numbers need not be told apart. -/
def numberBound : Nat := 0x110000

/-- The value of a hexadecimal digit. -/
def hexValue? (character : Char) : Option Nat :=
  if isAsciiDigit character then some (character.toNat - 48)
  else if 'a' ≤ character && character ≤ 'f' then some (character.toNat - 87)
  else if 'A' ≤ character && character ≤ 'F' then some (character.toNat - 55)
  else none

/-- The value of a decimal digit. -/
def decimalValue? (character : Char) : Option Nat :=
  if isAsciiDigit character then some (character.toNat - 48) else none

/-- A number with one more digit, no larger than the bound. -/
def extend (base number digit : Nat) : Nat :=
  min (number * base + digit) numberBound

/-- One more character of a reference. -/
def Pending.step (character : Char) : Pending → Progress Pending Reference
  | .opened =>
    if character == '#' then .more .hash
    else if isNameStart character then .more (.entity [character])
    else .invalid
  | .entity seen =>
    if isNamePart character then .more (.entity (character :: seen))
    else if character == ';' then .done (.named (String.ofList seen.reverse))
    else .invalid
  | .hash =>
    if character == 'x' then .more .hexadecimalStart
    else match decimalValue? character with
      | some digit => .more (.decimal digit)
      | none => .invalid
  | .decimal number =>
    match decimalValue? character with
    | some digit => .more (.decimal (extend 10 number digit))
    | none => if character == ';' then .done (.numbered number) else .invalid
  | .hexadecimalStart =>
    match hexValue? character with
    | some digit => .more (.hexadecimal digit)
    | none => .invalid
  | .hexadecimal number =>
    match hexValue? character with
    | some digit => .more (.hexadecimal (extend 16 number digit))
    | none => if character == ';' then .done (.numbered number) else .invalid

/-! ### Meaning -/

/-- The character of a number, if a document may hold it. -/
def characterOf? (number : Nat) : Option Char :=
  if valid : number.isValidChar then
    let character := Char.ofNatAux number valid
    if isLegal character then some character else none
  else none

/-- The character of an entity that every document has. -/
def predefined? (name : String) : Option Char :=
  if name == "lt" then some '<'
  else if name == "gt" then some '>'
  else if name == "amp" then some '&'
  else if name == "quot" then some '"'
  else if name == "apos" then some '\''
  else none

end Reference

end ScenarioTree.Xml
