/-
This file writes data as JSON in ASCII. Lists and objects that are not empty take a line for each
entry, two blanks further in than the line they begin on. Characters beyond ASCII are written by
their UTF-16 units, those of the upper planes as a surrogate pair, and the delete character is
written like the other controls.
-/

import ScenarioTree.Data.Basic
import ScenarioTree.Number.Shortest
import ScenarioTree.Text.Quoted

namespace ScenarioTree.Data

/-! ### Texts -/

/-- A UTF-16 unit by its number. -/
def unitEscape (unit : Nat) : List Char :=
  '\\' :: 'u' :: Text.hexDigits 4 unit

/-- How a character stands in a JSON string. -/
def escapedCharacter (character : Char) : List Char :=
  let code := character.toNat
  match character with
  | '"' => ['\\', '"']
  | '\\' => ['\\', '\\']
  | '\n' => ['\\', 'n']
  | '\r' => ['\\', 'r']
  | '\t' => ['\\', 't']
  | '\x08' => ['\\', 'b']
  | '\x0C' => ['\\', 'f']
  | _ =>
    if 0x20 ≤ code && code ≤ 0x7E then [character]
    else if code < 0x10000 then unitEscape code
    else
      unitEscape (0xD800 + (code - 0x10000) / 0x400) ++
        unitEscape (0xDC00 + (code - 0x10000) % 0x400)

/-- A JSON string. -/
def stringCharacters (text : String) : List Char :=
  '"' :: (text.toList.flatMap escapedCharacter ++ ['"'])

/-! ### Values -/

/-- A new line, indented by two blanks for each level. -/
def lineBreak (depth : Nat) : List Char :=
  '\n' :: List.replicate (2 * depth) ' '

mutual

/-- The characters of data that stand `depth` levels deep. -/
def characters (depth : Nat) : Data → List Char
  | null => ['n', 'u', 'l', 'l']
  | boolean true => ['t', 'r', 'u', 'e']
  | boolean false => ['f', 'a', 'l', 's', 'e']
  | number value => value.text.toList
  | string value => stringCharacters value
  | list [] => ['[', ']']
  | list (item :: rest) =>
    '[' :: (lineBreak (depth + 1) ++ item.characters (depth + 1) ++
      itemCharacters (depth + 1) rest ++ lineBreak depth ++ [']'])
  | object [] => ['\x7b', '\x7d']
  | object ((name, value) :: rest) =>
    '\x7b' :: (lineBreak (depth + 1) ++ stringCharacters name ++ [':', ' '] ++
      value.characters (depth + 1) ++ fieldCharacters (depth + 1) rest ++ lineBreak depth ++
      ['\x7d'])

/-- The characters of the entries of a list after the first. -/
def itemCharacters (depth : Nat) : List Data → List Char
  | [] => []
  | item :: rest =>
    ',' :: (lineBreak depth ++ item.characters depth ++ itemCharacters depth rest)

/-- The characters of the fields of an object after the first. -/
def fieldCharacters (depth : Nat) : List (String × Data) → List Char
  | [] => []
  | (name, value) :: rest =>
    ',' :: (lineBreak depth ++ stringCharacters name ++ [':', ' '] ++ value.characters depth ++
      fieldCharacters depth rest)

end

/-- Data as JSON. -/
def print (data : Data) : String :=
  String.ofList (data.characters 0)

end ScenarioTree.Data
