/-
This file writes a text inside quotes, so that messages can show any text at all on one line. The
quote is the apostrophe, unless the text has an apostrophe and no quotation mark. A backslash, the
quote in use and the common controls get a backslash; every other unprintable character is written
by its code point in hexadecimal. Truth values are shown by words, which need no quotes.
-/

import ScenarioTree.Text.Printable

namespace ScenarioTree.Text

/-! ### Hexadecimal digits -/

/-- The digit of a number below sixteen, in lower case. -/
def hexDigit (digit : Nat) : Char :=
  if digit < 10 then Char.ofNat (48 + digit) else Char.ofNat (87 + digit)

/-- The last `width` hexadecimal digits of a number, leading zeros included. -/
def hexDigits : Nat → Nat → List Char
  | 0, _ => []
  | width + 1, number => hexDigits width (number / 16) ++ [hexDigit (number % 16)]

/-! ### Quoting -/

/-- How a character stands inside quotes. -/
def quotedCharacter (quote character : Char) : List Char :=
  if character == quote || character == '\\' then ['\\', character]
  else if character == '\n' then ['\\', 'n']
  else if character == '\r' then ['\\', 'r']
  else if character == '\t' then ['\\', 't']
  else if isPrintable character then [character]
  else if character.toNat < 0x100 then '\\' :: 'x' :: hexDigits 2 character.toNat
  else if character.toNat < 0x10000 then '\\' :: 'u' :: hexDigits 4 character.toNat
  else '\\' :: 'U' :: hexDigits 8 character.toNat

/-- The quote a text is written in. -/
def quoteFor (characters : List Char) : Char :=
  if characters.contains '\'' && !characters.contains '"' then '"' else '\''

/-- The characters of a quoted text. -/
def quotedCharacters (characters : List Char) : List Char :=
  let quote := quoteFor characters
  quote :: (characters.flatMap (quotedCharacter quote) ++ [quote])

/-- A text in quotes, on one line and without unprintable characters. -/
def quoted (text : String) : String :=
  String.ofList (quotedCharacters text.toList)

/-! ### Words -/

/-- A truth value as a word. -/
def truthWord (value : Bool) : String :=
  if value then "True" else "False"

end ScenarioTree.Text
