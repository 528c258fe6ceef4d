/-
This file says which characters count as blank at the ends of a text, and removes them there. The
class is the white space of Unicode together with the four ASCII separators U+001C to U+001F; the
zero-width characters U+200B, U+2060 and U+FEFF are not in it.
-/

namespace ScenarioTree.Text

/-- Blank characters: the line and space controls, the separators, and the Unicode spaces. -/
def isBlank (character : Char) : Bool :=
  let code := character.toNat
  (0x09 ≤ code && code ≤ 0x0D) || (0x1C ≤ code && code ≤ 0x20) || code == 0x85 || code == 0xA0 ||
    code == 0x1680 || (0x2000 ≤ code && code ≤ 0x200A) || code == 0x2028 || code == 0x2029 ||
    code == 0x202F || code == 0x205F || code == 0x3000

/-! ### Trimming -/

/-- The characters without the blank ones that begin them. -/
def trimLeft (characters : List Char) : List Char :=
  characters.dropWhile isBlank

/-- The characters without the blank ones that end them. -/
def trimRight (characters : List Char) : List Char :=
  (characters.reverse.dropWhile isBlank).reverse

/-- The characters without the blank ones at both ends. -/
def trim (characters : List Char) : List Char :=
  trimRight (trimLeft characters)

/-- A text without the blanks at both ends. -/
def trimmed (text : String) : String :=
  String.ofList (trim text.toList)

end ScenarioTree.Text
