/-
This file sorts the characters of YAML: which of them a text may hold, which end a line, and which
may stand in names and in addresses. Line ends are expected in one spelling, so a carriage return
is not among them.
-/

namespace ScenarioTree.Yaml

/-- Characters that a text may hold. -/
def isPrintable (character : Char) : Bool :=
  let code := character.toNat
  code == 0x09 || code == 0x0A || (0x20 ≤ code && code ≤ 0x7E) || code == 0x85 ||
    (0xA0 ≤ code && code ≤ 0xFFFD) || 0x10000 ≤ code

/-- Characters that end a line. -/
def isBreak (character : Char) : Bool :=
  character == '\n' || character == '\u0085' || character == '\u2028' || character == '\u2029'

/-- What a line end stands for in a scalar. -/
def breakText (character : Char) : Char :=
  if character == '\u0085' then '\n' else character

/-- Blanks within a line. -/
def isBlank (character : Char) : Bool :=
  character == ' ' || character == '\t'

/-- Characters of names. -/
def isNamePart (character : Char) : Bool :=
  ('0' ≤ character && character ≤ '9') || ('A' ≤ character && character ≤ 'Z') ||
    ('a' ≤ character && character ≤ 'z') || character == '-' || character == '_'

/-- Characters of addresses; a percent sign begins an escape. -/
def isAddressPart (character : Char) : Bool :=
  isNamePart character || ";/?:@&=+$,.!~*'()[]%".contains character

/-! ### What a text begins with -/

/-- Whether a text ends or begins with a line end. -/
def endsLine : List Char → Bool
  | [] => true
  | character :: _ => isBreak character

/-- Whether a text ends or begins with a space or a line end. -/
def endsPart : List Char → Bool
  | [] => true
  | character :: _ => isBreak character || character == ' '

/-- Whether a text ends or begins with a blank or a line end. -/
def endsWord : List Char → Bool
  | [] => true
  | character :: _ => isBreak character || isBlank character

/-- Whether a text begins with three of a character that stand alone. -/
def beginsMarker (mark : Char) : List Char → Bool
  | first :: second :: third :: rest =>
    first == mark && second == mark && third == mark && endsWord rest
  | _ => false

/-- Whether a line begins with a mark between documents. -/
def beginsDocumentMark (characters : List Char) : Bool :=
  beginsMarker '-' characters || beginsMarker '.' characters

/-! ### Hexadecimal digits -/

/-- The value of a hexadecimal digit. -/
def hexValue? (character : Char) : Option Nat :=
  if '0' ≤ character && character ≤ '9' then some (character.toNat - 48)
  else if 'a' ≤ character && character ≤ 'f' then some (character.toNat - 87)
  else if 'A' ≤ character && character ≤ 'F' then some (character.toNat - 55)
  else none

/-- The value of hexadecimal digits. -/
def hexNumber? (digits : List Char) : Option Nat :=
  digits.foldlM (fun value digit => (hexValue? digit).map (16 * value + ·)) 0

end ScenarioTree.Yaml
