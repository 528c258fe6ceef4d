/-
This file splits what stands outside of the root element into marks: blanks, remarks, and the words,
literals and signs of the document type. Some marks end where the next character does not belong to
them any more, so a character may end one mark and begin the next.
-/

import ScenarioTree.Xml.Fault
import ScenarioTree.Xml.Remark

namespace ScenarioTree.Xml.Doctype

/-! ### Marks -/

/-- Words that are names, names with one colon, and other runs of name characters. -/
inductive WordKind where
  | name
  | qualified
  | other
  deriving DecidableEq

/-- A piece of what stands outside of the root element. -/
inductive Mark where
  | blank
  | remark (remark : Remark)
  | rootTag
  | declaration (keyword : String)
  | conditionalOpen
  | conditionalClose
  | literal (text : String)
  | word (kind : WordKind) (text : String)
  | repeated (text : String)
  | hash (text : String)
  | parameter
  | percent
  | comma
  | bar
  | bracketOpen
  | bracketClose
  | groupOpen
  | groupClose (repeats : Option Char)
  | close
  deriving DecidableEq

/-- What has been seen of the next mark; `idle` between two marks. Texts have the newest character
first. -/
inductive Pending where
  | idle
  | angle
  | bang
  | remark (pending : Remark.Pending)
  | keyword (seen : List Char)
  | keywordPercent (keyword : String) (position : Position)
  | literal (quote : Char) (seen : List Char)
  | literalEnd (text : String)
  | percent
  | parameter (seen : List Char)
  | hash
  | hashName (seen : List Char)
  | bracketClose
  | bracketsClose (position : Position)
  | groupClose
  | word (kind : WordKind) (seen : List Char)
  | colon (seen : List Char)
  deriving DecidableEq

/-- What one more character makes of a mark. With `before`, the mark ended before the character,
which belongs to what comes next: that began at `position` with `pending`. -/
inductive Outcome where
  | more (pending : Pending)
  | done (mark : Mark)
  | before (mark : Mark) (pending : Pending) (position : Position)
  | invalid (position : Position)
  deriving DecidableEq

namespace Pending

/-- The text of characters with the newest first. -/
def textOf (seen : List Char) : String :=
  String.ofList seen.reverse

/-- The characters that may follow a word. -/
def endsWord (character : Char) : Bool :=
  isSpace character || character == '>' || character == ')' || character == ',' ||
    character == '|' || character == '[' || character == '%'

/-- A character between two marks. Any character beyond ASCII may begin the root element here; its
tag is looked at again when it is read. -/
def stepIdle (here : Position) (character : Char) : Outcome :=
  if isSpace character then .done .blank
  else match character with
    | '<' => .more .angle
    | '"' | '\'' => .more (.literal character [])
    | '%' => .more .percent
    | '#' => .more .hash
    | ',' => .done .comma
    | '|' => .done .bar
    | '[' => .done .bracketOpen
    | ']' => .more .bracketClose
    | '(' => .done .groupOpen
    | ')' => .more .groupClose
    | '>' => .done .close
    | _ =>
      if isNameStart character then .more (.word .name [character])
      else if isNamePart character || character == ':' then .more (.word .other [character])
      else .invalid here

/-- One more character of a word. The colon ends the first part of a qualified name. -/
def stepWord (here : Position) (character : Char) (kind : WordKind) (seen : List Char) : Outcome :=
  if isNamePart character then .more (.word kind (character :: seen))
  else if character == ':' then
    match kind with
    | .name => .more (.colon (character :: seen))
    | _ => .more (.word .other (character :: seen))
  else if endsWord character then .before (.word kind (textOf seen)) .idle here
  else if character == '?' || character == '*' || character == '+' then
    if kind = .other then .invalid here else .done (.repeated (textOf seen))
  else .invalid here

/-- One more character of a mark. -/
def step (here : Position) (character : Char) : Pending → Outcome
  | .idle => stepIdle here character
  | .angle =>
    if character == '!' then .more .bang
    else if character == '?' then .more (.remark .targetStart)
    else if isAsciiLetter character || character == '_' || 0x80 ≤ character.toNat then
      .done .rootTag
    else .invalid here
  | .bang =>
    if character == '-' then .more (.remark .dash)
    else if character == '[' then .done .conditionalOpen
    else if isAsciiLetter character || character == '_' then .more (.keyword [character])
    else .invalid here
  | .remark pending =>
    match pending.step character with
    | .more pending => .more (.remark pending)
    | .done found => .done (.remark found)
    | .invalid => .invalid here
  | .keyword seen =>
    if isAsciiLetter character || character == '_' then .more (.keyword (character :: seen))
    else if isSpace character then .before (.declaration (textOf seen)) .idle here
    else if character == '%' then .more (.keywordPercent (textOf seen) here)
    else .invalid here
  | .keywordPercent text position =>
    if isSpace character || character == '%' then .invalid position
    else .before (.declaration text) .percent position
  | .literal quote seen =>
    if character == quote then .more (.literalEnd (textOf seen))
    else if isLegal character then .more (.literal quote (character :: seen))
    else .invalid here
  | .literalEnd text =>
    if isSpace character || character == '>' || character == '%' || character == '[' then
      .before (.literal text) .idle here
    else .invalid here
  | .percent =>
    if isNameStart character then .more (.parameter [character])
    else if isSpace character || character == '%' then .before .percent .idle here
    else .invalid here
  | .parameter seen =>
    if isNamePart character then .more (.parameter (character :: seen))
    else if character == ';' then .done .parameter
    else .invalid here
  | .hash => if isNameStart character then .more (.hashName [character]) else .invalid here
  | .hashName seen =>
    if isNamePart character then .more (.hashName (character :: seen))
    else if isSpace character || character == ')' || character == '>' || character == '%' ||
        character == '|' then
      .before (.hash (textOf seen)) .idle here
    else .invalid here
  | .bracketClose =>
    if character == ']' then .more (.bracketsClose here) else .before .bracketClose .idle here
  | .bracketsClose position =>
    if character == '>' then .done .conditionalClose
    else .before .bracketClose .bracketClose position
  | .groupClose =>
    if character == '*' || character == '?' || character == '+' then
      .done (.groupClose (some character))
    else if isSpace character || character == '>' || character == ',' || character == '|' ||
        character == ')' then
      .before (.groupClose none) .idle here
    else .invalid here
  | .word kind seen => stepWord here character kind seen
  | .colon seen =>
    if isNamePart character then .more (.word .qualified (character :: seen))
    else stepWord here character .other seen

/-- What there is at the end of a source: a mark that ends there, nothing, or the beginning of a
mark. -/
def finish : Pending → Progress Unit Mark
  | .idle => .more ()
  | .literalEnd text => .done (.literal text)
  | .hashName seen => .done (.hash (textOf seen))
  | .bracketClose => .done .bracketClose
  | .groupClose => .done (.groupClose none)
  | .word kind seen => .done (.word kind (textOf seen))
  | _ => .invalid

end Pending

end ScenarioTree.Xml.Doctype
