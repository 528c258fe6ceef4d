/-
This file splits the content of elements into tokens: characters, references, tags and remarks.
The characters of a section that is marked as character data come out as plain characters. Reading
goes one character at a time; between two calls the lexeme holds what has been seen of the next
token.

Two right brackets are remembered in text, where they must not be followed by `>`, and held back
in a section, where that ends it. A carriage return stands only at the end of a source, where the
reader is still waiting for a line feed, so its place is remembered. In the text of an entity, which
is read apart, it is a character that was written by its number.
-/

import ScenarioTree.Xml.Remark
import ScenarioTree.Xml.Tag

namespace ScenarioTree.Xml

/-- A piece of the content of an element. -/
inductive Token where
  | character (character : Char)
  | reference (reference : Reference)
  | startTag (tag : RawTag)
  | endTag (name : String) (position : Position)
  | remark (remark : Remark)
  deriving DecidableEq

/-- What has been seen of the next token. Outside of markup that is `text`, with the number of right
brackets just before, at most two. -/
inductive Lexeme where
  | text (brackets : Nat)
  | carriage (position : Position)
  | reference (pending : Reference.Pending)
  | angle
  | bang
  | remark (pending : Remark.Pending)
  | sectionName (seen : List Char)
  | data (brackets : Nat)
  | dataCarriage (position : Position)
  | startTag (pending : RawTag.Pending)
  | endTag (position : Position) (seen : List Char)
  | endTagGap (position : Position) (name : String)
  deriving DecidableEq

namespace Lexeme

/-- What the name of a section is, with the bracket after it. -/
def sectionOpening : List Char := ['C', 'D', 'A', 'T', 'A', '[']

/-- Where two lists first differ. -/
def mismatch? : List Char → List Char → Option Nat
  | [], [] => none
  | left :: lefts, right :: rights =>
    if left == right then (mismatch? lefts rights).map (· + 1) else some 0
  | _, _ => some 0

/-- One more character outside of markup, after `brackets` right brackets. -/
def stepText (here : Position) (character : Char) (brackets : Nat) :
    Except Position (Lexeme × List Token) :=
  if character == '<' then .ok (.angle, [])
  else if character == '&' then .ok (.reference .opened, [])
  else if character == '\r' then .ok (.carriage here, [.character '\n'])
  else if character == ']' then .ok (.text (min 2 (brackets + 1)), [.character character])
  else if (character == '>' && brackets == 2) || !isLegal character then .error here
  else .ok (.text 0, [.character character])

/-- One more character of a section, while `brackets` right brackets are held back. -/
def stepData (here : Position) (character : Char) (brackets : Nat) :
    Except Position (Lexeme × List Token) :=
  let held := List.replicate brackets (Token.character ']')
  if character == ']' then
    if brackets = 2 then .ok (.data 2, [.character ']']) else .ok (.data (brackets + 1), [])
  else if character == '>' && brackets == 2 then .ok (.text 0, [])
  else if character == '\r' then .ok (.dataCarriage here, held ++ [.character '\n'])
  else if isLegal character then .ok (.data 0, held ++ [.character character])
  else .error here

/-- One more character of the name of a section. Nothing is decided before there are as many bytes
as the name has. -/
def stepSectionName (start : Position) (seen : List Char) :
    Except Position (Lexeme × List Token) :=
  let name := seen.reverse
  if (String.ofList name).utf8ByteSize < sectionOpening.length then .ok (.sectionName seen, [])
  else match mismatch? name sectionOpening with
    | none => .ok (.data 0, [])
    | some place => .error ⟨start.line, start.column + 3 + place⟩

/-- Where the name of a section is wrong that is cut off by the end of the source. It is looked at
if it had as many bytes as it was written, with `joined` line ends of two characters. -/
def cutSectionName? (start : Position) (seen : List Char) (joined : Nat) : Option Position :=
  let name := seen.reverse
  if (String.ofList name).utf8ByteSize + joined < sectionOpening.length then none
  else (mismatch? name sectionOpening).map fun place => ⟨start.line, start.column + 3 + place⟩

/-- One more character; `start` is where the token in hand began. The lexeme after it and the tokens
that it completes, or the place at which the markup is invalid. -/
def step (start here : Position) (character : Char) :
    Lexeme → Except Position (Lexeme × List Token)
  | .text brackets => stepText here character brackets
  | .carriage _ => stepText here character 0
  | .reference pending =>
    match pending.step character with
    | .more pending => .ok (.reference pending, [])
    | .done found => .ok (.text 0, [.reference found])
    | .invalid => .error here
  | .angle =>
    if character == '!' then .ok (.bang, [])
    else if character == '?' then .ok (.remark .targetStart, [])
    else if character == '/' then .ok (.endTag (here.after character) [], [])
    else if isNameStart character then .ok (.startTag (.tagName (.start character)), [])
    else .error here
  | .bang =>
    if character == '-' then .ok (.remark .dash, [])
    else if character == '[' then .ok (.sectionName [], [])
    else .error here
  | .remark pending =>
    match pending.step character with
    | .more pending => .ok (.remark pending, [])
    | .done found => .ok (.text 0, [.remark found])
    | .invalid => .error here
  | .sectionName seen => stepSectionName start (character :: seen)
  | .data brackets => stepData here character brackets
  | .dataCarriage _ => stepData here character 0
  | .startTag pending =>
    match pending.step here character with
    | .more pending => .ok (.startTag pending, [])
    | .done tag => .ok (.text 0, [.startTag tag])
    | .invalid => .error here
  | .endTag position [] =>
    if isNameStart character then .ok (.endTag position [character], []) else .error here
  | .endTag position seen =>
    if isNamePart character || character == ':' then .ok (.endTag position (character :: seen), [])
    else if character == '>' then
      .ok (.text 0, [.endTag (String.ofList seen.reverse) position])
    else if isSpace character then
      .ok (.endTagGap position (String.ofList seen.reverse), [])
    else .error here
  | .endTagGap position name =>
    if character == '>' then .ok (.text 0, [.endTag name position])
    else if isSpace character then .ok (.endTagGap position name, [])
    else .error here

/-- One more character of the text of an entity. Its line ends were unified when it was declared, so
a carriage return in it was written by its number and is a character like any other. -/
def stepReplacement (start here : Position) (character : Char) :
    Lexeme → Except Position (Lexeme × List Token)
  | .text brackets =>
    if character == '\r' then .ok (.text 0, [.character '\r'])
    else stepText here character brackets
  | .data brackets =>
    if character == '\r' then
      .ok (.data 0, List.replicate brackets (.character ']') ++ [.character '\r'])
    else stepData here character brackets
  | lexeme => lexeme.step start here character

/-- Whether a token begins with the next character. -/
def isIdle : Lexeme → Bool
  | .text _ | .carriage _ => true
  | _ => false

end Lexeme

end ScenarioTree.Xml
