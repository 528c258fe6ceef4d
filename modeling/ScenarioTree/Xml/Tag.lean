/-
This file reads start tags. A tag is read to its end before anything in it is looked up, so the
parts are kept as they are written: qualified names with their colon, and attribute values with
their references. The places of the parts are kept for faults found later.
-/

import ScenarioTree.Xml.Fault
import ScenarioTree.Xml.Reference

namespace ScenarioTree.Xml

/-! ### Qualified names -/

/-- How far a qualified name is with its colon: there was none, it was the last character, or it
lies behind. -/
inductive Colon where
  | absent
  | fresh
  | passed
  deriving DecidableEq

/-- A qualified name that is being read, the newest character first. -/
structure PendingName where
  seen : List Char
  colon : Colon
  deriving DecidableEq

namespace PendingName

/-- The name after its first character. -/
def start (character : Char) : PendingName :=
  ⟨[character], .absent⟩

/-- The name with one more character, if that can belong to it. A name has at most one colon, and
what follows the colon begins like a name. -/
def extend? (name : PendingName) (character : Char) : Option PendingName :=
  match name.colon with
  | .fresh => if isNameStart character then some ⟨character :: name.seen, .passed⟩ else none
  | .absent =>
    if isNamePart character then some ⟨character :: name.seen, .absent⟩
    else if character == ':' then some ⟨character :: name.seen, .fresh⟩
    else none
  | .passed => if isNamePart character then some ⟨character :: name.seen, .passed⟩ else none

/-- Whether the name may end. -/
def complete (name : PendingName) : Bool :=
  name.colon != .fresh

/-- The name as text. -/
def text (name : PendingName) : String :=
  String.ofList name.seen.reverse

end PendingName

/-! ### Tags -/

/-- An attribute as it is written. -/
structure RawAttribute where
  name : String
  position : Position
  value : String
  valuePosition : Position
  deriving DecidableEq

/-- A start tag as it is written; `closed` tells that it is also the end of its element. -/
structure RawTag where
  name : String
  attributes : List RawAttribute
  closed : Bool
  deriving DecidableEq

/-- The part of an attribute before its value. -/
structure AttributeHead where
  tag : RawTag
  position : Position
  deriving DecidableEq

namespace RawTag

/-- What has been seen of a start tag. -/
inductive Pending where
  | tagName (name : PendingName)
  | gap (tag : RawTag)
  | slash (tag : RawTag)
  | attributeName (head : AttributeHead) (name : PendingName)
  | beforeEquals (head : AttributeHead) (name : String)
  | beforeQuote (head : AttributeHead) (name : String)
  | attributeValue (head : AttributeHead) (name : String) (start : Position) (quote : Char)
      (seen : List Char) (reference : Option Reference.Pending)
  | afterValue (tag : RawTag)
  deriving DecidableEq

/-- What may follow a complete part of a tag: a blank, a slash or the end. -/
def follow (tag : RawTag) (character : Char) : Progress Pending RawTag :=
  if isSpace character then .more (.gap tag)
  else if character == '>' then .done tag
  else if character == '/' then .more (.slash tag)
  else .invalid

/-- The tag with one more attribute. -/
def addAttribute (head : AttributeHead) (name : String) (start : Position) (seen : List Char) :
    RawTag :=
  { head.tag with
    attributes :=
      head.tag.attributes ++ [⟨name, head.position, String.ofList seen.reverse, start⟩] }

/-- One more character of a start tag. -/
def Pending.step (here : Position) (character : Char) : Pending → Progress Pending RawTag
  | .tagName name =>
    match name.extend? character with
    | some longer => .more (.tagName longer)
    | none =>
      if name.complete then follow ⟨name.text, [], false⟩ character else .invalid
  | .gap tag =>
    if isNameStart character then .more (.attributeName ⟨tag, here⟩ (.start character))
    else follow tag character
  | .slash tag => if character == '>' then .done { tag with closed := true } else .invalid
  | .attributeName head name =>
    match name.extend? character with
    | some longer => .more (.attributeName head longer)
    | none =>
      if !name.complete then .invalid
      else if isSpace character then .more (.beforeEquals head name.text)
      else if character == '=' then .more (.beforeQuote head name.text)
      else .invalid
  | .beforeEquals head name =>
    if isSpace character then .more (.beforeEquals head name)
    else if character == '=' then .more (.beforeQuote head name)
    else .invalid
  | .beforeQuote head name =>
    if isSpace character then .more (.beforeQuote head name)
    else if character == '"' || character == '\'' then
      .more (.attributeValue head name (here.after character) character [] none)
    else .invalid
  | .attributeValue head name start quote seen none =>
    if character == quote then .more (.afterValue (addAttribute head name start seen))
    else if character == '<' || !isLegal character then .invalid
    else
      .more (.attributeValue head name start quote (character :: seen)
        (if character == '&' then some .opened else none))
  | .attributeValue head name start quote seen (some reference) =>
    match reference.step character with
    | .more pending =>
      .more (.attributeValue head name start quote (character :: seen) (some pending))
    | .done _ => .more (.attributeValue head name start quote (character :: seen) none)
    | .invalid => .invalid
  | .afterValue tag => follow tag character

end RawTag

end ScenarioTree.Xml
