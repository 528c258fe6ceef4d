/-
This file lists the tokens of YAML and reads those that name things: anchors, aliases, tags and
directives.
-/

import ScenarioTree.Number.Literal
import ScenarioTree.Yaml.Cursor
import ScenarioTree.Yaml.Fault

namespace ScenarioTree.Yaml

/-- A tag as it is written: an address, or the end of one after a handle. -/
structure TagText where
  handle : Option String
  address : String
  deriving DecidableEq

/-- A directive before a document. Those of other names have no effect. -/
inductive Directive where
  | version (major : Nat)
  | handle (name address : String)
  | other
  deriving DecidableEq

/-- A token. -/
inductive Token where
  | directive (directive : Directive)
  | documentStart
  | documentEnd
  | blockSequence
  | blockMapping
  | blockEnd
  | openBracket
  | closeBracket
  | openBrace
  | closeBrace
  | dash
  | comma
  | key
  | value
  | alias (name : String)
  | anchor (name : String)
  | tag (tag : TagText)
  | scalar (text : String) (plain : Bool)
  deriving DecidableEq

/-! ### Names -/

/-- A name, and the place behind it. -/
def nameAt (cursor : Cursor) : Except Fault (String × Cursor) :=
  let (name, cursor) := cursor.span isNamePart
  if name.isEmpty then .error .malformed else .ok (String.ofList name, cursor)

/-- The name of an anchor or an alias. -/
def anchorName (cursor : Cursor) : Except Fault (String × Cursor) := do
  let (name, cursor) ← nameAt cursor
  if endsWord cursor.rest || (cursor.rest.head?.any fun character =>
      "?:,]\x7d%@\x60".contains character) then return (name, cursor)
  else .error .malformed

/-! ### Addresses -/

/-- The bytes of the escapes that come next. -/
def escapedBytes : Nat → Cursor → Except Fault (List UInt8 × Cursor)
  | 0, cursor => .ok ([], cursor)
  | rounds + 1, cursor =>
    match cursor.rest with
    | '%' :: high :: low :: _ =>
      match hexNumber? [high, low] with
      | none => .error .malformed
      | some byte => do
        let (more, cursor) ← escapedBytes rounds (cursor.skip 3)
        return (UInt8.ofNat byte :: more, cursor)
    | '%' :: _ => .error .malformed
    | _ => .ok ([], cursor)

/-- The characters of an address with its escapes resolved. -/
def addressFrom : Nat → Cursor → Except Fault (String × Cursor)
  | 0, cursor => .ok ("", cursor)
  | rounds + 1, cursor => do
    let (plain, cursor) := cursor.span fun character => isAddressPart character && character != '%'
    if cursor.sees '%' then
      let (bytes, cursor) ← escapedBytes cursor.rest.length cursor
      match String.fromUTF8? ⟨bytes.toArray⟩ with
      | none => .error .malformed
      | some meant =>
        let (more, cursor) ← addressFrom rounds cursor
        return (String.ofList plain ++ meant ++ more, cursor)
    else return (String.ofList plain, cursor)

/-- An address, and the place behind it. -/
def addressAt (cursor : Cursor) : Except Fault (String × Cursor) :=
  if cursor.rest.head?.any isAddressPart then addressFrom (cursor.rest.length + 1) cursor
  else .error .malformed

/-- A handle: a name between two marks, or one or two marks alone. -/
def handleAt (cursor : Cursor) : Except Fault (String × Cursor) :=
  if !cursor.sees '!' then .error .malformed
  else if cursor.next.sees ' ' then .ok ("!", cursor.next)
  else
    let (name, behind) := cursor.next.span isNamePart
    if behind.sees '!' then .ok ("!" ++ String.ofList name ++ "!", behind.next)
    else .error .malformed

/-! ### Tags -/

/-- Whether another mark comes before the next space or line end. -/
def hasHandle (characters : List Char) : Bool :=
  (characters.takeWhile fun character => !(isBreak character || character == ' ')).contains '!'

/-- A tag, from its first mark on. -/
def tagAt (cursor : Cursor) : Except Fault (TagText × Cursor) := do
  let inside := cursor.next
  let (tag, cursor) ←
    if inside.sees '<' then do
      let (address, cursor) ← addressAt inside.next
      if cursor.sees '>' then pure (TagText.mk none address, cursor.next) else .error .malformed
    else if endsWord inside.rest then pure (TagText.mk none "!", inside)
    else if hasHandle inside.rest then do
      let (handle, cursor) ← handleAt cursor
      let (address, cursor) ← addressAt cursor
      pure (TagText.mk (some handle) address, cursor)
    else do
      let (address, cursor) ← addressAt inside
      pure (TagText.mk (some "!") address, cursor)
  if endsPart cursor.rest then return (tag, cursor) else .error .malformed

/-! ### Directives -/

/-- A number, and the place behind it. -/
def numberAt (cursor : Cursor) : Except Fault (Nat × Cursor) :=
  let (digits, cursor) := cursor.span Char.isDigit
  if digits.isEmpty then .error .malformed
  else .ok (Number.digitsValue digits, cursor)

/-- What a directive of a name says. -/
def directiveValue (name : String) (cursor : Cursor) : Except Fault (Directive × Cursor) := do
  let spaced := cursor.skipWhile (· == ' ')
  if name == "YAML" then do
    let (major, cursor) ← numberAt spaced
    if !cursor.sees '.' then .error .malformed
    else
      let (_, cursor) ← numberAt cursor.next
      if endsPart cursor.rest then return (.version major, cursor) else .error .malformed
  else if name == "TAG" then do
    let (handle, cursor) ← handleAt spaced
    if !cursor.sees ' ' then .error .malformed
    else
      let (address, cursor) ← addressAt (cursor.skipWhile (· == ' '))
      if endsPart cursor.rest then return (.handle handle address, cursor) else .error .malformed
  else return (.other, cursor.skipWhile (!isBreak ·))

/-- A directive, from behind its sign to the end of its line. -/
def directiveAt (cursor : Cursor) : Except Fault (Directive × Cursor) := do
  let (name, cursor) ← nameAt cursor
  if !endsPart cursor.rest then .error .malformed
  else
    let (directive, cursor) ← directiveValue name cursor
    match cursor.restOfLine? with
    | some cursor => return (directive, cursor)
    | none => .error .malformed

end ScenarioTree.Yaml
