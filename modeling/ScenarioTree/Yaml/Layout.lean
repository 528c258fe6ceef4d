/-
This file turns a text into tokens. Outside of brackets the indentation says where collections begin
and end: a column further in than all open ones opens a collection, and a column further out closes
those beyond it. A scalar may turn out to be a key only at the colon after it, so every place where
a key could begin is remembered until then, on its line and for a limited length.

Each round reads at least one character, so there are no more rounds than characters.
-/

import ScenarioTree.Yaml.Scalar
import ScenarioTree.Yaml.Token

namespace ScenarioTree.Yaml

/-! ### The state -/

/-- A place where a key may have begun: the number of tokens before it, and where it stands. A key
that is needed there must not be missing. -/
structure KeyPlace where
  tokens : Nat
  needed : Bool
  index : Nat
  line : Nat
  column : Nat

/-- The most characters a key without a sign of its own may have. -/
def keyLimit : Nat := 1024

/-- What has been read of a text: the tokens in reverse, the margins of the open block collections,
the places of keys in the open brackets and outside of them, innermost first, and whether a key may
begin here. A margin is one more than the column of its collection. -/
structure Layout where
  cursor : Cursor
  tokens : List Token
  margins : List Nat
  keys : List (Option KeyPlace)
  keyAllowed : Bool

namespace Layout

/-- Nothing has been read. -/
def start (characters : List Char) : Layout :=
  ⟨.start characters, [], [], [none], true⟩

/-- Whether brackets are open, so that indentation has no meaning. -/
def inFlow (layout : Layout) : Bool :=
  1 < layout.keys.length

/-- The margin of the innermost block collection. -/
def margin (layout : Layout) : Nat :=
  layout.margins.headD 0

/-- One more token. -/
def push (layout : Layout) (token : Token) : Layout :=
  { layout with tokens := token :: layout.tokens }

/-- The layout at a place further on. -/
def movedTo (layout : Layout) (cursor : Cursor) : Layout :=
  { layout with cursor := cursor }

/-- The layout with a choice of whether a key may begin. -/
def allowing (layout : Layout) (allowed : Bool) : Layout :=
  { layout with keyAllowed := allowed }

/-! ### Indentation -/

/-- The block collections beyond a margin closed. -/
def closeBeyond (layout : Layout) (margin : Nat) : Layout :=
  if layout.inFlow then layout
  else
    let closed := layout.margins.takeWhile (margin < ·)
    { layout with
      tokens := closed.map (fun _ => Token.blockEnd) ++ layout.tokens
      margins := layout.margins.drop closed.length }

/-- A block collection opened by a token if the column is further in than all others. -/
def openAt (layout : Layout) (column : Nat) (token : Token) : Layout :=
  if layout.margin ≤ column then
    { layout with margins := (column + 1) :: layout.margins }.push token
  else layout

/-! ### Keys -/

/-- The place of a key in the innermost brackets forgotten, which must not be a needed one. -/
def forgetKey (layout : Layout) : Except Fault Layout :=
  match layout.keys with
  | some place :: rest =>
    if place.needed then .error .malformed else .ok { layout with keys := none :: rest }
  | _ => .ok layout

/-- The places of keys forgotten that lie too far back. -/
def forgetStale (layout : Layout) : Except Fault Layout := do
  let fresh (place : KeyPlace) : Bool :=
    place.line == layout.cursor.line && layout.cursor.index - place.index ≤ keyLimit
  let keep (place : Option KeyPlace) : Except Fault (Option KeyPlace) :=
    match place with
    | none => .ok none
    | some place =>
      if fresh place then .ok (some place)
      else if place.needed then .error .malformed
      else .ok none
  return { layout with keys := ← layout.keys.mapM keep }

/-- This place remembered, if a key may begin here. -/
def rememberKey (layout : Layout) : Except Fault Layout :=
  if !layout.keyAllowed then .ok layout
  else do
    let layout ← layout.forgetKey
    let place : KeyPlace :=
      { tokens := layout.tokens.length
        needed := !layout.inFlow && layout.margin == layout.cursor.column + 1
        index := layout.cursor.index
        line := layout.cursor.line
        column := layout.cursor.column }
    return { layout with keys := some place :: layout.keys.drop 1 }

/-- Tokens put in where a key began; those that come first are last in the list. -/
def insertAt (layout : Layout) (place : KeyPlace) (tokens : List Token) : Layout :=
  let after := layout.tokens.length - place.tokens
  { layout with tokens := layout.tokens.take after ++ tokens ++ layout.tokens.drop after }

/-! ### Tokens -/

/-- A mark between documents, or a directive: everything open is closed. -/
def atDocument (layout : Layout) : Except Fault Layout := do
  let layout ← (layout.closeBeyond 0).forgetKey
  return layout.allowing false

/-- A bracket that opens. -/
def openFlow (layout : Layout) (token : Token) : Except Fault Layout := do
  let layout ← layout.rememberKey
  return { layout with
    keys := none :: layout.keys, keyAllowed := true, cursor := layout.cursor.next }.push token

/-- A bracket that closes; there has to be an open one. -/
def closeFlow (layout : Layout) (token : Token) : Except Fault Layout := do
  if !layout.inFlow then .error .malformed
  else
    let layout ← layout.forgetKey
    return { layout with
      keys := layout.keys.drop 1, keyAllowed := false, cursor := layout.cursor.next }.push token

/-- A comma. -/
def comma (layout : Layout) : Except Fault Layout := do
  let layout ← layout.forgetKey
  return ((layout.allowing true).push .comma).movedTo layout.cursor.next

/-- A dash before an entry of a block sequence. -/
def dash (layout : Layout) : Except Fault Layout := do
  if !layout.inFlow && !layout.keyAllowed then .error .malformed
  else
    let opened :=
      if layout.inFlow then layout else layout.openAt layout.cursor.column .blockSequence
    let layout ← opened.forgetKey
    return ((layout.allowing true).push .dash).movedTo layout.cursor.next

/-- The sign of a key that is announced. -/
def announcedKey (layout : Layout) : Except Fault Layout := do
  if !layout.inFlow && !layout.keyAllowed then .error .malformed
  else
    let opened :=
      if layout.inFlow then layout else layout.openAt layout.cursor.column .blockMapping
    let layout ← opened.forgetKey
    return ((layout.allowing (!layout.inFlow)).push .key).movedTo layout.cursor.next

/-- The sign of a value. If a key could begin on this line, it did; otherwise the key was announced
or is missing. -/
def valueSign (layout : Layout) : Except Fault Layout := do
  match layout.keys with
  | some place :: rest =>
    let opens := !layout.inFlow && layout.margin ≤ place.column
    let inserted := layout.insertAt place
      (if opens then [.key, .blockMapping] else [.key])
    let margins := if opens then (place.column + 1) :: layout.margins else layout.margins
    return { inserted with
      margins := margins, keys := none :: rest, keyAllowed := false,
      cursor := layout.cursor.next }.push .value
  | _ =>
    if !layout.inFlow && !layout.keyAllowed then .error .malformed
    else
      let opened :=
        if layout.inFlow then layout else layout.openAt layout.cursor.column .blockMapping
      let layout ← opened.forgetKey
      return ((layout.allowing (!layout.inFlow)).push .value).movedTo layout.cursor.next

/-- A token that may be a key or belong to one. -/
def keyPart {α : Type} (layout : Layout) (read : Cursor → Except Fault (α × Cursor))
    (token : α → Token) : Except Fault Layout := do
  let layout ← layout.rememberKey
  let (part, cursor) ← read layout.cursor
  return ((layout.allowing false).push (token part)).movedTo cursor

/-- A plain scalar. -/
def plain (layout : Layout) : Except Fault Layout := do
  let layout ← layout.rememberKey
  let scalar := plainScalar layout.inFlow layout.margin layout.cursor
  return ((layout.allowing scalar.crossedLine).push
    (.scalar (String.ofList scalar.text) true)).movedTo scalar.cursor

/-- A quoted scalar. -/
def quoted (layout : Layout) (double : Bool) : Except Fault Layout :=
  layout.keyPart (fun cursor => quotedScalar double cursor.next)
    fun text => .scalar (String.ofList text) false

/-- A block scalar. -/
def block (layout : Layout) (folded : Bool) : Except Fault Layout := do
  let layout ← layout.forgetKey
  let (text, cursor) ← blockScalar folded layout.margin layout.cursor.next
  return ((layout.allowing true).push (.scalar (String.ofList text) false)).movedTo cursor

/-- Whether a plain scalar may begin with a character, by what comes after it. -/
def beginsPlain (inFlow : Bool) (character : Char) (rest : List Char) : Bool :=
  if "-?:,[]\x7b\x7d#&*!|>'\"%@\x60".contains character then
    !endsWord rest && (character == '-' || (!inFlow && (character == '?' || character == ':')))
  else !isBlank character && !isBreak character

/-! ### Rounds -/

/-- The place of the next token. A line that ends on the way there allows a key to begin. -/
def toNext : Nat → Layout → Layout
  | 0, layout => layout
  | rounds + 1, layout =>
    let spaced := layout.cursor.skipWhile (· == ' ')
    let cursor := if spaced.sees '#' then spaced.skipWhile (!isBreak ·) else spaced
    match cursor.rest with
    | [] => layout.movedTo cursor
    | character :: _ =>
      if isBreak character then
        toNext rounds ((layout.movedTo cursor.next).allowing (layout.keyAllowed || !layout.inFlow))
      else layout.movedTo cursor

/-- The token that begins with a character. -/
def step (layout : Layout) (character : Char) (rest : List Char) : Except Fault Layout :=
  let atMargin := layout.cursor.column == 0
  let flow := layout.inFlow
  if character == '%' && atMargin then do
    let layout ← layout.atDocument
    let (directive, cursor) ← directiveAt layout.cursor.next
    return (layout.push (.directive directive)).movedTo cursor
  else if atMargin && beginsMarker '-' layout.cursor.rest then do
    let layout ← layout.atDocument
    return (layout.push .documentStart).movedTo (layout.cursor.skip 3)
  else if atMargin && beginsMarker '.' layout.cursor.rest then do
    let layout ← layout.atDocument
    return (layout.push .documentEnd).movedTo (layout.cursor.skip 3)
  else if character == '[' then layout.openFlow .openBracket
  else if character == '\x7b' then layout.openFlow .openBrace
  else if character == ']' then layout.closeFlow .closeBracket
  else if character == '\x7d' then layout.closeFlow .closeBrace
  else if character == ',' then layout.comma
  else if character == '-' && endsWord rest then layout.dash
  else if character == '?' && (flow || endsWord rest) then layout.announcedKey
  else if character == ':' && (flow || endsWord rest) then layout.valueSign
  else if character == '*' then
    layout.keyPart (fun cursor => anchorName cursor.next) .alias
  else if character == '&' then
    layout.keyPart (fun cursor => anchorName cursor.next) .anchor
  else if character == '!' then layout.keyPart tagAt .tag
  else if character == '|' && !flow then layout.block false
  else if character == '>' && !flow then layout.block true
  else if character == '\'' then layout.quoted false
  else if character == '"' then layout.quoted true
  else if beginsPlain flow character rest then layout.plain
  else .error .malformed

/-- Tokens to the end of the text. -/
def run : Nat → Layout → Except Fault Layout
  | 0, _ => .error .malformed
  | rounds + 1, layout => do
    let layout ← (layout.toNext (layout.cursor.rest.length + 1)).forgetStale
    let layout := layout.closeBeyond (layout.cursor.column + 1)
    match layout.cursor.rest with
    | [] => (layout.closeBeyond 0).forgetKey
    | character :: rest => run rounds (← layout.step character rest)

end Layout

/-- The tokens of a text. -/
def tokens (characters : List Char) : Except Fault (List Token) :=
  if !characters.all isPrintable then .error .malformed
  else do
    let body := if characters.head? == some '\uFEFF' then characters.drop 1 else characters
    return (← (Layout.start body).run (body.length + 1)).tokens.reverse

end ScenarioTree.Yaml
