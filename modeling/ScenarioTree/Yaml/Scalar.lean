/-
This file reads scalars. A plain scalar ends where something else could begin; a quoted one at its
quote; a block scalar where the indentation ends. Each of them may go over several lines, and a
single line end inside of it counts as a space, unless a block scalar keeps its lines.

Every reader takes the cursor behind the sign that announced the scalar and returns the cursor
behind the scalar. The bound on the number of rounds is the number of characters that are left.
-/

import ScenarioTree.Yaml.Cursor
import ScenarioTree.Yaml.Fault

namespace ScenarioTree.Yaml

/-- What a line end followed by some empty lines stands for in a scalar that is folded. -/
def foldedBreak (first : Char) (more : List Char) : List Char :=
  if first ≠ '\n' then first :: more
  else if more.isEmpty then [' ']
  else more

/-! ### Plain scalars -/

/-- A scalar, the place behind it, and whether a line ended on the way there. -/
structure PlainScalar where
  text : List Char
  cursor : Cursor
  crossedLine : Bool

/-- Whether a colon ends a plain scalar, by what comes after it. -/
def endsKey (flow : Bool) (rest : List Char) : Bool :=
  endsWord rest || (flow && (rest.head?.any fun character => ",[]\x7b\x7d".contains character))

/-- The longest piece without blanks that may stand in a plain scalar. -/
def plainWord (flow : Bool) : List Char → List Char
  | [] => []
  | character :: rest =>
    if isBlank character || isBreak character || (character == ':' && endsKey flow rest) ||
        (flow && ",?[]\x7b\x7d".contains character) then []
    else character :: plainWord flow rest

/-- Empty lines and the indentation of the next one; nothing if a document ends there. -/
def plainBreaks : Nat → Cursor → Option (List Char) × Cursor
  | 0, cursor => (some [], cursor)
  | rounds + 1, cursor =>
    match cursor.rest with
    | [] => (some [], cursor)
    | character :: rest =>
      if character == ' ' then plainBreaks rounds cursor.next
      else if isBreak character then
        if beginsDocumentMark rest then (none, cursor.next)
        else
          let (more, cursor) := plainBreaks rounds cursor.next
          (more.map (breakText character :: ·), cursor)
      else (some [], cursor)

/-- The gap after a piece of a plain scalar: what it stands for, the place behind it, and whether
a line ended in it. -/
def plainGap (rounds : Nat) (cursor : Cursor) : List Char × Cursor × Bool :=
  let (spaces, cursor) := cursor.span (· == ' ')
  match cursor.rest with
  | [] => (spaces, cursor, false)
  | character :: rest =>
    if !isBreak character then (spaces, cursor, false)
    else if beginsDocumentMark rest then ([], cursor.next, true)
    else
      match plainBreaks rounds cursor.next with
      | (none, cursor) => ([], cursor, true)
      | (some more, cursor) => (foldedBreak (breakText character) more, cursor, true)

/-- The pieces of a plain scalar, each with the gap before it. -/
def plainPieces (flow : Bool) (margin : Nat) : Nat → List Char → Cursor → Bool → PlainScalar
  | 0, _, cursor, crossed => ⟨[], cursor, crossed⟩
  | rounds + 1, gap, cursor, crossed =>
    let word := if cursor.sees '#' then [] else plainWord flow cursor.rest
    if word.isEmpty then ⟨[], cursor, crossed⟩
    else
      let (next, cursor, crossed) := plainGap rounds (cursor.skip word.length)
      let piece := gap ++ word
      if next.isEmpty || cursor.sees '#' || (!flow && cursor.column < margin) then
        ⟨piece, cursor, crossed⟩
      else
        let scalar := plainPieces flow margin rounds next cursor crossed
        { scalar with text := piece ++ scalar.text }

/-- A plain scalar. Outside of brackets its lines are indented by `margin` at least. -/
def plainScalar (flow : Bool) (margin : Nat) (cursor : Cursor) : PlainScalar :=
  plainPieces flow margin cursor.rest.length [] cursor false

/-! ### Quoted scalars -/

/-- What an escaped character stands for. -/
def escaped? (character : Char) : Option Char :=
  [('0', '\x00'), ('a', '\x07'), ('b', '\x08'), ('t', '\t'), ('\t', '\t'), ('n', '\n'),
    ('v', '\x0B'), ('f', '\x0C'), ('r', '\r'), ('e', '\x1B'), (' ', ' '), ('"', '"'),
    ('\\', '\\'), ('/', '/'), ('N', '\u0085'), ('_', '\u00A0'), ('L', '\u2028'),
    ('P', '\u2029')].lookup character

/-- The number of digits of an escape by code point. -/
def escapeWidth? (character : Char) : Option Nat :=
  [('x', 2), ('u', 4), ('U', 8)].lookup character

/-- The character of an escape by code point. -/
def characterOfCode (code : Nat) : Except Fault Char :=
  if valid : code.isValidChar then .ok (Char.ofNatAux code valid)
  else if code < 0x10000 then .error .malformed
  else if code < 0x80000000 then .error .outOfRange
  else .error .tooLarge

/-- The empty lines inside quotes, and the indentation of the next line. -/
def quotedBreaks : Nat → Cursor → Except Fault (List Char × Cursor)
  | 0, cursor => .ok ([], cursor)
  | rounds + 1, cursor =>
    if beginsDocumentMark cursor.rest then .error .malformed
    else
      let cursor := cursor.skipWhile isBlank
      match cursor.rest with
      | [] => .ok ([], cursor)
      | character :: _ =>
        if isBreak character then do
          let (more, cursor) ← quotedBreaks rounds cursor.next
          return (breakText character :: more, cursor)
        else return ([], cursor)

/-- One escape: the characters it stands for, and the place behind it. -/
def escape (rounds : Nat) (cursor : Cursor) : Except Fault (List Char × Cursor) :=
  match cursor.rest with
  | [] => .error .malformed
  | character :: rest =>
    if isBreak character then quotedBreaks rounds cursor.next
    else
      match escaped? character, escapeWidth? character with
      | some meant, _ => .ok ([meant], cursor.next)
      | none, some width =>
        if rest.length < width then .error .malformed
        else
          match hexNumber? (rest.take width) with
          | none => .error .malformed
          | some code => do
            return ([← characterOfCode code], cursor.skip (width + 1))
      | none, none => .error .malformed

/-- The characters up to the quote, and the place behind it. In double quotes a backslash begins
an escape; in single quotes a quote is written twice. -/
def quotedFrom (double : Bool) : Nat → Cursor → Except Fault (List Char × Cursor)
  | 0, _ => .error .malformed
  | rounds + 1, cursor =>
    match cursor.rest with
    | [] => .error .malformed
    | character :: rest =>
      if double && character == '"' then .ok ([], cursor.next)
      else if !double && character == '\'' then
        if rest.head? == some '\'' then do
          let (more, cursor) ← quotedFrom double rounds (cursor.skip 2)
          return ('\'' :: more, cursor)
        else .ok ([], cursor.next)
      else if double && character == '\\' then do
        let (meant, cursor) ← escape rounds cursor.next
        let (more, cursor) ← quotedFrom double rounds cursor
        return (meant ++ more, cursor)
      else if isBlank character || isBreak character then do
        let (blanks, cursor) := cursor.span isBlank
        match cursor.rest with
        | [] => .error .malformed
        | first :: _ =>
          if isBreak first then
            let (breaks, cursor) ← quotedBreaks rounds cursor.next
            let (more, cursor) ← quotedFrom double rounds cursor
            return (foldedBreak (breakText first) breaks ++ more, cursor)
          else
            let (more, cursor) ← quotedFrom double rounds cursor
            return (blanks ++ more, cursor)
      else do
        let (more, cursor) ← quotedFrom double rounds cursor.next
        return (character :: more, cursor)

/-- A quoted scalar. -/
def quotedScalar (double : Bool) (cursor : Cursor) : Except Fault (List Char × Cursor) :=
  quotedFrom double (cursor.rest.length + 1) cursor

/-! ### Block scalars -/

/-- What becomes of the line ends at the end of a block scalar. -/
inductive Chomping where
  | clip
  | strip
  | keep
  deriving DecidableEq

/-- The header of a block scalar: the fate of its last line ends, and its indentation if that is
given. -/
structure BlockHeader where
  chomping : Chomping
  indentation : Option Nat

/-- A sign of chomping. -/
def chomping? (character : Char) : Option Chomping :=
  if character == '+' then some .keep else if character == '-' then some .strip else none

/-- A digit of indentation; zero is none. -/
def indentationDigit? (character : Char) : Option Nat :=
  if '0' ≤ character && character ≤ '9' then some (character.toNat - 48) else none

/-- The header of a block scalar, its parts in either order, and the place behind it. -/
def blockHeader (cursor : Cursor) : Except Fault (BlockHeader × Cursor) := do
  let sign (cursor : Cursor) := cursor.rest.head?.bind chomping?
  let digit (cursor : Cursor) := cursor.rest.head?.bind indentationDigit?
  let (header, cursor) :=
    match sign cursor, digit cursor with
    | some chomping, _ =>
      match digit cursor.next with
      | some width => (BlockHeader.mk chomping (some width), cursor.skip 2)
      | none => (⟨chomping, none⟩, cursor.next)
    | none, some width =>
      match sign cursor.next with
      | some chomping => (⟨chomping, some width⟩, cursor.skip 2)
      | none => (⟨.clip, some width⟩, cursor.next)
    | none, none => (⟨.clip, none⟩, cursor)
  if header.indentation = some 0 || !endsPart cursor.rest then .error .malformed
  else return (header, cursor)

/-- The lines before the first one with content: their ends, the largest column that spaces reach,
and the place behind them. -/
def leadingBreaks : Nat → Cursor → Nat → List Char × Nat × Cursor
  | 0, cursor, widest => ([], widest, cursor)
  | rounds + 1, cursor, widest =>
    match cursor.rest with
    | [] => ([], widest, cursor)
    | character :: _ =>
      if character == ' ' then
        leadingBreaks rounds cursor.next (max widest cursor.next.column)
      else if isBreak character then
        let (more, widest, cursor) := leadingBreaks rounds cursor.next widest
        (breakText character :: more, widest, cursor)
      else ([], widest, cursor)

/-- The empty lines of a block scalar, and the indentation of the next line. -/
def blockBreaks (column : Nat) : Nat → Cursor → List Char × Cursor
  | 0, cursor => ([], cursor)
  | rounds + 1, cursor =>
    let cursor := cursor.indentTo column
    match cursor.rest with
    | [] => ([], cursor)
    | character :: _ =>
      if isBreak character then
        let (more, cursor) := blockBreaks column rounds cursor.next
        (breakText character :: more, cursor)
      else ([], cursor)

/-- What stands between two lines of a block scalar: the line end and the empty lines after it.
Folding leaves lines alone that begin with a blank. -/
def betweenLines (folded : Bool) (lineEnd breaks line next : List Char) : List Char :=
  let plain (characters : List Char) := !(characters.head?.any isBlank)
  if folded && lineEnd == ['\n'] && plain line && plain next then
    (if breaks.isEmpty then [' '] else breaks)
  else lineEnd ++ breaks

/-- The lines of a block scalar. -/
def blockLines (folded : Bool) (chomping : Chomping) (column : Nat) :
    Nat → Cursor → List Char × Cursor
  | 0, cursor => ([], cursor)
  | rounds + 1, cursor =>
    let (line, behind) := cursor.span (!isBreak ·)
    let lineEnd := (behind.rest.head?.map breakText).toList
    let (breaks, after) := blockBreaks column rounds behind.next
    if after.column == column && !after.rest.isEmpty then
      let (more, last) := blockLines folded chomping column rounds after
      (line ++ betweenLines folded lineEnd breaks line after.rest ++ more, last)
    else
      match chomping with
      | .clip => (line ++ lineEnd, after)
      | .strip => (line, after)
      | .keep => (line ++ lineEnd ++ breaks, after)

/-- A block scalar inside a collection that is indented by `margin`. -/
def blockScalar (folded : Bool) (margin : Nat) (cursor : Cursor) :
    Except Fault (List Char × Cursor) := do
  let (header, cursor) ← blockHeader cursor
  match cursor.restOfLine? with
  | none => .error .malformed
  | some cursor =>
    let least := max margin 1
    let rounds := cursor.rest.length + 1
    let (breaks, column, cursor) :=
      match header.indentation with
      | none =>
        let (breaks, widest, cursor) := leadingBreaks rounds cursor 0
        (breaks, max least widest, cursor)
      | some width =>
        let column := least + width - 1
        let (breaks, cursor) := blockBreaks column rounds cursor
        (breaks, column, cursor)
    if cursor.column == column && !cursor.rest.isEmpty then
      let (lines, cursor) := blockLines folded header.chomping column rounds cursor
      return (breaks ++ lines, cursor)
    else
      return (if header.chomping = .keep then breaks else [], cursor)

end ScenarioTree.Yaml
