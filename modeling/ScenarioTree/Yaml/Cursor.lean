/-
This file holds a place in a text: what is left of it, and by line and column how far it is from the
beginning. A byte order mark takes up no column.
-/

import ScenarioTree.Yaml.Character

namespace ScenarioTree.Yaml

/-- A place in a text. -/
structure Cursor where
  rest : List Char
  index : Nat
  line : Nat
  column : Nat

namespace Cursor

/-- The beginning of a text. -/
def start (characters : List Char) : Cursor :=
  ⟨characters, 0, 0, 0⟩

/-- The place after the next character. -/
def next (cursor : Cursor) : Cursor :=
  match cursor.rest with
  | [] => cursor
  | character :: rest =>
    if isBreak character then ⟨rest, cursor.index + 1, cursor.line + 1, 0⟩
    else if character == '\uFEFF' then ⟨rest, cursor.index + 1, cursor.line, cursor.column⟩
    else ⟨rest, cursor.index + 1, cursor.line, cursor.column + 1⟩

/-- The place after some characters. -/
def skip : Nat → Cursor → Cursor
  | 0, cursor => cursor
  | count + 1, cursor => skip count cursor.next

/-- The next characters as long as they are of a class, and the place after them. -/
def span (cursor : Cursor) (belongs : Char → Bool) : List Char × Cursor :=
  let taken := cursor.rest.takeWhile belongs
  (taken, cursor.skip taken.length)

/-- The place after the next characters of a class. -/
def skipWhile (cursor : Cursor) (belongs : Char → Bool) : Cursor :=
  (cursor.span belongs).2

/-- The place after the spaces that come next, but not beyond a column. -/
def indentTo (cursor : Cursor) (column : Nat) : Cursor :=
  cursor.skip ((cursor.rest.take (column - cursor.column)).takeWhile (· == ' ')).length

/-- Whether a character comes next. -/
def sees (cursor : Cursor) (character : Char) : Bool :=
  cursor.rest.head? == some character

/-- The place after the spaces and the comment that come next; the line has to end there. -/
def restOfLine? (cursor : Cursor) : Option Cursor :=
  let spaced := cursor.skipWhile (· == ' ')
  let ended := if spaced.sees '#' then spaced.skipWhile (!isBreak ·) else spaced
  if endsLine ended.rest then some ended.next else none

end Cursor

end ScenarioTree.Yaml
