/-
This file writes elements back as markup. Every namespace of the element is declared on its
outermost tag, under a prefix chosen when the namespace first occurs: tags before the names of
their attributes, elements in document order. A few namespaces have a prefix of their own; the
others are numbered by how many namespaces were declared before them.

A name is taken apart anew for this. One that begins with a brace and has no closing one is not the
name of anything; no document holds such a name, but a tree that was put together by hand may.
Neither can an element be written that has more levels than there is room for.

Text escapes the three characters that could begin or end markup. Attribute values also escape the
quote and the white space that reading would turn into blanks, so that they are read back
unchanged.
-/

import ScenarioTree.Text.Blank
import ScenarioTree.Xml.Element

namespace ScenarioTree.Xml

/-! ### Escapes -/

/-- How a character stands in text. -/
def escapedInText : Char → String
  | '&' => "&amp;"
  | '<' => "&lt;"
  | '>' => "&gt;"
  | character => character.toString

/-- How a character stands in an attribute value. -/
def escapedInValue : Char → String
  | '"' => "&quot;"
  | '\r' => "&#13;"
  | '\n' => "&#10;"
  | '\t' => "&#09;"
  | character => escapedInText character

/-- A text as markup. -/
def escapeText (text : String) : String :=
  String.join (text.toList.map escapedInText)

/-- An attribute value as markup, without its quotes. -/
def escapeValue (value : String) : String :=
  String.join (value.toList.map escapedInValue)

/-! ### Namespaces -/

/-- The namespace that the prefix of the same name always has. -/
def xmlSpace : String := "http://www.w3.org/XML/1998/namespace"

/-- The prefix of a namespace that has one of its own. -/
def wellKnownPrefix? (space : String) : Option String :=
  if space == "http://www.w3.org/1999/xhtml" then some "html"
  else if space == "http://www.w3.org/1999/02/22-rdf-syntax-ns#" then some "rdf"
  else if space == "http://schemas.xmlsoap.org/wsdl/" then some "wsdl"
  else if space == "http://www.w3.org/2001/XMLSchema" then some "xs"
  else if space == "http://www.w3.org/2001/XMLSchema-instance" then some "xsi"
  else if space == "http://purl.org/dc/elements/1.1/" then some "dc"
  else none

/-- What stands in front of the last closing brace, and what stands behind it. -/
def aroundLastBrace? : List Char → Option (List Char × List Char)
  | [] => none
  | character :: rest =>
    match aroundLastBrace? rest with
    | some (front, behind) => some (character :: front, behind)
    | none => if character = '\x7d' then some ([], rest) else none

/-- The namespace of a name and the rest of it, if it can be taken apart. A name that begins with a
brace has its namespace up to the last closing one, even an empty one. -/
def Name.parts? (name : Name) : Option (Option String × String) :=
  match name.text.toList with
  | '\x7b' :: characters =>
    (aroundLastBrace? characters).map fun (space, behind) =>
      (some (String.ofList space), String.ofList behind)
  | _ => some (none, name.text)

/-- The namespaces to declare, each with its prefix, in the order in which they first occurred. -/
abbrev Prefixes := List (String × String)

namespace Prefixes

/-- The declarations with that of one more name. -/
def note (prefixes : Prefixes) (name : Name) : Prefixes :=
  match name.parts? with
  | some (some space, _) =>
    if space == xmlSpace || (prefixes.lookup space).isSome then prefixes
    else prefixes ++ [(space, (wellKnownPrefix? space).getD ("ns" ++ toString prefixes.length))]
  | _ => prefixes

/-- A name as it is written under the declarations. -/
def write (prefixes : Prefixes) (name : Name) : String :=
  match name.parts? with
  | some (some space, behind) =>
    if space == xmlSpace then "xml:" ++ behind
    else (prefixes.lookup space).getD "" ++ ":" ++ behind
  | _ => name.text

end Prefixes

namespace Element

mutual

/-- The declarations with those of an element and everything in it. -/
def prefixesFrom (prefixes : Prefixes) : Element → Prefixes
  | ⟨name, attributes, _, children, _⟩ =>
    prefixesOfChildren
      (attributes.foldl (fun noted given => noted.note given.name) (prefixes.note name))
      children

/-- The declarations with those of several elements. -/
def prefixesOfChildren (prefixes : Prefixes) : List Element → Prefixes
  | [] => prefixes
  | child :: rest => prefixesOfChildren (child.prefixesFrom prefixes) rest

end

/-- The declarations that an element needs. -/
def prefixes (element : Element) : Prefixes :=
  element.prefixesFrom []

end Element

/-! ### Elements that cannot be written -/

/-- Why an element cannot be written: a name in it cannot be taken apart, or it has too many
levels. -/
inductive Unwritable where
  | name
  | depth
  deriving DecidableEq

namespace Element

mutual

/-- The names of an element and of everything in it, in the order in which they are written: tags
before the names of their attributes. -/
def names : Element → List Name
  | ⟨name, attributes, _, children, _⟩ =>
    name :: (attributes.map Attribute.name ++ namesOfChildren children)

/-- The names of several elements. -/
def namesOfChildren : List Element → List Name
  | [] => []
  | child :: rest => child.names ++ namesOfChildren rest

end

/-- What keeps an element from being written where there is room for so many levels. The names are
looked at first. -/
def unwritable? (room : Nat) (element : Element) : Option Unwritable :=
  if element.names.any (·.parts?.isNone) then some .name
  else if room < element.height then some .depth
  else none

end Element

/-! ### Markup -/

/-- A note as markup, with the text after it. -/
def Note.write (note : Note) : String :=
  match note.kind with
  | .comment => "<!--" ++ note.body ++ "-->" ++ escapeText note.after
  | .instruction => "<?" ++ note.body ++ "?>" ++ escapeText note.after

/-- A run as markup. -/
def Run.write (run : Run) : String :=
  escapeText run.text ++ String.join (run.notes.map Note.write)

/-- An attribute as markup, with the blank before it. -/
def Attribute.write (prefixes : Prefixes) (given : Attribute) : String :=
  " " ++ prefixes.write given.name ++ "=\"" ++ escapeValue given.value ++ "\""

/-- The declaration of a namespace, with the blank before it. -/
def writeDeclaration (declared : String × String) : String :=
  " xmlns:" ++ declared.2 ++ "=\"" ++ escapeValue declared.1 ++ "\""

namespace Element

mutual

/-- An element as markup without its tail; `declarations` stand in its tag after the name. -/
def writeWith (prefixes : Prefixes) (declarations : String) : Element → String
  | ⟨name, attributes, text, children, _⟩ =>
    let written := prefixes.write name
    let opening :=
      "<" ++ written ++ declarations ++ String.join (attributes.map (·.write prefixes))
    if text.isEmpty && children.isEmpty then opening ++ " />"
    else opening ++ ">" ++ text.write ++ writeChildren prefixes children ++ "</" ++ written ++ ">"

/-- Elements as markup, each with its tail. -/
def writeChildren (prefixes : Prefixes) : List Element → String
  | [] => ""
  | child :: rest =>
    child.writeWith prefixes "" ++ child.tail.write ++ writeChildren prefixes rest

end

/-- The declarations of an element, ordered by prefix. -/
def declarations (element : Element) : String :=
  String.join
    ((element.prefixes.mergeSort fun left right => left.2 ≤ right.2).map writeDeclaration)

/-- An element as a document of its own. -/
def write (element : Element) : String :=
  element.writeWith element.prefixes element.declarations

/-- An element as it is shown in a report: with the text up to whatever comes after it, and without
the blanks at both ends. -/
def raw (element : Element) : String :=
  Text.trimmed (element.write ++ escapeText element.tail.text)

end Element

end ScenarioTree.Xml
