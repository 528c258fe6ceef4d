/-
This file checks the declaration that may begin a document. It has a version, then perhaps an
encoding, then perhaps the word on whether the document stands alone, each written like an attribute
and in this order. A source that gets this far is read as the text that it is, whatever encoding it
names; a source with a null character among its first two does not, since that is taken for a sign
of wide characters before anything is read.

A malformed declaration is reported with the rest of its text from the place where it went wrong.
-/

import ScenarioTree.Xml.Character

namespace ScenarioTree.Xml.Declaration

/-- An item of a declaration, with the texts that begin at its name, at its value and after it. -/
structure Item where
  nameOnward : List Char
  name : List Char
  valueOnward : List Char
  value : List Char
  rest : List Char

/-- The characters of an item's name. -/
def isItemName (character : Char) : Bool :=
  character != '=' && !isSpace character && character.toNat < 0x80

/-- The characters of an item's value. -/
def isItemValue (character : Char) : Bool :=
  isAsciiLetter character || isAsciiDigit character || character == '.' || character == '-' ||
    character == '_'

/-- The next item of a declaration, which blanks part from what was before it, or nothing if there
are only blanks left. -/
def item? (text : List Char) : Except (List Char) (Option Item) :=
  let nameOnward := text.dropWhile isSpace
  if text.isEmpty then .ok none
  else if nameOnward.length = text.length then .error text
  else if nameOnward.isEmpty then .ok none
  else
    let name := nameOnward.takeWhile isItemName
    let afterName := nameOnward.dropWhile isItemName
    if name.isEmpty then .error nameOnward
    else match afterName.dropWhile isSpace with
      | '=' :: afterEquals =>
        match afterEquals.dropWhile isSpace with
        | [] => .error []
        | quote :: valueOnward =>
          if quote != '"' && quote != '\'' then .error (quote :: valueOnward)
          else
            let value := valueOnward.takeWhile isItemValue
            match valueOnward.dropWhile isItemValue with
            | [] => .error []
            | ending :: rest =>
              if ending == quote then .ok (some ⟨nameOnward, name, valueOnward, value, rest⟩)
              else .error (ending :: rest)
      | other => .error other

/-- Whether the document stands alone, read from the item that says so. -/
def standalone (item : Item) : Except (List Char) Bool :=
  if item.name != "standalone".toList then .error item.nameOnward
  else if item.value != "yes".toList && item.value != "no".toList then .error item.valueOnward
  else
    let rest := item.rest.dropWhile isSpace
    if rest.isEmpty then .ok (item.value == "yes".toList) else .error rest

/-- What may follow the version. -/
def afterVersion (item : Item) : Except (List Char) Bool :=
  if item.name != "encoding".toList then standalone item
  else if !item.value.head?.any isAsciiLetter then .error item.valueOnward
  else do
    match ← item? item.rest with
    | some next => standalone next
    | none => return false

/-- Whether the document stands alone, read from the text between `<?xml` and `?>`. -/
def read (text : List Char) : Except (List Char) Bool := do
  match ← item? text with
  | none => .error text
  | some version =>
    if version.name != "version".toList then .error version.nameOnward
    else match ← item? version.rest with
      | some next => afterVersion next
      | none => return false

end ScenarioTree.Xml.Declaration
