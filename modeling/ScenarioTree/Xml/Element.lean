/-
This file holds the document tree. An element has a name, attributes in the order they were written,
and a content in which text and elements alternate: the text before its first child belongs to it,
and the text after a child is the tail of that child. The tail of an element is kept with it, since
a piece of a document is shown together with it.

A run is a stretch of text between two tags. When comments and processing instructions are kept they
stand inside runs as notes, so the children of an element are always elements.
-/

namespace ScenarioTree.Xml

/-! ### Names and attributes -/

/-- The name of an element or an attribute; `space` is empty when it has no namespace. -/
structure Name where
  space : String
  localPart : String
  deriving DecidableEq

/-- A name in one piece: the namespace in braces, then the local part. -/
def Name.text (name : Name) : String :=
  if name.space.isEmpty then name.localPart else "\x7b" ++ name.space ++ "\x7d" ++ name.localPart

/-- An attribute, its value with all references resolved. -/
structure Attribute where
  name : Name
  value : String
  deriving DecidableEq

/-! ### Runs -/

/-- What a note is. -/
inductive NoteKind where
  | comment
  | instruction
  deriving DecidableEq

/-- A comment or processing instruction, with the text after it. -/
structure Note where
  kind : NoteKind
  body : String
  after : String
  deriving DecidableEq

/-- Text between two tags, interrupted by notes. -/
structure Run where
  text : String
  notes : List Note
  deriving DecidableEq

namespace Run

/-- The run without text and notes. -/
def empty : Run := ⟨"", []⟩

/-- A run of text only. -/
def ofText (text : String) : Run := ⟨text, []⟩

/-- Whether there is neither text nor a note. -/
def isEmpty (run : Run) : Bool :=
  run.text.isEmpty && run.notes.isEmpty

/-- All text of a run, the bodies of its notes included. -/
def content (run : Run) : String :=
  run.text ++ String.join (run.notes.map fun note => note.body ++ note.after)

/-- Text added to the last of some notes. -/
def extendNotes (added : String) : List Note → List Note
  | [] => []
  | [last] => [{ last with after := last.after ++ added }]
  | note :: rest => note :: extendNotes added rest

/-- Text added at the end of a run. -/
def append (run : Run) (added : String) : Run :=
  if run.notes.isEmpty then ⟨run.text ++ added, []⟩
  else ⟨run.text, extendNotes added run.notes⟩

/-- A note added at the end of a run. -/
def addNote (run : Run) (kind : NoteKind) (body : String) : Run :=
  ⟨run.text, run.notes ++ [⟨kind, body, ""⟩]⟩

end Run

/-! ### Elements -/

/-- An element with its content and the run that follows it. -/
structure Element where
  name : Name
  attributes : List Attribute
  text : Run
  children : List Element
  tail : Run

namespace Element

/-- The name in one piece, by which elements are told apart. -/
def tag (element : Element) : String :=
  element.name.text

mutual

/-- The text of an element and of everything in it, without its own tail. -/
def content : Element → String
  | ⟨_, _, text, children, _⟩ => text.content ++ contentOfChildren children

/-- The text of elements and of what follows each of them. -/
def contentOfChildren : List Element → String
  | [] => ""
  | child :: rest => child.content ++ child.tail.content ++ contentOfChildren rest

end

mutual

/-- The number of levels of elements, the element itself included. -/
def height : Element → Nat
  | ⟨_, _, _, children, _⟩ => heightOfChildren children + 1

/-- The largest height among elements. -/
def heightOfChildren : List Element → Nat
  | [] => 0
  | child :: rest => max child.height (heightOfChildren rest)

end

end Element

end ScenarioTree.Xml
