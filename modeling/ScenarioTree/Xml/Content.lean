/-
This file builds the tree from the content of the root element. The elements that are open lie on a
stack, the innermost on top, and characters gather in a buffer until a tag or a remark cuts the run
that they belong to.

The text of an entity is read like content of its own that begins and ends between the same tags:
it may not close an element that was open before it, nor leave one open. An entity may not occur in
its own text, so replacement never goes deeper than there are entities, and that number is the fuel
of `replaceEntity`.
-/

import ScenarioTree.Text.Newline
import ScenarioTree.Xml.Declared
import ScenarioTree.Xml.Lexeme
import ScenarioTree.Xml.Namespace

namespace ScenarioTree.Xml

/-! ### Open elements -/

/-- An element whose end tag has not come yet, its children with the newest first. -/
structure Frame where
  written : String
  name : Name
  attributes : List Attribute
  scope : Scope
  text : Run
  children : List Element

namespace Frame

/-- The frame with its last run changed: the tail of the newest child, or else the text before the
first one. -/
def mapRun (change : Run → Run) (frame : Frame) : Frame :=
  match frame.children with
  | [] => { frame with text := change frame.text }
  | newest :: older =>
    { frame with children := { newest with tail := change newest.tail } :: older }

/-- The finished element. -/
def close (frame : Frame) : Element :=
  ⟨frame.name, frame.attributes, frame.text, frame.children.reverse, .empty⟩

end Frame

/-- The tree so far: the characters that wait for the end of their run, the newest first, the open
elements, the innermost first, and the root once it is closed. -/
structure Content where
  buffer : List Char
  frames : List Frame
  root : Option Element

namespace Content

/-- Nothing has been read. -/
def start : Content := ⟨[], [], none⟩

/-- The namespaces in force. -/
def scope (content : Content) : Scope :=
  match content.frames with
  | [] => .initial
  | frame :: _ => frame.scope

/-- The innermost open element changed. -/
def mapFrame (change : Frame → Frame) (content : Content) : Content :=
  match content.frames with
  | [] => content
  | frame :: outer => { content with frames := change frame :: outer }

/-- The waiting characters put into their run. -/
def flush (content : Content) : Content :=
  if content.buffer.isEmpty then content
  else
    let added := String.ofList content.buffer.reverse
    { content.mapFrame (·.mapRun (·.append added)) with buffer := [] }

/-- One more character of text. -/
def push (content : Content) (character : Char) : Content :=
  { content with buffer := character :: content.buffer }

/-- A note put into the current run. Line ends in it are unified, however they were written. -/
def addNote (content : Content) (kind : NoteKind) (body : String) : Content :=
  let unified := String.ofList (Text.unifyNewlines body.toList)
  content.flush.mapFrame (·.mapRun (·.addNote kind unified))

/-- A remark put into the current run. The target of an instruction and the rest are parted by one
blank. -/
def addRemark (content : Content) : Remark → Content
  | .comment body => content.addNote .comment body
  | .instruction target rest =>
    match rest.toList.dropWhile isSpace with
    | [] => content.addNote .instruction target
    | detail => content.addNote .instruction (target ++ " " ++ String.ofList detail)

/-- The innermost open element closed. -/
def closeFrame (content : Content) : Content :=
  match content.flush.frames with
  | [] => content
  | [frame] => ⟨[], [], some frame.close⟩
  | frame :: outer :: rest =>
    ⟨[], { outer with children := frame.close :: outer.children } :: rest, content.root⟩

end Content

/-! ### Tags -/

/-- The attributes of a tag while they are read: the names that were written, the scope with the
namespaces declared so far, and the other attributes. -/
structure PendingAttributes where
  names : List String
  scope : Scope
  written : List (String × String)

namespace PendingAttributes

/-- One more attribute with its value. -/
def add (pending : PendingAttributes) (name value : String) : Except Reason PendingAttributes :=
  match declaredPrefix? name with
  | some declared => do
    return ⟨name :: pending.names, ← pending.scope.declare declared value, pending.written⟩
  | none => .ok ⟨name :: pending.names, pending.scope, pending.written ++ [(name, value)]⟩

/-- One more attribute of a tag that begins at `around`, while the entities in `opened` are being
replaced. -/
def addRaw (declared : Declared) (opened : List String) (around : Position) (element : String)
    (pending : PendingAttributes) (raw : RawAttribute) : Except Fault PendingAttributes :=
  if pending.names.contains raw.name then .error ⟨.duplicateAttribute, raw.position⟩
  else do
    let value ←
      declared.resolve (declared.tokenized element raw.name) opened around raw.valuePosition
        raw.value
    (pending.add raw.name value).mapError (⟨·, around⟩)

/-- A declared attribute with its default, unless the attribute was written. -/
def addDefault (pending : PendingAttributes) (declared : AttributeDefault) :
    Except Reason PendingAttributes :=
  match declared.value with
  | some value =>
    if pending.names.contains declared.name then .ok pending else pending.add declared.name value
  | none => .ok pending

end PendingAttributes

namespace Content

/-- The tree with an element opened by a tag that begins at `around`. -/
def openElement (declared : Declared) (opened : List String) (around : Position)
    (content : Content) (tag : RawTag) : Except Fault Content := do
  let written ←
    tag.attributes.foldlM (PendingAttributes.addRaw declared opened around tag.name)
      ⟨[], content.scope, []⟩
  let frame ← Except.mapError (⟨·, around⟩) do
    let pending ← (declared.attributesOf tag.name).foldlM PendingAttributes.addDefault written
    let attributes ← pending.scope.attributes pending.written
    let name ← pending.scope.elementName tag.name
    return Frame.mk tag.name name attributes pending.scope .empty []
  let flushed := content.flush
  return { flushed with frames := frame :: flushed.frames }

/-- The tree with its innermost element closed by an end tag; `floor` elements must stay open. -/
def closeElement (start : Position) (floor : Nat) (content : Content) (name : String)
    (position : Position) : Except Fault Content :=
  match content.frames with
  | [] => .error ⟨.asynchronousEntity, start⟩
  | frame :: outer =>
    if outer.length < floor then .error ⟨.asynchronousEntity, start⟩
    else if frame.written == name then .ok content.closeFrame
    else .error ⟨.mismatchedTag, position⟩

/-! ### Tokens -/

/-- How a document is read: what its type declares, and whether comments and instructions are
kept. -/
structure Setting where
  declared : Declared
  keep : Bool

/-- How the text of an entity is put into the tree. -/
abbrev Replacement := String → String → Content → Except Reason Content

/-- The tree with a reference resolved, while the entities in `opened` are being replaced. -/
def addReference (setting : Setting) (opened : List String) (replace : Replacement)
    (content : Content) : Reference → Except Reason Content
  | .numbered number =>
    match Reference.characterOf? number with
    | some character => .ok (content.push character)
    | none => .error .invalidNumber
  | .named name =>
    match Reference.predefined? name, setting.declared.entity? name with
    | some character, _ => .ok (content.push character)
    | none, none =>
      .error (if setting.declared.strict then .undefinedEntity else .skippedEntity name)
    | none, some entity =>
      if opened.contains name then .error .recursiveEntity
      else match entity with
        | .binary => .error .binaryEntity
        | .external => .error (.skippedEntity name)
        | .internal text => replace name text content

/-- The tree with one more token that began at `start`. -/
def addToken (setting : Setting) (opened : List String) (floor : Nat) (replace : Replacement)
    (start : Position) (content : Content) : Token → Except Fault Content
  | .character character => .ok (content.push character)
  | .reference reference =>
    (content.addReference setting opened replace reference).mapError (⟨·, start⟩)
  | .startTag tag => do
    let next ← content.openElement setting.declared opened start tag
    return if tag.closed then next.closeFrame else next
  | .endTag name position => content.closeElement start floor name position
  | .remark remark =>
    if remark.isDeclaration then .error ⟨.misplacedDeclaration, start⟩
    else .ok (if setting.keep then content.addRemark remark else content)

end Content

/-! ### Reading content -/

/-- Content that is being read: the token in hand with its place, the place of the next character,
and the tree. -/
structure Scan where
  lexeme : Lexeme
  start : Position
  here : Position
  content : Content

namespace Scan

open Content (Setting Replacement)

/-- How a lexeme goes on with one more character. -/
abbrev Lexical := Position → Position → Char → Lexeme → Except Position (Lexeme × List Token)

/-- One more character of content. -/
def step (lexical : Lexical) (setting : Setting) (opened : List String) (floor : Nat)
    (replace : Replacement) (scan : Scan) (character : Char) : Except Fault Scan :=
  let start := if scan.lexeme.isIdle then scan.here else scan.start
  match lexical start scan.here character scan.lexeme with
  | .error place => .error ⟨.invalidToken, place⟩
  | .ok (lexeme, tokens) => do
    let content ←
      tokens.foldlM (Content.addToken setting opened floor replace start) scan.content
    return ⟨lexeme, start, scan.here.after character, content⟩

/-- The fault of content that ends here. -/
def endFault (scan : Scan) : Fault :=
  match scan.lexeme with
  | .text _ => ⟨.noElement, scan.here⟩
  | .carriage position => ⟨.noElement, position⟩
  | .data brackets => ⟨.unclosedSection, ⟨scan.here.line, scan.here.column - brackets⟩⟩
  | .dataCarriage position => ⟨.unclosedSection, position⟩
  | _ => ⟨.unclosedToken, scan.start⟩

/-- The fault of a source that ends here, which is given as it was written. -/
def lastFault (source : List Char) (scan : Scan) : Fault :=
  match scan.lexeme with
  | .sectionName seen =>
    match Lexeme.cutSectionName? scan.start seen
      (Text.joinedReturns seen.length source.reverse) with
    | some place => ⟨.invalidToken, place⟩
    | none => scan.endFault
  | _ => scan.endFault

/-- The text of an entity put into the tree. -/
def replaceEntity (setting : Setting) : Nat → List String → Replacement
  | 0, _, _, _, _ => .error .recursiveEntity
  | fuel + 1, opened, name, text, content => do
    let floor := content.frames.length
    let scan ← Except.mapError Fault.reason <|
      text.toList.foldlM
        (step Lexeme.stepReplacement setting (name :: opened) floor
          (replaceEntity setting fuel (name :: opened)))
        ⟨.text 0, {}, {}, content⟩
    if !scan.lexeme.isIdle then .error scan.endFault.reason
    else if scan.content.frames.length = floor then return scan.content
    else .error .asynchronousEntity

/-- One more character of the content of a document. -/
def advance (setting : Setting) (scan : Scan) (character : Char) : Except Fault Scan :=
  scan.step Lexeme.step setting [] 0
    (replaceEntity setting setting.declared.entities.length []) character

end Scan

end ScenarioTree.Xml
