/-
This file reads documents. A source is read one character at a time; the state says which of the
three stages the reader is in and what it knows there. Before the root element that is the grammar
of the document type, inside of it the tree so far, and after it the finished root.

A source is first brought to one spelling of line ends. A carriage return at its very end stays,
since there the reader would still wait for a line feed. Because the state after a source is the
state after its beginning, fed with the rest, a document can only be accepted once its root is
closed.

There is no limit to what the entities of a document may come to, and every source is read as the
text that it is. A source that would be taken for wide characters is told apart by `Wide`.
-/

import ScenarioTree.Text.Newline
import ScenarioTree.Xml.Content
import ScenarioTree.Xml.Doctype.Grammar

namespace ScenarioTree.Xml

/-- What the reader is at: the prolog, the root element under what was declared, or the end. -/
inductive Stage where
  | prolog (pending : Doctype.Pending) (state : Doctype.State)
  | content (declared : Declared) (scan : Scan)
  | epilog (pending : Doctype.Pending) (root : Element)

/-- A source that is being read: the place where the token in hand began and that of the next
character. -/
structure Reader where
  stage : Stage
  start : Position
  here : Position

namespace Reader

/-! ### Outside of the root element -/

/-- The most marks that one character can end. -/
def markLimit : Nat := 3

/-- One more character before the root element. -/
def stepProlog (keep : Bool) (here : Position) (character : Char) :
    Nat → Doctype.Pending → Doctype.State → Position → Except Fault Reader
  | 0, _, _, _ => .error ⟨.invalidToken, here⟩
  | limit + 1, pending, state, start =>
    let start := if pending = .idle then here else start
    let next := here.after character
    match pending.step here character with
    | .more pending => .ok ⟨.prolog pending state, start, next⟩
    | .invalid place => .error ⟨.invalidToken, place⟩
    | .done .rootTag =>
      if state.admitsRoot then do
        let scan ←
          Scan.advance ⟨state.declared, keep⟩ ⟨.angle, start, here, .start⟩ character
        return ⟨.content state.declared scan, start, next⟩
      else .error (Doctype.State.unexpected start .rootTag)
    | .done mark => do
      let state ← state.step start mark
      return ⟨.prolog .idle state, start, next⟩
    | .before mark pending position => do
      let state ← state.step start mark
      stepProlog keep here character limit pending state position

/-- Whether a mark may stand after the root element. -/
def admittedAfterRoot : Doctype.Mark → Bool
  | .blank => true
  | .remark remark => !remark.isDeclaration
  | _ => false

/-- One more character after the root element. -/
def stepEpilog (here : Position) (character : Char) (pending : Doctype.Pending) (root : Element)
    (start : Position) : Except Fault Reader :=
  let start := if pending = .idle then here else start
  match pending.step here character with
  | .more pending => .ok ⟨.epilog pending root, start, here.after character⟩
  | .invalid place => .error ⟨.invalidToken, place⟩
  | .done mark =>
    if admittedAfterRoot mark then .ok ⟨.epilog .idle root, start, here.after character⟩
    else .error ⟨.junkAfterRoot, start⟩
  | .before _ _ _ => .error ⟨.junkAfterRoot, start⟩

/-! ### Sources -/

/-- One more character of a source. -/
def step (keep : Bool) (reader : Reader) (character : Char) : Except Fault Reader :=
  match reader.stage with
  | .prolog pending state =>
    stepProlog keep reader.here character markLimit pending state reader.start
  | .content declared scan => do
    let scan ← scan.advance ⟨declared, keep⟩ character
    match scan.content.root with
    | some root => return ⟨.epilog .idle root, scan.start, scan.here⟩
    | none => return ⟨.content declared scan, scan.start, scan.here⟩
  | .epilog pending root => stepEpilog reader.here character pending root reader.start

/-- The root of a source that ends here, which is given as it was written. -/
def finish (source : List Char) (reader : Reader) : Except Fault Element :=
  match reader.stage with
  | .prolog pending state =>
    match pending.finish with
    | .more _ => .error ⟨.noElement, reader.here⟩
    | .invalid => .error ⟨.unclosedToken, reader.start⟩
    | .done mark => do
      let _ ← state.step reader.start mark
      .error ⟨.noElement, reader.here⟩
  | .content _ scan => .error (scan.lastFault source)
  | .epilog pending root =>
    match pending.finish with
    | .more _ => .ok root
    | .invalid => .error ⟨.unclosedToken, reader.start⟩
    | .done _ => .error ⟨.junkAfterRoot, reader.start⟩

/-- Nothing has been read. A byte order mark before the document is no part of it, but takes up a
column. -/
def initial (here : Position) : Reader :=
  ⟨.prolog .idle .start, here, here⟩

/-- The characters of a document, read to the end of its source. -/
def run (keep : Bool) (here : Position) (source characters : List Char) : Except Fault Element := do
  (← characters.foldlM (step keep) (initial here)).finish source

end Reader

/-- Whether a source would be taken for characters of two bytes each, one of which is zero in what
markup is made of: one of its first two characters is a NUL. -/
def Wide (source : String) : Prop :=
  '\x00' ∈ source.toList.take 2

instance : DecidablePred Wide := fun source =>
  inferInstanceAs (Decidable ('\x00' ∈ source.toList.take 2))

/-- The root element of a document. With `keep`, comments and processing instructions are kept. -/
def read (keep : Bool) (source : String) : Except Fault Element :=
  match Text.unifyInner source.toList with
  | '\uFEFF' :: characters => Reader.run keep ⟨1, 1⟩ source.toList characters
  | characters => Reader.run keep ⟨1, 0⟩ source.toList characters

end ScenarioTree.Xml
