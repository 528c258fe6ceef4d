/-
This file says in which order marks may come before the root element, and what the declarations of
the document type declare. A document begins with an optional declaration, then remarks and at most
one document type, whose internal part declares entities, attributes, elements and data formats.

What an element may contain and which data formats there are changes nothing in the tree; these
declarations are only checked for their order of marks.
-/

import ScenarioTree.Xml.Declaration
import ScenarioTree.Xml.Declared
import ScenarioTree.Xml.Doctype.Mark

namespace ScenarioTree.Xml.Doctype

/-! ### Positions in the grammar -/

/-- What an external identifier belongs to. -/
inductive Owner where
  | document
  | entity (name : String)
  | parameterEntity
  | dataFormat
  deriving DecidableEq

/-- What holds the items of a group together. -/
inductive Connector where
  | undecided
  | sequence
  | choice
  deriving DecidableEq

/-- An attribute that is being declared. -/
structure AttributeSubject where
  element : String
  name : String
  deriving DecidableEq

/-- What is expected next. -/
inductive Expectation where
  | prolog (first : Bool)
  | root
  | doctypeName
  | afterDoctypeName
  | publicLiteral (owner : Owner)
  | systemLiteral (owner : Owner)
  | afterPublic
  | afterSystem (owner : Owner)
  | afterSubset
  | subset
  | closing
  | entityName
  | parameterName
  | entityValue (owner : Owner)
  | unparsedName (entity : String)
  | dataFormatName
  | dataFormatKind
  | attributeElement
  | attributeName (element : String)
  | attributeType (subject : AttributeSubject)
  | formatList (subject : AttributeSubject)
  | choiceItem (subject : AttributeSubject) (formats : Bool)
  | choiceNext (subject : AttributeSubject) (formats : Bool)
  | attributeDefault (subject : AttributeSubject) (tokenized identifier : Bool)
  | fixedDefault (subject : AttributeSubject) (tokenized : Bool)
  | elementName
  | elementContent
  | groupItem (first : Bool) (levels : List Connector)
  | groupNext (levels : List Connector)
  | mixedNext
  | mixedName
  | mixedRest
  deriving DecidableEq

/-! ### Literals -/

/-- The place of the first character of a literal that may not stand in a public identifier. -/
def publicFault? (here : Position) : List Char → Option Position
  | [] => none
  | character :: rest =>
    if isAsciiLetter character || isAsciiDigit character ||
        " \n\r-'()+,./:=?;!*#@$_%".toList.contains character then
      publicFault? (here.after character) rest
    else some here

/-- The text of an entity that is being read: the place of the next character, the reference in
hand with its place and its characters, and the characters so far, the newest first. -/
structure PendingText where
  here : Position
  reference : Option (Position × Reference.Pending × List Char)
  percent : Option (Position × Bool)
  read : List Char

/-- One more character of the text of an entity. References to characters are replaced here and
those to entities kept; references to parameters may not occur. -/
def PendingText.step (pending : PendingText) (character : Char) : Except Fault PendingText :=
  let next := pending.here.after character
  match pending.reference, pending.percent with
  | some (start, reference, seen), _ =>
    match reference.step character with
    | .invalid => .error ⟨.invalidToken, pending.here⟩
    | .more reference =>
      .ok { pending with here := next, reference := some (start, reference, character :: seen) }
    | .done (.named _) => .ok ⟨next, none, none, character :: seen ++ pending.read⟩
    | .done (.numbered number) =>
      match Reference.characterOf? number with
      | some replaced => .ok ⟨next, none, none, replaced :: pending.read⟩
      | none => .error ⟨.invalidNumber, start⟩
  | none, some (start, named) =>
    if named && character == ';' then .error ⟨.parameterReference, start⟩
    else if (named && isNamePart character) || isNameStart character then
      .ok { pending with here := next, percent := some (start, true) }
    else .error ⟨.invalidToken, pending.here⟩
  | none, none =>
    if character == '&' then
      .ok { pending with here := next, reference := some (pending.here, .opened, [character]) }
    else if character == '%' then
      .ok { pending with here := next, percent := some (pending.here, false) }
    else .ok { pending with here := next, read := character :: pending.read }

/-- The text of an entity, from the characters of its literal, which begin at `start`. -/
def entityText (start : Position) (text : String) : Except Fault String := do
  let pending ← text.toList.foldlM PendingText.step ⟨start, none, none, []⟩
  match pending.reference, pending.percent with
  | some (place, _), _ => .error ⟨.invalidToken, place⟩
  | none, some (place, _) => .error ⟨.invalidToken, place⟩
  | none, none => return String.ofList pending.read.reverse

/-! ### The grammar -/

/-- What has been declared and what is expected next. -/
structure State where
  declared : Declared
  expected : Expectation
  deriving DecidableEq

namespace State

/-- Nothing has been read. -/
def start : State := ⟨.nothing, .prolog true⟩

/-- Whether the root element may begin. -/
def admitsRoot (state : State) : Bool :=
  match state.expected with
  | .prolog _ | .root => true
  | _ => false

/-- The state with something else expected. -/
def expect (state : State) (expected : Expectation) : State :=
  { state with expected }

/-- The fault of a mark that is not expected. -/
def unexpected (start : Position) : Mark → Fault
  | .parameter => ⟨.parameterReference, start⟩
  | .remark remark =>
    ⟨if remark.isDeclaration then .misplacedDeclaration else .malformedSyntax, start⟩
  | _ => ⟨.malformedSyntax, start⟩

/-- The state after the declaration of the document, whose text begins five columns on. -/
def declare (state : State) (start : Position) (text : String) : Except Fault State :=
  match Declaration.read text.toList with
  | .ok standalone => .ok ⟨{ state.declared with standalone }, .prolog false⟩
  | .error rest =>
    let good := text.toList.take (text.toList.length - rest.length)
    .error ⟨.malformedDeclaration, good.foldl Position.after ⟨start.line, start.column + 5⟩⟩

/-- The state after a literal that identifies something outside of the document. -/
def external (state : State) (owner : Owner) (expected : Expectation) : State :=
  match owner with
  | .document => ⟨{ state.declared with referenced := true }, expected⟩
  | _ => state.expect expected

/-- The state after a public identifier, which begins after the quote at `start`. -/
def publicIdentifier (state : State) (start : Position) (owner : Owner) (text : String) :
    Except Fault State :=
  match publicFault? (start.after '"') text.toList with
  | some place => .error ⟨.publicIdentifier, place⟩
  | none =>
    .ok (state.external owner (if owner = .dataFormat then .afterPublic else .systemLiteral owner))

/-- The state after the text of an entity, which begins after the quote at `start`. -/
def entityValue (state : State) (start : Position) (owner : Owner) (text : String) :
    Except Fault State :=
  if !state.declared.heeded then .ok (state.expect .closing)
  else do
    let text ← entityText (start.after '"') text
    match owner with
    | .entity name => return ⟨state.declared.addEntity name (.internal text), .closing⟩
    | _ => return state.expect .closing

/-- The state after the declaration of an attribute. -/
def addAttribute (state : State) (subject : AttributeSubject) (tokenized identifier : Bool)
    (value : Option String) : State :=
  ⟨state.declared.addAttribute subject.element ⟨subject.name, tokenized, value⟩ identifier,
    .attributeName subject.element⟩

/-- The state after the default of an attribute, which begins after the quote at `start`. -/
def defaultValue (state : State) (start : Position) (subject : AttributeSubject)
    (tokenized identifier : Bool) (text : String) : Except Fault State :=
  if !state.declared.heeded then .ok (state.expect (.attributeName subject.element))
  else do
    let value ← state.declared.resolve tokenized [] start (start.after '"') text
    return state.addAttribute subject tokenized identifier (some value)

/-- What is expected after the type of an attribute. -/
def afterType (subject : AttributeSubject) (type : String) : Option Expectation :=
  if type == "CDATA" then some (.attributeDefault subject false false)
  else if type == "ID" then some (.attributeDefault subject true true)
  else if ["IDREF", "IDREFS", "ENTITY", "ENTITIES", "NMTOKEN", "NMTOKENS"].contains type then
    some (.attributeDefault subject true false)
  else if type == "NOTATION" then some (.formatList subject)
  else none

/-- What is expected after the keyword of a declaration in the internal part. -/
def afterKeyword (keyword : String) : Option Expectation :=
  if keyword == "ENTITY" then some .entityName
  else if keyword == "ATTLIST" then some .attributeElement
  else if keyword == "ELEMENT" then some .elementName
  else if keyword == "NOTATION" then some .dataFormatName
  else none

/-- What is expected after an item of a group and the sign that follows it. One group does not mix
the two signs. -/
def afterConnector (used : Connector) : List Connector → Option Expectation
  | .undecided :: outer => some (.groupItem false (used :: outer))
  | known :: outer => if known = used then some (.groupItem false (known :: outer)) else none
  | [] => none

/-- What is expected after the end of a group. -/
def afterGroup : List Connector → Expectation
  | [] | [_] => .closing
  | _ :: outer => .groupNext outer

/-- The expectations that a mark satisfies without declaring anything. -/
def route : Expectation → Mark → Option Expectation
  | .prolog _, .blank => some (.prolog false)
  | .prolog _, .declaration keyword => if keyword == "DOCTYPE" then some .doctypeName else none
  | expected, .blank => some expected
  | .prolog _, .remark remark => if remark.isDeclaration then none else some (.prolog false)
  | .root, .remark remark => if remark.isDeclaration then none else some .root
  | .subset, .remark remark => if remark.isDeclaration then none else some .subset
  | .doctypeName, .word .name _ => some .afterDoctypeName
  | .doctypeName, .word .qualified _ => some .afterDoctypeName
  | .afterDoctypeName, .bracketOpen => some .subset
  | .afterDoctypeName, .close => some .root
  | .afterDoctypeName, .word .name word =>
    if word == "SYSTEM" then some (.systemLiteral .document)
    else if word == "PUBLIC" then some (.publicLiteral .document)
    else none
  | .afterSystem .document, .bracketOpen => some .subset
  | .afterSystem .document, .close => some .root
  | .afterSubset, .close => some .root
  | .subset, .bracketClose => some .afterSubset
  | .subset, .declaration keyword => afterKeyword keyword
  | .closing, .close => some .subset
  | .entityName, .percent => some .parameterName
  | .entityName, .word .name name => some (.entityValue (.entity name))
  | .parameterName, .word .name _ => some (.entityValue .parameterEntity)
  | .entityValue owner, .word .name word =>
    if word == "SYSTEM" then some (.systemLiteral owner)
    else if word == "PUBLIC" then some (.publicLiteral owner)
    else none
  | .afterSystem (.entity name), .word .name word =>
    if word == "NDATA" then some (.unparsedName name) else none
  | .afterSystem .parameterEntity, .close => some .subset
  | .afterSystem .dataFormat, .close => some .subset
  | .dataFormatName, .word .name _ => some .dataFormatKind
  | .dataFormatKind, .word .name word =>
    if word == "SYSTEM" then some (.systemLiteral .dataFormat)
    else if word == "PUBLIC" then some (.publicLiteral .dataFormat)
    else none
  | .afterPublic, .literal _ => some .closing
  | .afterPublic, .close => some .subset
  | .attributeElement, .word .name name => some (.attributeName name)
  | .attributeElement, .word .qualified name => some (.attributeName name)
  | .attributeName _, .close => some .subset
  | .attributeName element, .word .name name => some (.attributeType ⟨element, name⟩)
  | .attributeName element, .word .qualified name => some (.attributeType ⟨element, name⟩)
  | .attributeType subject, .word .name type => afterType subject type
  | .attributeType subject, .groupOpen => some (.choiceItem subject false)
  | .formatList subject, .groupOpen => some (.choiceItem subject true)
  | .choiceItem subject false, .word _ _ => some (.choiceNext subject false)
  | .choiceItem subject true, .word .name _ => some (.choiceNext subject true)
  | .choiceNext subject formats, .bar => some (.choiceItem subject formats)
  | .choiceNext subject _, .groupClose none => some (.attributeDefault subject true false)
  | .attributeDefault subject tokenized _, .hash word =>
    if word == "FIXED" then some (.fixedDefault subject tokenized) else none
  | .elementName, .word .name _ => some .elementContent
  | .elementName, .word .qualified _ => some .elementContent
  | .elementContent, .word .name word =>
    if word == "EMPTY" || word == "ANY" then some .closing else none
  | .elementContent, .groupOpen => some (.groupItem true [.undecided])
  | .groupItem true _, .hash word => if word == "PCDATA" then some .mixedNext else none
  | .groupItem _ levels, .groupOpen => some (.groupItem false (.undecided :: levels))
  | .groupItem _ levels, .word .name _ => some (.groupNext levels)
  | .groupItem _ levels, .word .qualified _ => some (.groupNext levels)
  | .groupItem _ levels, .repeated _ => some (.groupNext levels)
  | .groupNext levels, .comma => afterConnector .sequence levels
  | .groupNext levels, .bar => afterConnector .choice levels
  | .groupNext levels, .groupClose _ => some (afterGroup levels)
  | .mixedNext, .groupClose none => some .closing
  | .mixedNext, .groupClose (some '*') => some .closing
  | .mixedNext, .bar => some .mixedName
  | .mixedName, .word .name _ => some .mixedRest
  | .mixedName, .word .qualified _ => some .mixedRest
  | .mixedRest, .groupClose (some '*') => some .closing
  | .mixedRest, .bar => some .mixedName
  | _, _ => none

/-- One more mark, which began at `start`. -/
def step (state : State) (start : Position) (mark : Mark) : Except Fault State :=
  match state.expected, mark with
  | .prolog true, .remark (.instruction "xml" text) => state.declare start text
  | .subset, .parameter =>
    .ok ⟨{ state.declared with referenced := true, heeded := state.declared.standalone }, .subset⟩
  | .publicLiteral owner, .literal text => state.publicIdentifier start owner text
  | .systemLiteral .dataFormat, .literal _ => .ok (state.expect .closing)
  | .systemLiteral owner, .literal _ => .ok (state.external owner (.afterSystem owner))
  | .entityValue owner, .literal text => state.entityValue start owner text
  | .afterSystem (.entity name), .close =>
    .ok ⟨state.declared.addEntity name .external, .subset⟩
  | .unparsedName name, .word .name _ =>
    .ok ⟨state.declared.addEntity name .binary, .closing⟩
  | .attributeDefault subject tokenized identifier, .hash word =>
    if word == "IMPLIED" || word == "REQUIRED" then
      .ok (state.addAttribute subject tokenized identifier none)
    else match route state.expected mark with
      | some expected => .ok (state.expect expected)
      | none => .error (unexpected start mark)
  | .attributeDefault subject tokenized identifier, .literal text =>
    state.defaultValue start subject tokenized identifier text
  | .fixedDefault subject tokenized, .literal text =>
    state.defaultValue start subject tokenized false text
  | expected, mark =>
    match route expected mark with
    | some expected => .ok (state.expect expected)
    | none => .error (unexpected start mark)

end State

end ScenarioTree.Xml.Doctype
