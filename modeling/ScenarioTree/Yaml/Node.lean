/-
This file builds the tree of a document from its tokens. Every node gets its tag here: the one that
is written, with its handle resolved, or the one that follows from its form. An alias stands for
the node of its anchor; inside of that node itself it can only point back to it.

Some entries may be missing, and then stand for an empty plain scalar. A text holds one document at
most.
-/

import ScenarioTree.Yaml.Tag
import ScenarioTree.Yaml.Token

namespace ScenarioTree.Yaml

/-- A node of a document. -/
inductive Node where
  | scalar (tag : Tag) (text : String)
  | sequence (tag : Tag) (items : List Node)
  | mapping (tag : Tag) (entries : List (Node × Node))
  | enclosing (isMapping : Bool)

/-! ### The state -/

/-- What an anchor stands for: a node, or a collection that is still being read. -/
inductive Anchored where
  | done (node : Node)
  | reading (isMapping : Bool)

/-- The tokens that are left, the anchors so far, and the addresses of the tag handles. -/
structure Reading where
  tokens : List Token
  anchors : List (String × Anchored)
  handles : List (String × String)

/-- Reading a piece of a document. -/
abbrev Read (α : Type) := StateT Reading (Except Fault) α

namespace Read

/-- The text is malformed. -/
def malformed {α : Type} : Read α :=
  throw .malformed

/-- The next token, if there is one. -/
def peek : Read (Option Token) := do
  return (← get).tokens.head?

/-- The place after the next token. -/
def advance : Read Unit :=
  modify fun state => { state with tokens := state.tokens.tail }

/-- Whether the next token is a given one, which is then passed. -/
def accept (token : Token) : Read Bool := do
  if (← peek) = some token then
    advance
    return true
  else return false

/-- What an anchor is to stand for from now on. -/
def remember (name : Option String) (meaning : Anchored) : Read Unit :=
  match name with
  | none => pure ()
  | some name => modify fun state => { state with anchors := (name, meaning) :: state.anchors }

/-- A new anchor, which no other may have the name of. -/
def declare (name : Option String) : Read Unit := do
  if let some name := name then
    if ((← get).anchors.lookup name).isSome then malformed

end Read

open Read

/-! ### Properties -/

/-- The anchor and the tag of a node. -/
structure Properties where
  anchor : Option String
  tag : Option TagText

/-- The properties that come next, in either order. -/
def properties : Read Properties := do
  match ← peek with
  | some (.anchor name) =>
    advance
    match ← peek with
    | some (.tag tag) =>
      advance
      return ⟨some name, some tag⟩
    | _ => return ⟨some name, none⟩
  | some (.tag tag) =>
    advance
    match ← peek with
    | some (.anchor name) =>
      advance
      return ⟨some name, some tag⟩
    | _ => return ⟨none, some tag⟩
  | _ => return ⟨none, none⟩

/-- The address of a tag. -/
def addressOf (tag : TagText) : Read String := do
  match tag.handle with
  | none => return tag.address
  | some handle =>
    match (← get).handles.lookup handle with
    | none => malformed
    | some address => return address ++ tag.address

/-- The address of the tag that properties give. The lone mark gives none, but says that a scalar is
to be understood by its form even when it is quoted. -/
def givenTag (given : Properties) : Read (Option String) :=
  match given.tag with
  | none => return none
  | some tag => some <$> addressOf tag

/-- The address that stands for no tag. -/
def loneMark : String := "!"

/-- The tag of a collection. -/
def collectionTag (address : Option String) (usual : Tag) : Tag :=
  match address with
  | none => usual
  | some address => if address == loneMark then usual else .ofAddress address

/-- A scalar under a tag that may be given. -/
def scalarNode (address : Option String) (text : String) (plain : Bool) : Node :=
  match address with
  | none => .scalar (if plain then .ofPlain text else .string) text
  | some address =>
    .scalar (if address == loneMark then .ofPlain text else .ofAddress address) text

/-- An entry that is missing. -/
def emptyNode : Node :=
  scalarNode none "" true

/-! ### Nodes -/

/-- Whether a node begins here that may be missing, by the tokens that show it is. -/
def startsNode (absent : List Token) : Read Bool := do
  match ← peek with
  | none => return true
  | some token => return !absent.contains token

/-- Where a node stands: what kinds of collections may begin there. -/
inductive Place where
  | flow
  | block
  | blockEntry
  deriving DecidableEq

mutual

/-- A node. -/
def node : Nat → Place → Read Node
  | 0, _ => malformed
  | rounds + 1, place => do
    if let some (.alias name) ← peek then
      advance
      match (← get).anchors.lookup name with
      | none => malformed
      | some (.reading isMapping) => return .enclosing isMapping
      | some (.done node) => return node
    else
      let given ← properties
      let address ← givenTag given
      declare given.anchor
      let made ← content rounds place given address
      remember given.anchor (.done made)
      return made

/-- The content of a node behind its properties. -/
def content : Nat → Place → Properties → Option String → Read Node
  | 0, _, _, _ => malformed
  | rounds + 1, place, given, address => do
    let sequenceOf (items : Read (List Node)) : Read Node := do
      remember given.anchor (.reading false)
      return .sequence (collectionTag address .sequence) (← items)
    let mappingOf (entries : Read (List (Node × Node))) : Read Node := do
      remember given.anchor (.reading true)
      return .mapping (collectionTag address .mapping) (← entries)
    match ← peek with
    | some .dash =>
      if place = .blockEntry then sequenceOf (looseItems rounds) else vacant given address
    | some (.scalar text plain) =>
      advance
      return scalarNode address text plain
    | some .openBracket =>
      advance
      sequenceOf (bracketItems rounds true)
    | some .openBrace =>
      advance
      mappingOf (braceEntries rounds true)
    | some .blockSequence =>
      if place = .flow then vacant given address
      else
        advance
        sequenceOf (blockItems rounds)
    | some .blockMapping =>
      if place = .flow then vacant given address
      else
        advance
        mappingOf (blockEntries rounds)
    | _ => vacant given address

/-- A node with properties and no content; without properties there is no node. -/
def vacant (given : Properties) (address : Option String) : Read Node :=
  if given.anchor.isNone && given.tag.isNone then malformed
  else return scalarNode address "" (address.all (· == loneMark))

/-- The items of a block sequence, each behind its dash. -/
def blockItems : Nat → Read (List Node)
  | 0 => malformed
  | rounds + 1 => do
    if ← accept .dash then
      let item ←
        if ← startsNode [.dash, .blockEnd] then node rounds .block else pure emptyNode
      return item :: (← blockItems rounds)
    else if ← accept .blockEnd then return []
    else malformed

/-- The items of a sequence that is not indented further than the mapping around it. -/
def looseItems : Nat → Read (List Node)
  | 0 => malformed
  | rounds + 1 => do
    if ← accept .dash then
      let item ←
        if ← startsNode [.dash, .key, .value, .blockEnd] then node rounds .block
        else pure emptyNode
      return item :: (← looseItems rounds)
    else return []

/-- The entries of a block mapping. Each begins with a key. -/
def blockEntries : Nat → Read (List (Node × Node))
  | 0 => malformed
  | rounds + 1 => do
    if ← accept .key then
      let absent := [Token.key, .value, .blockEnd]
      let key ← if ← startsNode absent then node rounds .blockEntry else pure emptyNode
      let value ←
        if ← accept .value then
          if ← startsNode absent then node rounds .blockEntry else pure emptyNode
        else pure emptyNode
      return (key, value) :: (← blockEntries rounds)
    else if ← accept .blockEnd then return []
    else malformed

/-- The items of a sequence in brackets. A key among them makes a mapping of one entry. -/
def bracketItems : Nat → Bool → Read (List Node)
  | 0, _ => malformed
  | rounds + 1, first => do
    if ← accept .closeBracket then return []
    else
      if !first then
        if !(← accept .comma) then malformed
      if ← accept .key then
        let key ←
          if ← startsNode [.value, .comma, .closeBracket] then node rounds .flow
          else pure emptyNode
        let value ← flowValue rounds .closeBracket
        return .mapping .mapping [(key, value)] :: (← bracketItems rounds false)
      else if ← accept .closeBracket then return []
      else
        let item ← node rounds .flow
        return item :: (← bracketItems rounds false)

/-- The entries of a mapping in braces. A node without a value is a key. -/
def braceEntries : Nat → Bool → Read (List (Node × Node))
  | 0, _ => malformed
  | rounds + 1, first => do
    if ← accept .closeBrace then return []
    else
      if !first then
        if !(← accept .comma) then malformed
      if ← accept .key then
        let key ←
          if ← startsNode [.value, .comma, .closeBrace] then node rounds .flow
          else pure emptyNode
        let value ← flowValue rounds .closeBrace
        return (key, value) :: (← braceEntries rounds false)
      else if ← accept .closeBrace then return []
      else
        let key ← node rounds .flow
        return (key, emptyNode) :: (← braceEntries rounds false)

/-- The value that may follow a key in brackets or braces. -/
def flowValue : Nat → Token → Read Node
  | 0, _ => malformed
  | rounds + 1, closing => do
    if ← accept .value then
      if ← startsNode [.comma, closing] then node rounds .flow else return emptyNode
    else return emptyNode

end

/-! ### Documents -/

/-- The handles that need no directive. -/
def usualHandles : List (String × String) :=
  [("!", "!"), ("!!", Tag.standard)]

/-- The directives that come next: whether one gave a version, and the handles. -/
def directives : Nat → Bool → List (String × String) → Read (List (String × String))
  | 0, _, _ => malformed
  | rounds + 1, versioned, handles => do
    match ← peek with
    | some (.directive directive) =>
      advance
      match directive with
      | .version major =>
        if versioned || major != 1 then malformed else directives rounds true handles
      | .handle name address =>
        if (handles.lookup name).isSome then malformed
        else directives rounds versioned ((name, address) :: handles)
      | .other => directives rounds versioned handles
    | _ => return handles

/-- The marks of ends of documents passed. -/
def skipEnds : Read Unit :=
  modify fun state => { state with tokens := state.tokens.dropWhile (· == .documentEnd) }

/-- A document behind its first mark, which may be empty. -/
def documentContent (rounds : Nat) : Read Node := do
  match ← peek with
  | none | some (.directive _) | some .documentStart | some .documentEnd => return emptyNode
  | _ => node rounds .block

/-- The end of the only document. -/
def documentEnd : Read Unit := do
  skipEnds
  if (← peek).isSome then malformed

/-- The only document, if there is one. -/
def document (rounds : Nat) : Read (Option Node) := do
  match ← peek with
  | none => return none
  | some (.directive _) | some .documentStart =>
    let handles ← directives rounds false []
    modify fun state => { state with handles := handles ++ usualHandles }
    if ← accept .documentStart then
      let made ← documentContent rounds
      documentEnd
      return some made
    else malformed
  | _ =>
    let made ← node rounds .block
    documentEnd
    return some made

/-- The document of some tokens. Between two tokens a node descends through four levels at most. -/
def Node.ofTokens? (tokens : List Token) : Except Fault (Option Node) := do
  let (made, _) ← (document (4 * tokens.length + 8)).run ⟨tokens, [], usualHandles⟩
  return made

end ScenarioTree.Yaml
