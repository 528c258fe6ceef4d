/-
This file reads elements back from their markup. Between two tags the tree is described as it will
be once the waiting characters are put into their run, because the next tag does just that. An
element is then put in as the newest child, and the text behind it becomes its tail.

The induction is on the element. The outermost tag declares every prefix and the tags inside declare
none, so the declarations of a tag are a parameter, and what stays the same throughout is that the
scope undoes the prefixes.
-/

import ScenarioTree.Proofs.Newline
import ScenarioTree.Proofs.Opened

namespace ScenarioTree.Xml

/-! ### The tree between two tags -/

theorem Run.WellFormed.empty_append {run : Run} (formed : run.WellFormed) :
    Run.empty.append run.text = run := by
  have added : Run.empty.append run.text = ⟨run.text, []⟩ := by
    simp [Run.append, Run.empty]
  rw [added, ← formed.bare]

namespace Frame

theorem mapRun_append_empty (frame : Frame) : frame.mapRun (·.append "") = frame := by
  have kept (run : Run) : run.append "" = run := by
    obtain ⟨text, notes⟩ := run
    have notesKept : Run.extendNotes "" notes = notes := by
      induction notes with
      | nil => rfl
      | cons note rest induction =>
        cases rest with
        | nil => simp [Run.extendNotes]
        | cons second others => rw [Run.extendNotes, induction]; simp
    cases notes with
    | nil => simp [Run.append]
    | cons note rest => rw [Run.append, notesKept]; rfl
  obtain ⟨written, name, attributes, scope, text, children⟩ := frame
  cases children with
  | nil => simp [mapRun, kept]
  | cons newest older =>
    obtain ⟨_, _, _, _, _⟩ := newest
    simp only [mapRun, kept]

end Frame

namespace Content

/-- The tree with a finished element put in. -/
def put (content : Content) (element : Element) : Content :=
  match content.frames with
  | [] => ⟨[], [], some element⟩
  | frame :: outer =>
    ⟨[], { frame with children := element :: frame.children } :: outer, content.root⟩

theorem flush_eq (content : Content) : ∃ frames, content.flush = ⟨[], frames, content.root⟩ := by
  obtain ⟨buffer, frames, root⟩ := content
  cases buffer with
  | nil => exact ⟨frames, rfl⟩
  | cons character rest =>
    cases frames with
    | nil => exact ⟨[], rfl⟩
    | cons frame outer => exact ⟨_, rfl⟩

/-- The innermost open element is the same before the waiting characters are put into their run. -/
theorem frames_of_flush {content : Content} {frame : Frame} {outer : List Frame}
    (flushed : content.flush.frames = frame :: outer) :
    ∃ before : Frame, content.frames = before :: outer ∧ before.written = frame.written ∧
      before.scope = frame.scope := by
  obtain ⟨buffer, frames, root⟩ := content
  cases buffer with
  | nil => exact ⟨frame, flushed, rfl, rfl⟩
  | cons character rest =>
    cases frames with
    | nil => cases flushed
    | cons before others =>
      obtain ⟨same, rfl⟩ := List.cons.inj flushed
      refine ⟨before, rfl, ?_, ?_⟩
      · rw [← same]
        obtain ⟨_, _, _, _, _, children⟩ := before
        cases children <;> rfl
      · rw [← same]
        obtain ⟨_, _, _, _, _, children⟩ := before
        cases children <;> rfl

theorem flush_pushAll (frame : Frame) (outer : List Frame) (root : Option Element)
    (characters : List Char) :
    (pushAll ⟨[], frame :: outer, root⟩ characters).flush =
      ⟨[], frame.mapRun (·.append (String.ofList characters)) :: outer, root⟩ := by
  cases characters with
  | nil =>
    have kept : frame.mapRun (·.append (String.ofList [])) = frame := frame.mapRun_append_empty
    rw [kept]
    rfl
  | cons character rest =>
    rw [pushAll, flush]
    simp [mapFrame]

theorem closeFrame_eq {content : Content} {frame : Frame} {outer : List Frame}
    {root : Option Element} (flushed : content.flush = ⟨[], frame :: outer, root⟩) :
    content.closeFrame = put ⟨[], outer, root⟩ frame.close := by
  have same : content.root = root := by
    obtain ⟨frames, flushed'⟩ := content.flush_eq
    rw [flushed'] at flushed
    exact (Content.mk.inj flushed).2.2
  rw [closeFrame, flushed]
  cases outer with
  | nil => rfl
  | cons next rest => simp only [put, same]

end Content

namespace Reader

/-- In text, where the tree will be a given one as soon as the text ends. -/
def Within (target : Content) (reader : Reader) : Prop :=
  ∃ content, content.flush = target ∧ reader.At InText content

theorem leads_within {target : Content} {characters : List Char} {after : Reader → Prop}
    (leads : ∀ content, content.flush = target → Leads (At InText content) characters after) :
    Leads (Within target) characters after := by
  rintro reader ⟨content, flushed, reached⟩
  exact leads content flushed reader reached

theorem root_of_flush {content target : Content} (flushed : content.flush = target) :
    content.root = target.root := by
  obtain ⟨frames, flushed'⟩ := content.flush_eq
  rw [← flushed, flushed']

variable {frame : Frame} {outer : List Frame}

/-- What was written of a run is added to the last one. -/
theorem leads_run {run : Run} (formed : run.WellFormed) :
    Leads (At InText ⟨[], frame :: outer, none⟩) run.unified.write.toList
      (Within ⟨[], frame.mapRun (·.append run.unified.text) :: outer, none⟩) := by
  have free : '\r' ∉ run.unified.text.toList := by
    rw [Run.unified, toList_unifyText]
    exact Text.return_not_mem_unifyNewlines _
  have text := @leads_text ⟨[], frame :: outer, none⟩ rfl _ formed.unified.legal free
  rw [formed.unified.write]
  refine text.weaken fun reader reached => ⟨_, ?_, reached⟩
  rw [Content.flush_pushAll, String.ofList_toList]

/-! ### Tags -/

theorem not_sign_of_isNameStart {character : Char} (start : isNameStart character) :
    character ≠ '!' ∧ character ≠ '?' ∧ character ≠ '/' := by
  have part := isNamePart_of_isNameStart start
  exact ⟨ne_of_isNamePart part '!' (by decide), ne_of_isNamePart part '?' (by decide),
    ne_of_isNamePart part '/' (by decide)⟩

/-- A start tag begins. -/
theorem leads_angle {content : Content} (unfinished : content.root = none) {first : Char}
    (start : isNameStart first) :
    Leads (At InText content) ['<', first]
      (At (Tagging (· = .tagName (.start first))) content) := by
  refine .cons (leads_less unfinished) (leads_silently unfinished ?_)
  rintro _ rfl place here
  obtain ⟨bang, question, slash⟩ := not_sign_of_isNameStart start
  exact ⟨_, by rw [Lexeme.step]; simp [bang, question, slash, start], _, rfl, rfl⟩

section Tags

variable {content changed : Content} {known : RawTag → Prop}

/-- A start tag ends. -/
theorem leads_opened (unfinished : content.root = none)
    (opens : ∀ tag, known tag → ∀ start, content.openElement .nothing [] start tag = .ok changed)
    (unclosed : ∀ tag, known tag → tag.closed = false) :
    Leads (At (Tagging (RawTag.Pending.Follows known)) content) ['>'] (At InText changed) := by
  refine leads_tokens unfinished ?_
  rintro _ ⟨pending, rfl, tag, tagKnown, follows⟩ start here
  refine ⟨.text 0, [.startTag tag], ?_, ⟨0, rfl⟩, fun replace => ?_⟩
  · rw [Lexeme.step, follows here '>' (.inr rfl)]
    rfl
  · rw [List.foldlM_cons, Content.addToken]
    simp only [plainly, opens tag tagKnown start, unclosed tag tagKnown]
    rfl

/-- A start tag ends that also closes its element. -/
theorem leads_closed (unfinished : content.root = none)
    (opens : ∀ tag, known tag → ∀ start, content.openElement .nothing [] start tag = .ok changed) :
    Leads (At (Tagging (RawTag.Pending.Follows known)) content) " />".toList
      (At InText changed.closeFrame) := by
  have slash : Leads (At (Tagging fun pending => ∃ tag, known tag ∧ pending = .gap tag) content)
      ['/'] (At (Tagging fun pending => ∃ tag, known tag ∧ pending = .slash tag) content) := by
    refine leads_tagging unfinished ?_
    rintro _ ⟨tag, tagKnown, rfl⟩ here
    exact ⟨.slash tag, rfl, tag, tagKnown, rfl⟩
  refine .cons (leads_gap unfinished) (.cons slash (leads_tokens unfinished ?_))
  rintro _ ⟨_, rfl, tag, tagKnown, rfl⟩ start here
  refine ⟨.text 0, [.startTag { tag with closed := true }], rfl, ⟨0, rfl⟩, fun replace => ?_⟩
  have opened : content.openElement .nothing [] start { tag with closed := true } = .ok changed :=
    opens tag tagKnown start
  rw [List.foldlM_cons, Content.addToken]
  simp only [plainly, opened]
  rfl

end Tags

theorem part_or_colon_of_qualified {name : List Char} (qualified : Qualified PlainName name) :
    ∀ character ∈ name, isNamePart character ∨ character = ':' := by
  intro character member
  cases qualified with
  | plain plain => exact .inl (plain.part character member)
  | parted parted plain behind =>
    rw [parted, List.mem_append, List.mem_cons] at member
    rcases member with member | rfl | member
    · exact .inl (plain.part character member)
    · exact .inr rfl
    · exact .inl (behind.part character member)

/-- In the name of an end tag. -/
def EndTag (seen : List Char) (lexeme : Lexeme) : Prop :=
  ∃ position, lexeme = .endTag position seen

/-- The name of an end tag is read on. -/
theorem leads_endTagName {content : Content} (unfinished : content.root = none)
    {characters seen : List Char} (begun : seen ≠ [])
    (parts : ∀ character ∈ characters, isNamePart character ∨ character = ':') :
    Leads (At (EndTag seen) content) characters
      (At (EndTag (characters.reverse ++ seen)) content) := by
  induction characters generalizing seen with
  | nil => exact .nil fun reader reached => reached
  | cons character rest induction =>
    have step : Leads (At (EndTag seen) content) [character]
        (At (EndTag (character :: seen)) content) := by
      refine leads_silently unfinished ?_
      rintro _ ⟨position, rfl⟩ start here
      refine ⟨.endTag position (character :: seen), ?_, position, rfl⟩
      have part : (isNamePart character || character == ':') = true := by
        simpa using parts character List.mem_cons_self
      rw [Lexeme.step, if_pos part]
      exact begun
    have following := @induction (character :: seen) (by simp)
      fun other member => parts other (List.mem_cons_of_mem _ member)
    rw [List.reverse_cons, List.append_assoc]
    exact .cons step following

/-- An end tag closes the innermost element, which is put into the one around it. -/
theorem leads_endTag {written : List Char} (qualified : Qualified PlainName written)
    (named : frame.written = String.ofList written) :
    Leads (Within ⟨[], frame :: outer, none⟩) ('<' :: '/' :: (written ++ ['>']))
      (At InText (Content.put ⟨[], outer, none⟩ frame.close)) := by
  refine leads_within fun content flushed => ?_
  have unfinished : content.root = none := root_of_flush flushed
  have slash : Leads (At (· = .angle) content) ['/'] (At (EndTag []) content) := by
    refine leads_silently unfinished ?_
    rintro _ rfl start here
    exact ⟨_, rfl, _, rfl⟩
  obtain ⟨first, rest, rfl⟩ := qualified.eq_cons
  have begun : Leads (At (EndTag []) content) [first] (At (EndTag [first]) content) := by
    refine leads_silently unfinished ?_
    rintro _ ⟨position, rfl⟩ start here
    exact ⟨_, by rw [Lexeme.step, if_pos qualified.start], position, rfl⟩
  have name : Leads (At (EndTag [first]) content) rest
      (At (EndTag (rest.reverse ++ [first])) content) := by
    refine leads_endTagName unfinished (by simp) fun character member => ?_
    exact part_or_colon_of_qualified qualified character (List.mem_cons_of_mem _ member)
  have ended : Leads (At (EndTag (rest.reverse ++ [first])) content) ['>']
      (At InText (Content.put ⟨[], outer, none⟩ frame.close)) := by
    refine leads_tokens unfinished ?_
    rintro _ ⟨position, rfl⟩ start here
    refine ⟨.text 0, [.endTag (String.ofList (first :: rest)) position], ?_, ⟨0, rfl⟩,
      fun replace => ?_⟩
    · have stops : (isNamePart '>' || '>' == ':') = false := by decide
      rw [Lexeme.step, stops]
      · simp
      · simp
    · obtain ⟨before, frames, same, _⟩ := Content.frames_of_flush (congrArg Content.frames flushed)
      rw [List.foldlM_cons, Content.addToken, Content.closeElement, frames]
      simp only [Nat.not_lt_zero, if_false, same, named, beq_self_eq_true, if_true,
        Content.closeFrame_eq flushed]
      rfl
  exact .cons (leads_less unfinished) (.cons slash (.cons begun (name.append ended)))

/-! ### Elements -/

/-- The declarations and attributes of an element as they stand in its tag. -/
theorem toList_givens (declared : List (String × String)) (prefixes : Prefixes)
    (attributes : List Attribute) :
    (String.join ((givens declared prefixes attributes).map writeGiven)).toList =
      (String.join (declared.map fun entry => writeGiven (declarationGiven entry))).toList ++
        (String.join (attributes.map (·.write prefixes))).toList := by
  rw [givens, List.map_append, List.map_map, List.map_map, String.toList_join, String.toList_join,
    String.toList_join, List.flatMap_append]
  rfl

theorem forall_mem_givens {declared : List (String × String)} {prefixes : Prefixes}
    {attributes : List Attribute} {holds : String × String → Prop}
    (declarations : ∀ entry ∈ declared, holds (declarationGiven entry))
    (others : ∀ given ∈ attributes, holds (given.given prefixes)) :
    ∀ given ∈ givens declared prefixes attributes, holds given := by
  intro given member
  rcases List.mem_append.mp member with member | member
  · obtain ⟨entry, entryMember, rfl⟩ := List.mem_map.mp member
    exact declarations entry entryMember
  · obtain ⟨named, namedMember, rfl⟩ := List.mem_map.mp member
    exact others named namedMember

theorem qualified_declarationGiven {declared : List (String × String)}
    (declares : Declares declared) :
    ∀ entry ∈ declared, Qualified PlainName (declarationGiven entry).1.toList := by
  intro entry member
  refine .parted ?_ plainName_xmlns (declares.proper entry member).plain
  rw [declarationGiven, String.toList_append]
  rfl

/-- The markup of an element with one spelling of line ends, from its first two characters on. -/
theorem toList_written {prefixes : Prefixes} {element : Element} {first : Char} {rest : List Char}
    (written : (prefixes.write element.name).toList = first :: rest)
    (declared : List (String × String)) :
    (element.unified.writeWith prefixes
        (String.join (declared.map fun entry => writeGiven (declarationGiven entry)))).toList =
      '<' :: first :: (rest ++
        (String.join ((givens declared prefixes element.attributes).map writeGiven)).toList ++
          element.unified.closing prefixes) := by
  have name : element.unified.name = element.name := by rw [Element.unified_eq]
  have same : element.unified.attributes = element.attributes := by rw [Element.unified_eq]
  rw [Element.toList_writeWith, toList_givens, name, same, written]
  simp only [List.cons_append, List.append_assoc]

/-- A start tag up to the sign that ends it. -/
theorem leads_opening {prefixes : Prefixes} {name : Name} {attributes : List Attribute}
    (serves : Serves prefixes name attributes) {declared : List (String × String)}
    (declares : Declares declared) (values : ∀ given ∈ attributes, AllLegal given.value.toList)
    {content : Content} (unfinished : content.root = none) {first : Char} {rest : List Char}
    (written : (prefixes.write name).toList = first :: rest) :
    Leads (At (Tagging (· = .tagName (.start first))) content)
      (rest ++ (String.join ((givens declared prefixes attributes).map writeGiven)).toList)
      (At (Tagging (RawTag.Pending.Follows (RawTag.Reads (prefixes.write name)
        ((givens declared prefixes attributes).map fun given => (given.1, escapeValue given.2)))))
        content) := by
  have qualified := Prefixes.qualified_write serves.sound serves.covers serves.plain
  have whole : String.ofList (first :: rest) = prefixes.write name := by
    rw [← written, String.ofList_toList]
  have named := @leads_tagName content unfinished first rest (written ▸ qualified)
  rw [whole] at named
  have names : ∀ given ∈ givens declared prefixes attributes, Qualified PlainName given.1.toList :=
    forall_mem_givens (qualified_declarationGiven declares) fun named member =>
      Prefixes.qualified_write serves.sound (serves.attributeCovers named member)
        (serves.attributePlain named member)
  have legal : ∀ given ∈ givens declared prefixes attributes, AllLegal given.2.toList :=
    forall_mem_givens (fun entry member => (declares.declarable entry member).legal) values
  have given := @leads_givens content (prefixes.write name) [] unfinished _ names legal
  rw [List.nil_append] at given
  exact named.append given

/-- An element that was written under declarations is read back: whatever the tree, once its tag has
begun. -/
def Rereads (prefixes : Prefixes) (element : Element) : Prop :=
  ∀ declared : List (String × String), Declares declared →
    ∃ first rest, isNameStart first ∧
      (element.unified.writeWith prefixes
        (String.join (declared.map fun entry => writeGiven (declarationGiven entry)))).toList =
          '<' :: first :: rest ∧
      ∀ content : Content, content.root = none →
        prefixes.Undone (declared.reverse ++ content.scope) →
          Leads (At (Tagging (· = .tagName (.start first))) content) rest
            (At InText (content.flush.put { element.unified with tail := .empty }))

/-- Waiting characters make no difference to what an element that begins needs. -/
theorem open_of_flush {content : Content} {prefixes : Prefixes}
    (flushed : content.flush = ⟨[], frame :: outer, none⟩) (undone : prefixes.Undone frame.scope) :
    content.root = none ∧ prefixes.Undone content.scope := by
  have scope : content.scope = frame.scope := by
    obtain ⟨before, frames, _, same⟩ := Content.frames_of_flush (congrArg Content.frames flushed)
    rw [Content.scope, frames]
    exact same
  exact ⟨root_of_flush flushed, scope ▸ undone⟩

/-- An element is read back with its tail. -/
theorem leads_child {prefixes : Prefixes} {child : Element} (inner : Rereads prefixes child)
    (tail : child.tail.WellFormed) (undone : prefixes.Undone frame.scope) :
    Leads (Within ⟨[], frame :: outer, none⟩)
      ((child.unified.writeWith prefixes "").toList ++ child.unified.tail.write.toList)
      (Within ⟨[], { frame with children := child.unified :: frame.children } :: outer, none⟩) := by
  obtain ⟨first, markup, start, written, leads⟩ := inner [] declares_nil
  have written : (child.unified.writeWith prefixes "").toList = '<' :: first :: markup := written
  have element : Leads (Within ⟨[], frame :: outer, none⟩) ('<' :: first :: markup)
      (At InText (Content.put ⟨[], frame :: outer, none⟩
        { child.unified with tail := .empty })) := by
    refine leads_within fun content flushed => ?_
    obtain ⟨unfinished, scope⟩ := open_of_flush flushed undone
    have entered := leads content unfinished scope
    rw [flushed] at entered
    exact (leads_angle unfinished start).append entered
  have same : child.tail.unified = child.unified.tail := by rw [Element.unified_eq]
  have behind := @leads_run
    { frame with children := { child.unified with tail := .empty } :: frame.children } outer _ tail
  have whole : { child.unified with tail := child.unified.tail } = child.unified := by
    cases child.unified
    rfl
  rw [Frame.mapRun] at behind
  simp only [tail.unified.empty_append] at behind
  simp only [same, whole] at behind
  rw [written]
  exact element.append behind

/-- Elements with their tails are read back one after another. -/
theorem leads_writeChildren {prefixes : Prefixes} {children : List Element}
    (inner : ∀ child ∈ children, Rereads prefixes child)
    (tails : ∀ child ∈ children, child.tail.WellFormed) (undone : prefixes.Undone frame.scope) :
    Leads (Within ⟨[], frame :: outer, none⟩)
      (Element.writeChildren prefixes (children.map Element.unified)).toList
      (Within ⟨[], { frame with
        children := (children.map Element.unified).reverse ++ frame.children } :: outer,
        none⟩) := by
  induction children generalizing frame with
  | nil => exact .nil fun reader reached => reached
  | cons child rest induction =>
    have element := @leads_child frame outer _ _ (inner child List.mem_cons_self)
      (tails child List.mem_cons_self) undone
    have following := @induction { frame with children := child.unified :: frame.children }
      (fun other member => inner other (List.mem_cons_of_mem _ member))
      (fun other member => tails other (List.mem_cons_of_mem _ member)) undone
    rw [List.map_cons, Element.writeChildren, String.toList_append, String.toList_append,
      List.reverse_cons, List.append_assoc (List.reverse _)]
    exact element.append following

/-- The names of an element can be written and found again. -/
def Writable (prefixes : Prefixes) (element : Element) : Prop :=
  ∀ name ∈ element.names, prefixes.Covers name ∧ PlainName name.localPart.toList

theorem Writable.child {prefixes : Prefixes} {element child : Element}
    (writable : Writable prefixes element) (member : child ∈ element.children) :
    Writable prefixes child := by
  exact (Element.forall_mem_names.mp writable).2.2 child member

theorem Writable.serves {prefixes : Prefixes} {element : Element}
    (writable : Writable prefixes element) (sound : prefixes.Sound)
    (formed : element.WellFormed) : Serves prefixes element.name element.attributes := by
  obtain ⟨_, _, attributes, distinct, _, _, _⟩ := formed
  obtain ⟨name, attributeNames, _⟩ := Element.forall_mem_names.mp writable
  exact ⟨sound, name.1, name.2, fun given member => (attributeNames given member).1,
    fun given member => (attributeNames given member).2,
    fun given member none => ((attributes given member).unqualified none).2, distinct⟩

section Closing

variable {prefixes : Prefixes} {content : Content} {frames : List Frame} {known : RawTag → Prop}
  {written : String} {name : Name} {attributes : List Attribute} {scope : Scope}

/-- An element is open, and its first text is read. -/
theorem leads_filled (unfinished : content.root = none)
    (unclosed : ∀ tag, known tag → tag.closed = false)
    (opens : ∀ tag, known tag → ∀ start, content.openElement .nothing [] start tag =
      .ok ⟨[], ⟨written, name, attributes, scope, .empty, []⟩ :: frames, none⟩)
    {text : Run} (formed : text.WellFormed) :
    Leads (At (Tagging (RawTag.Pending.Follows known)) content)
      ('>' :: text.unified.write.toList)
      (Within ⟨[], ⟨written, name, attributes, scope, text.unified, []⟩ :: frames, none⟩) := by
  have filled := @leads_run ⟨written, name, attributes, scope, .empty, []⟩ frames _ formed
  rw [Frame.mapRun] at filled
  simp only [formed.unified.empty_append] at filled
  exact .cons (leads_opened unfinished opens unclosed) filled

/-- What is written behind the attributes of an element closes it. -/
theorem leads_closing {element : Element}
    (inner : ∀ child ∈ element.children, Rereads prefixes child) (text : element.text.WellFormed)
    (tails : ∀ child ∈ element.children, child.tail.WellFormed)
    (qualified : Qualified PlainName (prefixes.write element.name).toList)
    (undone : prefixes.Undone scope) (unfinished : content.root = none)
    (unclosed : ∀ tag, known tag → tag.closed = false)
    (opens : ∀ tag, known tag → ∀ start, content.openElement .nothing [] start tag =
      .ok ⟨[], ⟨prefixes.write element.name, element.name, element.attributes, scope, .empty, []⟩ ::
        frames, none⟩) :
    Leads (At (Tagging (RawTag.Pending.Follows known)) content) (element.unified.closing prefixes)
      (At InText (Content.put ⟨[], frames, none⟩ { element.unified with tail := .empty })) := by
  rw [Element.unified_eq, Element.closing]
  split
  · next empty =>
    rw [Bool.and_eq_true, List.isEmpty_iff, Run.isEmpty, Bool.and_eq_true, String.isEmpty_iff]
      at empty
    have noText : element.text.unified = .empty := by
      have parts : element.text.unified = ⟨element.text.unified.text, element.text.unified.notes⟩ :=
        rfl
      rw [parts, empty.1.1, text.unified.bare]
      rfl
    have noChildren : element.children.map Element.unified = [] := empty.2
    have closed := leads_closed unfinished opens
    rw [Content.closeFrame_eq rfl] at closed
    rw [noText, noChildren]
    exact closed
  · have filled := leads_filled unfinished unclosed opens text
    have peopled := @leads_writeChildren
      ⟨prefixes.write element.name, element.name, element.attributes, scope, element.text.unified,
        []⟩ frames _ _ inner tails undone
    have ended := @leads_endTag
      ⟨prefixes.write element.name, element.name, element.attributes, scope, element.text.unified,
        (element.children.map Element.unified).reverse ++ []⟩ frames _ qualified
      String.ofList_toList.symm
    rw [Frame.close] at ended
    simp only [List.append_nil, List.reverse_reverse] at ended peopled
    exact filled.append (peopled.append ended)

end Closing

/-- Every element whose names can be written and found again is read back. -/
theorem rereads {prefixes : Prefixes} (sound : prefixes.Sound) {element : Element}
    (formed : element.WellFormed) (writable : Writable prefixes element) :
    Rereads prefixes element := by
  induction element using Element.induction with
  | step element inner =>
    have serves := writable.serves sound formed
    obtain ⟨_, _, attributes, _, text, _, children⟩ := formed
    have rereadChildren (child : Element) (member : child ∈ element.children) :
        Rereads prefixes child :=
      inner child member (children child member) (writable.child member)
    have tails (child : Element) (member : child ∈ element.children) : child.tail.WellFormed :=
      (children child member).tail
    intro declared declares
    have qualified := Prefixes.qualified_write sound serves.covers serves.plain
    obtain ⟨first, rest, written⟩ := qualified.eq_cons
    refine ⟨first, _, (written ▸ qualified).start, toList_written written declared,
      fun content unfinished undone => ?_⟩
    -- The tag puts waiting characters into their run before it opens the element.
    obtain ⟨frames, flushed⟩ := content.flush_eq
    rw [unfinished] at flushed
    have opening := leads_opening serves declares
      (fun given member => (attributes given member).value) unfinished written
    rw [flushed]
    exact opening.append (leads_closing rereadChildren text tails qualified undone unfinished
      (fun tag reads => reads.unclosed)
      fun tag reads start => serves.openElement declares undone flushed reads start)

end Reader

end ScenarioTree.Xml
