/-
This file shows what becomes of a name that does not begin like one behind its colon: where it was
declared as an attribute it was accepted, but in a tag it is refused. So an element that has such an
attribute anywhere cannot be read back.

Up to the first such name everything is read, so an element fails where its first part fails, and
the proof follows the reader to that place with what is known about the parts that do not.
-/

import ScenarioTree.Proofs.Reread

namespace ScenarioTree.Xml

/-- A name that no tag may have: what follows its colon does not begin like a name. -/
def Misnamed (name : String) : Prop :=
  ∃ first bad rest, name.toList = first ++ ':' :: bad :: rest ∧ PlainName first ∧
    isNameStart bad = false

/-- A name of a document is written so that it can be read, or it is misnamed. -/
theorem qualified_or_misnamed {prefixes : Prefixes} (sound : prefixes.Sound) {name : Name}
    (covers : prefixes.Covers name) (parts : NameRest name.localPart.toList)
    (unqualified : name.space = "" → PlainName name.localPart.toList) :
    Qualified PlainName (prefixes.write name).toList ∧ PlainName name.localPart.toList ∨
      Misnamed (prefixes.write name) ∧ ¬ PlainName name.localPart.toList := by
  by_cases plain : PlainName name.localPart.toList
  · exact .inl ⟨Prefixes.qualified_write sound covers plain, plain⟩
  · refine .inr ⟨?_, plain⟩
    rcases Prefixes.write_cases sound covers with ⟨none, _⟩ | ⟨given, written, proper, _⟩
    · exact (plain (unqualified none)).elim
    · obtain ⟨some', parts⟩ := parts
      generalize name.localPart.toList = characters at plain written some' parts
      cases characters with
      | nil => exact (some' rfl).elim
      | cons bad rest =>
        refine ⟨given.toList, bad, rest, written, proper, ?_⟩
        by_contra begins
        refine plain ⟨by simpa using begins, fun other member => ?_⟩
        exact parts other (List.mem_cons_of_mem _ member)

namespace Reader

/-! ### Failing -/

/-- From every reader that answers to a description, the characters lead to a fault. -/
def Fails (before : Reader → Prop) (characters : List Char) : Prop :=
  ∀ reader, before reader → ∃ fault, characters.foldlM (step false) reader = .error fault

variable {before between : Reader → Prop}

theorem Leads.fails {first second : List Char} (leads : Leads before first between)
    (fails : Fails between second) : Fails before (first ++ second) := by
  intro reader known
  obtain ⟨middle, ran, reached⟩ := leads reader known
  obtain ⟨fault, failed⟩ := fails middle reached
  exact ⟨fault, (foldlM_append_of_ok ran second).trans failed⟩

theorem Fails.append {first : List Char} (fails : Fails before first) (second : List Char) :
    Fails before (first ++ second) := by
  intro reader known
  obtain ⟨fault, failed⟩ := fails reader known
  exact ⟨fault, foldlM_append_of_error failed second⟩

open RawTag (Pending Reads)
open RawTag.Pending (Follows InName)

variable {content : Content}

/-- One character fails within a tag if every pending part of it is invalid. -/
theorem fails_tagging (unfinished : content.root = none) {known : Pending → Prop}
    {character : Char}
    (steps : ∀ pending, known pending → ∀ here, pending.step here character = .invalid) :
    Fails (At (Tagging known) content) [character] := by
  rintro ⟨stage, start, here⟩ reached
  rw [At, unfinished] at reached
  obtain ⟨⟨lexeme, begun, place, tree⟩, rfl, ⟨pending, rfl, pendingKnown⟩, rfl⟩ := reached
  refine ⟨⟨.invalidToken, place⟩, ?_⟩
  have invalid : (Lexeme.startTag pending).step begun place character = .error place := by
    rw [Lexeme.step, steps pending pendingKnown]
  have advances : Scan.advance plainly ⟨.startTag pending, begun, place, tree⟩ character =
      .error ⟨.invalidToken, place⟩ := by
    rw [Scan.advance, Scan.step]
    simp only [Lexeme.isIdle, Bool.false_eq_true, if_false, invalid]
  rw [List.foldlM_cons, step_content, advances]
  rfl

/-! ### Attributes -/

variable {written : String} {pairs : List (String × String)}

/-- A misnamed attribute is refused behind its colon. -/
theorem fails_writeGiven (unfinished : content.root = none) {given : String × String}
    (misnamed : Misnamed given.1) :
    Fails (At (Tagging (Follows (Reads written pairs))) content) (writeGiven given).toList := by
  obtain ⟨plain, bad, rest, parted, plainName, refused⟩ := misnamed
  cases plain with
  | nil => exact plainName.elim
  | cons first more =>
    have named := @leads_attributeName content written pairs unfinished first (more ++ [':'])
      ⟨':' :: (more.reverse ++ [first]), .fresh⟩ plainName.1
      (by
        rw [List.foldlM_append, PendingName.foldlM_extend?_of_isNamePart rfl plainName.2]
        rfl)
    have fails : Fails (At (Tagging (InName (Reads written pairs)
        ⟨':' :: (more.reverse ++ [first]), .fresh⟩)) content) [bad] := by
      refine fails_tagging unfinished ?_
      rintro _ ⟨head, reads, rfl⟩ here
      have ended : PendingName.extend? ⟨':' :: (more.reverse ++ [first]), .fresh⟩ bad = none := by
        rw [PendingName.extend?]
        simp [refused]
      rw [RawTag.Pending.step, ended]
      rfl
    have whole : (writeGiven given).toList = ' ' :: first :: (more ++ [':']) ++ [bad] ++
        (rest ++ '=' :: '"' :: ((escapeValue given.2).toList ++ ['"'])) := by
      rw [toList_writeGiven, parted]
      simp
    rw [whole]
    exact (named.fails fails).append _

/-- Attributes of which one is misnamed are refused. -/
theorem fails_givens (unfinished : content.root = none) {givens : List (String × String)}
    (each : ∀ given ∈ givens, Qualified PlainName given.1.toList ∨ Misnamed given.1)
    (legal : ∀ given ∈ givens, AllLegal given.2.toList)
    (misnamed : ∃ given ∈ givens, Misnamed given.1) :
    Fails (At (Tagging (Follows (Reads written pairs))) content)
      (String.join (givens.map writeGiven)).toList := by
  induction givens generalizing pairs with
  | nil =>
    obtain ⟨given, member, _⟩ := misnamed
    cases member
  | cons given rest induction =>
    rw [List.map_cons, String.join_cons, String.toList_append]
    by_cases refused : Misnamed given.1
    · exact (fails_writeGiven unfinished refused).append _
    · have qualified := (each given List.mem_cons_self).resolve_right refused
      have leads : Leads (At (Tagging (Follows (Reads written pairs))) content) _ _ :=
        leads_writeGiven unfinished qualified (legal given List.mem_cons_self)
      refine leads.fails (induction
        (fun other member => each other (List.mem_cons_of_mem _ member))
        (fun other member => legal other (List.mem_cons_of_mem _ member)) ?_)
      obtain ⟨other, member, otherRefused⟩ := misnamed
      rcases List.mem_cons.mp member with rfl | member
      · exact (refused otherRefused).elim
      · exact ⟨other, member, otherRefused⟩

/-! ### Elements -/

/-- An element that is refused: whatever the tree, once its tag has begun. -/
def Stumbles (prefixes : Prefixes) (element : Element) : Prop :=
  ∀ declared : List (String × String), Declares declared →
    ∃ first rest, isNameStart first ∧
      (element.unified.writeWith prefixes
        (String.join (declared.map fun entry => writeGiven (declarationGiven entry)))).toList =
          '<' :: first :: rest ∧
      ∀ content : Content, content.root = none →
        prefixes.Undone (declared.reverse ++ content.scope) →
          Fails (At (Tagging (· = .tagName (.start first))) content) rest

/-- Elements of which one is refused are refused. -/
theorem fails_writeChildren {prefixes : Prefixes} {children : List Element}
    (each : ∀ child ∈ children, Rereads prefixes child ∨ Stumbles prefixes child)
    (tails : ∀ child ∈ children, child.tail.WellFormed)
    (refused : ∃ child ∈ children, Stumbles prefixes child) {frame : Frame} {outer : List Frame}
    (undone : prefixes.Undone frame.scope) :
    Fails (Within ⟨[], frame :: outer, none⟩)
      (Element.writeChildren prefixes (children.map Element.unified)).toList := by
  induction children generalizing frame with
  | nil =>
    obtain ⟨child, member, _⟩ := refused
    cases member
  | cons child rest induction =>
    rw [List.map_cons, Element.writeChildren, String.toList_append, String.toList_append]
    by_cases stumbles : Stumbles prefixes child
    · obtain ⟨first, markup, start, written, fails⟩ := stumbles [] declares_nil
      have written : (child.unified.writeWith prefixes "").toList = '<' :: first :: markup :=
        written
      have element : Fails (Within ⟨[], frame :: outer, none⟩) ('<' :: first :: markup) := by
        rintro reader ⟨content, flushed, reached⟩
        obtain ⟨unfinished, scope⟩ := open_of_flush flushed undone
        exact (leads_angle unfinished start).fails (fails content unfinished scope) reader reached
      rw [written]
      exact (element.append _).append _
    · have rereads := (each child List.mem_cons_self).resolve_right stumbles
      refine (leads_child rereads (tails child List.mem_cons_self) undone).fails (induction
        (fun other member => each other (List.mem_cons_of_mem _ member))
        (fun other member => tails other (List.mem_cons_of_mem _ member)) ?_ undone)
      obtain ⟨other, member, otherStumbles⟩ := refused
      rcases List.mem_cons.mp member with rfl | member
      · exact (stumbles otherStumbles).elim
      · exact ⟨other, member, otherStumbles⟩

/-- An element is refused with one of its children. -/
theorem fails_closing {prefixes : Prefixes} {element : Element}
    (each : ∀ child ∈ element.children, Rereads prefixes child ∨ Stumbles prefixes child)
    (refused : ∃ child ∈ element.children, Stumbles prefixes child)
    (text : element.text.WellFormed)
    (tails : ∀ child ∈ element.children, child.tail.WellFormed) {scope : Scope}
    (undone : prefixes.Undone scope) (unfinished : content.root = none) {frames : List Frame}
    {known : RawTag → Prop} (unclosed : ∀ tag, known tag → tag.closed = false)
    (opens : ∀ tag, known tag → ∀ start, content.openElement .nothing [] start tag =
      .ok ⟨[], ⟨prefixes.write element.name, element.name, element.attributes, scope, .empty, []⟩ ::
        frames, none⟩) :
    Fails (At (Tagging (Follows known)) content) (element.unified.closing prefixes) := by
  have filled := leads_filled unfinished unclosed opens text
  have fails := @fails_writeChildren _ _ each tails refused
    ⟨prefixes.write element.name, element.name, element.attributes, scope, element.text.unified,
      []⟩ frames undone
  have peopled : (element.children.map Element.unified).isEmpty = false := by
    obtain ⟨child, member, _⟩ := refused
    rw [List.isEmpty_eq_false_iff, ne_eq, List.map_eq_nil_iff]
    exact List.ne_nil_of_mem member
  have closing : element.unified.closing prefixes =
      '>' :: element.text.unified.write.toList ++
        (Element.writeChildren prefixes (element.children.map Element.unified)).toList ++
          '<' :: '/' :: ((prefixes.write element.name).toList ++ ['>']) := by
    rw [Element.unified_eq, Element.closing, peopled, Bool.and_false, if_neg (by decide)]
    simp
  rw [closing]
  exact (filled.fails fails).append _

/-- Attributes of which one does not begin like a name are refused in their tag. -/
theorem fails_tag {prefixes : Prefixes} (sound : prefixes.Sound) {name : Name}
    {attributes : List Attribute} (qualified : Qualified PlainName (prefixes.write name).toList)
    (covers : ∀ given ∈ attributes, prefixes.Covers given.name)
    (formed : ∀ given ∈ attributes, given.WellFormed)
    (improper : ∃ given ∈ attributes, ¬ PlainName given.name.localPart.toList)
    {declared : List (String × String)} (declares : Declares declared) {content : Content}
    (unfinished : content.root = none) {first : Char} {rest : List Char}
    (written : (prefixes.write name).toList = first :: rest) :
    Fails (At (Tagging (· = .tagName (.start first))) content)
      (rest ++ (String.join ((givens declared prefixes attributes).map writeGiven)).toList) := by
  have either (given : Attribute) (member : given ∈ attributes) :=
    qualified_or_misnamed sound (covers given member) (formed given member).localPart
      fun none => ((formed given member).unqualified none).1
  have each : ∀ given ∈ givens declared prefixes attributes,
      Qualified PlainName given.1.toList ∨ Misnamed given.1 :=
    forall_mem_givens (fun entry member => .inl (qualified_declarationGiven declares entry member))
      fun given member => (either given member).imp And.left And.left
  have legal : ∀ given ∈ givens declared prefixes attributes, AllLegal given.2.toList :=
    forall_mem_givens (fun entry member => (declares.declarable entry member).legal)
      fun given member => (formed given member).value
  have misnamed : ∃ given ∈ givens declared prefixes attributes, Misnamed given.1 := by
    obtain ⟨given, member, improper⟩ := improper
    have refused := (either given member).resolve_left fun fine => improper fine.2
    exact ⟨given.given prefixes, List.mem_append_right _ (List.mem_map_of_mem member), refused.1⟩
  exact (leads_tagName unfinished (written ▸ qualified)).fails
    (fails_givens unfinished each legal misnamed)

/-- An element that holds a name which does not begin like one is refused. -/
theorem stumbles {prefixes : Prefixes} (sound : prefixes.Sound) {element : Element}
    (formed : element.WellFormed) (covers : ∀ name ∈ element.names, prefixes.Covers name)
    (improper : ∃ name ∈ element.names, ¬ PlainName name.localPart.toList) :
    Stumbles prefixes element := by
  induction element using Element.induction with
  | step element inner =>
    obtain ⟨_, localPart, attributes, distinct, text, _, children⟩ := formed
    obtain ⟨nameCovers, attributeCovers, childCovers⟩ := Element.forall_mem_names.mp covers
    have tails (child : Element) (member : child ∈ element.children) : child.tail.WellFormed :=
      (children child member).tail
    intro declared declares
    have qualified := Prefixes.qualified_write sound nameCovers localPart
    obtain ⟨first, rest, written⟩ := qualified.eq_cons
    refine ⟨first, _, (written ▸ qualified).start, toList_written written declared,
      fun content unfinished undone => ?_⟩
    -- If the tag is read, the name is in one of the children.
    by_cases plain : ∀ given ∈ element.attributes, PlainName given.name.localPart.toList
    · have serves : Serves prefixes element.name element.attributes :=
        ⟨sound, nameCovers, localPart, attributeCovers, plain,
          fun given member none => ((attributes given member).unqualified none).2, distinct⟩
      have refused : ∃ child ∈ element.children, ∃ name ∈ child.names,
          ¬ PlainName name.localPart.toList := by
        by_contra proper
        have all : ∀ name ∈ element.names, PlainName name.localPart.toList :=
          Element.forall_mem_names.mpr ⟨localPart, plain, by simpa using proper⟩
        obtain ⟨name, member, improper⟩ := improper
        exact improper (all name member)
      have each : ∀ child ∈ element.children, Rereads prefixes child ∨ Stumbles prefixes child := by
        intro child member
        by_cases proper : ∀ name ∈ child.names, PlainName name.localPart.toList
        · refine .inl (rereads sound (children child member) fun name inName => ?_)
          exact ⟨childCovers child member name inName, proper name inName⟩
        · refine .inr (inner child member (children child member) (childCovers child member) ?_)
          simpa using proper
      have some' : ∃ child ∈ element.children, Stumbles prefixes child := by
        obtain ⟨child, member, improper⟩ := refused
        exact ⟨child, member,
          inner child member (children child member) (childCovers child member) improper⟩
      obtain ⟨frames, flushed⟩ := content.flush_eq
      rw [unfinished] at flushed
      have opening := leads_opening serves declares
        (fun given member => (attributes given member).value) unfinished written
      exact opening.fails (fails_closing each some' text tails undone unfinished
        (fun tag reads => reads.unclosed)
        fun tag reads start => serves.openElement declares undone flushed reads start)
    · refine Fails.append (fails_tag sound qualified attributeCovers attributes ?_ declares
        unfinished written) _
      simpa using plain

end Reader

end ScenarioTree.Xml
