/-
This file says what a tree that was read may hold: names that can be written again, namespaces that
can be declared again, and characters that may stand in a document. No two attributes of an element
have one name, and no notes are kept.

Every part of the reader keeps this. Where the text of an entity is read in between, it is kept by
induction on the depth of replacement.
-/

import ScenarioTree.Proofs.Declared
import ScenarioTree.Proofs.Place
import ScenarioTree.Xml.Reader

namespace ScenarioTree.Xml

/-! ### What trees may hold -/

/-- A namespace that can be declared. -/
structure Declarable (space : String) : Prop where
  legal : AllLegal space.toList
  unbraced : '\x7d' ∉ space.toList
  unreserved : space ≠ xmlnsSpace

/-- A run without notes. -/
structure Run.WellFormed (run : Run) : Prop where
  bare : run.notes = []
  legal : AllLegal run.text.toList

/-- An attribute that can be written, save that its name may not begin like one. -/
structure Attribute.WellFormed (given : Attribute) : Prop where
  space : Declarable given.name.space
  localPart : NameRest given.name.localPart.toList
  unqualified : given.name.space = "" →
    PlainName given.name.localPart.toList ∧ given.name.localPart ≠ "xmlns"
  value : AllLegal given.value.toList

/-- An element that can be written, and so can every element in it. -/
inductive Element.WellFormed : Element → Prop where
  | element {element : Element} (space : Declarable element.name.space)
      (localPart : PlainName element.name.localPart.toList)
      (attributes : ∀ given ∈ element.attributes, given.WellFormed)
      (distinct : (element.attributes.map Attribute.name).Nodup)
      (text : element.text.WellFormed) (tail : element.tail.WellFormed)
      (children : ∀ child ∈ element.children, child.WellFormed) : WellFormed element

theorem Element.WellFormed.tail {element : Element} (formed : element.WellFormed) :
    element.tail.WellFormed := by
  obtain ⟨_, _, _, _, _, tail, _⟩ := formed
  exact tail

theorem declarable_empty : Declarable "" := by
  constructor <;> simp [AllLegal, xmlnsSpace]

theorem declarable_xmlSpace : Declarable xmlSpace where
  legal := List.all_eq_true.mp (by decide : xmlSpace.toList.all isLegal = true)
  unbraced := by decide
  unreserved := by decide

theorem Run.wellFormed_empty : Run.empty.WellFormed where
  bare := rfl
  legal := by simp [Run.empty, AllLegal]

theorem Run.WellFormed.append {run : Run} (formed : run.WellFormed) {added : String}
    (legal : AllLegal added.toList) : (run.append added).WellFormed := by
  have result : run.append added = ⟨run.text ++ added, []⟩ := by
    rw [Run.append, formed.bare]
    rfl
  rw [result]
  refine ⟨rfl, fun character member => ?_⟩
  rw [String.toList_append] at member
  rcases List.mem_append.mp member with member | member
  · exact formed.legal character member
  · exact legal character member

/-! ### Namespaces -/

/-- A scope of namespaces that could be declared; only the default one may be none. -/
structure Scope.Sound (scope : Scope) : Prop where
  declarable : ∀ entry ∈ scope, Declarable entry.2
  bound : ∀ entry ∈ scope, entry.1 ≠ "" → entry.2 ≠ ""

namespace Scope

theorem sound_initial : initial.Sound := by
  constructor
  · intro entry member
    obtain rfl := List.mem_singleton.mp member
    exact declarable_xmlSpace
  · intro entry member _
    obtain rfl := List.mem_singleton.mp member
    decide

theorem mem_of_lookup {scope : Scope} {declared space : String}
    (found : scope.lookup declared = some space) : (declared, space) ∈ scope := by
  obtain ⟨before, behind, split, _⟩ := List.lookup_eq_some_iff.mp found
  rw [split]
  simp

theorem Sound.declare {scope next : Scope} (sound : scope.Sound) {declared space : String}
    (legal : AllLegal space.toList) (done : scope.declare declared space = .ok next) :
    next.Sound := by
  rw [Scope.declare] at done
  repeat' split at done
  all_goals cases done
  next undeclared _ unbraced misnamed _ reserved =>
    have unreserved : space ≠ xmlnsSpace := by
      rintro rfl
      by_cases named : declared = "xml"
      · subst named
        exact misnamed (by decide)
      · exact reserved (by simp [named])
    constructor
    · intro entry member
      rcases List.mem_cons.mp member with rfl | member
      · exact ⟨legal, by simpa using unbraced, unreserved⟩
      · exact sound.declarable entry member
    · intro entry member
      rcases List.mem_cons.mp member with rfl | member
      · rintro other rfl
        exact undeclared (by simp [other])
      · exact sound.bound entry member

/-- A plain name, which no declaration has. -/
theorem Sound.elementName {scope : Scope} (sound : scope.Sound) {written : String} {name : Name}
    (qualified : Qualified PlainName written.toList) (done : scope.elementName written = .ok name) :
    Declarable name.space ∧ PlainName name.localPart.toList := by
  rw [Scope.elementName] at done
  cases qualified with
  | plain plain =>
    rw [splitName_of_plain plain] at done
    obtain rfl := Except.ok.inj done
    refine ⟨?_, plain⟩
    simp only
    cases found : scope.lookup "" with
    | none => exact declarable_empty
    | some space => exact sound.declarable _ (mem_of_lookup found)
  | parted parted plain rest =>
    rw [splitName_of_parted parted plain] at done
    simp only at done
    split at done
    · next space found =>
      obtain rfl := Except.ok.inj done
      refine ⟨sound.declarable _ (mem_of_lookup found), ?_⟩
      rw [String.toList_ofList]
      exact rest
    · cases done

theorem Sound.attributeName {scope : Scope} (sound : scope.Sound) {written value : String}
    {name : Name} (qualified : Qualified NameRest written.toList)
    (undeclaring : declaredPrefix? written = none) (legal : AllLegal value.toList)
    (done : scope.attributeName written = .ok name) : (Attribute.mk name value).WellFormed := by
  rw [Scope.attributeName] at done
  cases qualified with
  | plain plain =>
    rw [splitName_of_plain plain] at done
    obtain rfl := Except.ok.inj done
    refine ⟨declarable_empty, plain.nameRest, fun _ => ⟨plain, ?_⟩, legal⟩
    rintro rfl
    cases undeclaring
  | @parted first last parted plain rest =>
    rw [splitName_of_parted parted plain] at done
    simp only at done
    split at done
    · next space found =>
      obtain rfl := Except.ok.inj done
      have member := mem_of_lookup found
      refine ⟨sound.declarable _ member, ?_, fun none => ?_, legal⟩
      · rw [String.toList_ofList]
        exact rest
      · refine absurd none (sound.bound _ member fun empty => ?_)
        have empty : first = [] := by simpa using congrArg String.toList empty
        rw [empty] at plain
        exact plain
    · cases done

/-- The attributes of a tag are well formed and have different names. -/
theorem Sound.attributes {scope : Scope} (sound : scope.Sound) {written : List (String × String)}
    {attributes : List Attribute}
    (known : ∀ given ∈ written, Qualified NameRest given.1.toList ∧
      declaredPrefix? given.1 = none ∧ AllLegal given.2.toList)
    (done : scope.attributes written = .ok attributes) :
    (∀ given ∈ attributes, given.WellFormed) ∧ (attributes.map Attribute.name).Nodup := by
  refine foldlM_keeps (fun named : List Attribute =>
    (∀ given ∈ named, given.WellFormed) ∧ (named.map Attribute.name).Nodup) ?_ (by simp) done
  intro named given next member ⟨formed, distinct⟩ added
  obtain ⟨qualified, undeclaring, legal⟩ := known given member
  obtain ⟨name, found, added⟩ := exists_of_bind added
  split at added
  · cases added
  · next fresh =>
    obtain rfl := Except.ok.inj added
    constructor
    · intro other member
      rcases List.mem_append.mp member with member | member
      · exact formed other member
      · obtain rfl := List.mem_singleton.mp member
        exact sound.attributeName qualified undeclaring legal found
    · rw [List.map_append, List.map_singleton, List.nodup_append]
      refine ⟨distinct, List.pairwise_singleton _ _, fun other member last same => ?_⟩
      obtain rfl := List.mem_singleton.mp same
      rintro rfl
      obtain ⟨earlier, member, same⟩ := List.mem_map.mp member
      exact fresh (List.any_eq_true.mpr ⟨earlier, member, by simpa using same⟩)

end Scope

/-! ### Attributes of a tag -/

/-- Declarations that could be made, and other attributes with qualified names. -/
structure PendingAttributes.Sound (pending : PendingAttributes) : Prop where
  scope : pending.scope.Sound
  written : ∀ given ∈ pending.written, Qualified NameRest given.1.toList ∧
    declaredPrefix? given.1 = none ∧ AllLegal given.2.toList

namespace PendingAttributes

theorem Sound.add {pending next : PendingAttributes} (sound : pending.Sound) {name value : String}
    (qualified : Qualified NameRest name.toList) (legal : AllLegal value.toList)
    (done : pending.add name value = .ok next) : next.Sound := by
  rw [PendingAttributes.add] at done
  split at done
  · obtain ⟨scope, declared, done⟩ := exists_of_bind done
    obtain rfl := Except.ok.inj done
    exact ⟨sound.scope.declare legal declared, sound.written⟩
  · next undeclaring =>
    obtain rfl := Except.ok.inj done
    refine ⟨sound.scope, fun given member => ?_⟩
    rcases List.mem_append.mp member with member | member
    · exact sound.written given member
    · obtain rfl := List.mem_singleton.mp member
      exact ⟨qualified, undeclaring, legal⟩

theorem Sound.addRaw {pending next : PendingAttributes} (sound : pending.Sound)
    {declared : Declared} (known : declared.Sound) {opened : List String} {around : Position}
    {element : String} {raw : RawAttribute} (rawSound : raw.Sound)
    (done : pending.addRaw declared opened around element raw = .ok next) : next.Sound := by
  rw [PendingAttributes.addRaw] at done
  split at done
  · cases done
  · obtain ⟨value, resolved, done⟩ := exists_of_bind done
    exact sound.add (rawSound.name.weaken fun _ => PlainName.nameRest)
      (Declared.allLegal_resolve known rawSound.value resolved) (ok_of_mapError done)

theorem Sound.addDefault {pending next : PendingAttributes} (sound : pending.Sound)
    {declared : AttributeDefault} (qualified : Qualified NameRest declared.name.toList)
    (legal : ∀ value, declared.value = some value → AllLegal value.toList)
    (done : pending.addDefault declared = .ok next) : next.Sound := by
  rw [PendingAttributes.addDefault] at done
  split at done
  · next value given =>
    split at done
    · obtain rfl := Except.ok.inj done
      exact sound
    · exact sound.add qualified (legal value given) done
  · obtain rfl := Except.ok.inj done
    exact sound

end PendingAttributes

/-! ### The tree so far -/

/-- An open element that can be written once it is closed. -/
structure Frame.WellFormed (frame : Frame) : Prop where
  scope : frame.scope.Sound
  closed : frame.close.WellFormed

/-- Waiting characters that a document may hold, and elements that can be written. -/
structure Content.WellFormed (content : Content) : Prop where
  buffer : AllLegal content.buffer
  frames : ∀ frame ∈ content.frames, frame.WellFormed
  root : ∀ root, content.root = some root → root.WellFormed

namespace Frame

theorem WellFormed.mapRun {frame : Frame} (formed : frame.WellFormed) {change : Run → Run}
    (changes : ∀ run : Run, run.WellFormed → (change run).WellFormed) :
    (frame.mapRun change).WellFormed := by
  obtain ⟨space, localPart, attributes, distinct, text, tail, children⟩ := formed.closed
  rw [Frame.mapRun]
  split
  · exact ⟨formed.scope, space, localPart, attributes, distinct, changes _ text, tail, children⟩
  · next newest older known =>
    refine ⟨formed.scope, space, localPart, attributes, distinct, text, tail, ?_⟩
    intro child member
    rw [close, known] at children
    simp only [close, List.reverse_cons, List.mem_append, List.mem_singleton] at member children
    rcases member with member | rfl
    · exact children child (.inl member)
    · obtain ⟨space, localPart, attributes, distinct, text, tail, inner⟩ :=
        children newest (.inr rfl)
      exact ⟨space, localPart, attributes, distinct, text, changes _ tail, inner⟩

theorem WellFormed.addChild {frame : Frame} (formed : frame.WellFormed) {child : Element}
    (childFormed : child.WellFormed) :
    ({ frame with children := child :: frame.children } : Frame).WellFormed := by
  obtain ⟨space, localPart, attributes, distinct, text, tail, children⟩ := formed.closed
  refine ⟨formed.scope, space, localPart, attributes, distinct, text, tail, ?_⟩
  intro other member
  simp only [close, List.reverse_cons, List.mem_append, List.mem_singleton] at member
  rcases member with member | rfl
  · exact children other member
  · exact childFormed

end Frame

namespace Content

theorem wellFormed_start : start.WellFormed := by
  constructor <;> simp [start, AllLegal]

theorem WellFormed.flush {content : Content} (formed : content.WellFormed) :
    content.flush.WellFormed := by
  rw [Content.flush]
  split
  · exact formed
  · have legal : AllLegal (String.ofList content.buffer.reverse).toList := by
      intro character member
      rw [String.toList_ofList, List.mem_reverse] at member
      exact formed.buffer character member
    obtain ⟨buffer, frames, root⟩ := content
    cases frames with
    | nil => exact ⟨by simp [AllLegal], by simp [mapFrame], formed.root⟩
    | cons frame outer =>
      refine ⟨by simp [AllLegal], fun other member => ?_, formed.root⟩
      rcases List.mem_cons.mp member with rfl | member
      · exact (formed.frames frame List.mem_cons_self).mapRun fun run known => known.append legal
      · exact formed.frames other (List.mem_cons_of_mem _ member)

theorem WellFormed.push {content : Content} (formed : content.WellFormed) {character : Char}
    (legal : isLegal character) : (content.push character).WellFormed :=
  ⟨allLegal_cons legal formed.buffer, formed.frames, formed.root⟩

theorem WellFormed.closeFrame {content : Content} (formed : content.WellFormed) :
    content.closeFrame.WellFormed := by
  have flushed := formed.flush.frames
  rw [Content.closeFrame]
  split
  · exact formed
  · next frame found =>
    rw [found] at flushed
    refine ⟨by simp [AllLegal], by simp, ?_⟩
    rintro root ⟨⟩
    exact (flushed frame List.mem_cons_self).closed
  · next frame outer rest found =>
    rw [found] at flushed
    refine ⟨by simp [AllLegal], fun other member => ?_, formed.root⟩
    rcases List.mem_cons.mp member with rfl | member
    · exact (flushed outer (by simp)).addChild (flushed frame List.mem_cons_self).closed
    · exact flushed other (by simp [member])

theorem sound_scope {content : Content} (formed : content.WellFormed) : content.scope.Sound := by
  rw [scope]
  split
  · exact Scope.sound_initial
  · next frame outer found =>
    exact (formed.frames frame (by rw [found]; exact List.mem_cons_self)).scope

theorem WellFormed.openElement {content next : Content} (formed : content.WellFormed)
    {declared : Declared} (known : declared.Sound) {opened : List String} {around : Position}
    {tag : RawTag} (sound : tag.Sound)
    (done : content.openElement declared opened around tag = .ok next) : next.WellFormed := by
  rw [Content.openElement] at done
  obtain ⟨written, ran, done⟩ := exists_of_bind done
  have writtenSound : written.Sound := by
    refine foldlM_keeps PendingAttributes.Sound ?_ ⟨sound_scope formed, by simp⟩ ran
    exact fun pending raw next member before added =>
      before.addRaw known (sound.attributes raw member) added
  obtain ⟨frame, made, done⟩ := exists_of_bind done
  obtain rfl := Except.ok.inj done
  obtain ⟨pending, ran, made⟩ := exists_of_bind (ok_of_mapError made)
  have pendingSound : pending.Sound := by
    refine foldlM_keeps PendingAttributes.Sound ?_ writtenSound ran
    intro pending default next member before added
    obtain ⟨entry, entryMember, rfl⟩ := List.mem_map.mp member
    have entryMember := (List.mem_filter.mp entryMember).1
    exact before.addDefault (known.names entry entryMember) (known.values entry entryMember) added
  obtain ⟨attributes, attributesFound, made⟩ := exists_of_bind made
  obtain ⟨name, nameFound, made⟩ := exists_of_bind made
  obtain rfl := Except.ok.inj made
  obtain ⟨attributesFormed, distinct⟩ :=
    pendingSound.scope.attributes pendingSound.written attributesFound
  obtain ⟨space, localPart⟩ := pendingSound.scope.elementName sound.name nameFound
  refine ⟨formed.flush.buffer, fun other member => ?_, formed.flush.root⟩
  rcases List.mem_cons.mp member with rfl | member
  · exact ⟨pendingSound.scope, space, localPart, attributesFormed, distinct, Run.wellFormed_empty,
      Run.wellFormed_empty, by simp [Frame.close]⟩
  · exact formed.flush.frames other member

/-- A way to replace entities that keeps trees well formed. -/
def ReplacesWell (replace : Replacement) : Prop :=
  ∀ name text before after, before.WellFormed → replace name text before = .ok after →
    after.WellFormed

theorem WellFormed.addReference {content next : Content} (formed : content.WellFormed)
    {setting : Setting} {opened : List String} {replace : Replacement}
    (replaces : ReplacesWell replace) {reference : Reference}
    (done : content.addReference setting opened replace reference = .ok next) :
    next.WellFormed := by
  cases reference with
  | numbered number =>
    rw [Content.addReference] at done
    split at done
    · next character found =>
      obtain rfl := Except.ok.inj done
      exact formed.push (Reference.isLegal_of_characterOf? found)
    · cases done
  | named name =>
    rw [Content.addReference] at done
    split at done
    · next character entity found =>
      obtain rfl := Except.ok.inj done
      exact formed.push (Reference.isLegal_of_predefined? found)
    · cases done
    · split at done
      · cases done
      · split at done
        · cases done
        · cases done
        · exact replaces _ _ _ _ formed done

/-- One more token keeps the tree well formed, if notes are not kept. -/
theorem WellFormed.addToken {content next : Content} (formed : content.WellFormed)
    {declared : Declared} (known : declared.Sound) {opened : List String} {floor : Nat}
    {replace : Replacement} (replaces : ReplacesWell replace) {start : Position} {token : Token}
    (sound : token.Sound)
    (done : content.addToken ⟨declared, false⟩ opened floor replace start token = .ok next) :
    next.WellFormed := by
  cases token with
  | character character =>
    obtain rfl := Except.ok.inj done
    exact formed.push sound
  | reference reference => exact formed.addReference replaces (ok_of_mapError done)
  | startTag tag =>
    obtain ⟨opened, added, done⟩ := exists_of_bind done
    obtain rfl := Except.ok.inj done
    have openedFormed := formed.openElement known sound added
    split
    · exact openedFormed.closeFrame
    · exact openedFormed
  | endTag name position =>
    rw [Content.addToken, closeElement] at done
    split at done
    · cases done
    · split at done
      · cases done
      · split at done
        · obtain rfl := Except.ok.inj done
          exact formed.closeFrame
        · cases done
  | remark remark =>
    rw [Content.addToken] at done
    split at done
    · cases done
    · obtain rfl := Except.ok.inj done
      exact formed

end Content

/-! ### Reading -/

/-- Content that is being read, with a sound lexeme. -/
structure Scan.WellFormed (scan : Scan) : Prop where
  lexeme : scan.lexeme.Sound
  content : scan.content.WellFormed

namespace Scan

open Content (ReplacesWell Replacement)

/-- A way to go on that keeps lexemes sound and completes sound tokens. -/
def Lexical.Sound (lexical : Lexical) : Prop :=
  ∀ {lexeme : Lexeme}, lexeme.Sound → ∀ start here character,
    Lexeme.SoundResult (lexical start here character lexeme)

theorem WellFormed.step {scan next : Scan} (formed : scan.WellFormed) {lexical : Lexical}
    (sound : lexical.Sound) {declared : Declared} (known : declared.Sound) {opened : List String}
    {floor : Nat} {replace : Replacement} (replaces : ReplacesWell replace) {character : Char}
    (done : scan.step lexical ⟨declared, false⟩ opened floor replace character = .ok next) :
    next.WellFormed := by
  rw [Scan.step] at done
  have result := sound formed.lexeme
    (if scan.lexeme.isIdle then scan.here else scan.start) scan.here character
  split at done
  · cases done
  · next lexeme tokens stepped =>
    rw [stepped] at result
    obtain ⟨content, ran, done⟩ := exists_of_bind done
    obtain rfl := Except.ok.inj done
    refine ⟨result.1, foldlM_keeps Content.WellFormed ?_ formed.content ran⟩
    exact fun content token next member before added =>
      before.addToken known replaces (result.2 token member) added

/-- Replacing an entity keeps the tree well formed, however deep it goes. -/
theorem replacesWell_replaceEntity {declared : Declared} (known : declared.Sound) (fuel : Nat)
    (opened : List String) : ReplacesWell (replaceEntity ⟨declared, false⟩ fuel opened) := by
  induction fuel generalizing opened with
  | zero =>
    intro name text before after _ done
    cases done
  | succ fuel induction =>
    intro name text before after formed done
    rw [replaceEntity] at done
    obtain ⟨scan, ran, done⟩ := exists_of_bind done
    have started : Scan.WellFormed ⟨.text 0, {}, {}, before⟩ := ⟨trivial, formed⟩
    have scanned : scan.WellFormed := by
      refine foldlM_keeps Scan.WellFormed ?_ started (ok_of_mapError ran)
      exact fun scan character next _ before stepped =>
        before.step Lexeme.stepReplacement_sound known (induction _) stepped
    split at done
    · cases done
    · split at done
      · obtain rfl := Except.ok.inj done
        exact scanned.content
      · cases done

theorem WellFormed.advance {scan next : Scan} (formed : scan.WellFormed) {declared : Declared}
    (known : declared.Sound) {character : Char}
    (done : scan.advance ⟨declared, false⟩ character = .ok next) : next.WellFormed :=
  formed.step Lexeme.step_sound known (replacesWell_replaceEntity known _ _) done

end Scan

namespace Reader

/-- At every stage what was read is sound. -/
def WellFormed (reader : Reader) : Prop :=
  match reader.stage with
  | .prolog pending state => pending.Sound ∧ state.Sound
  | .content declared scan => declared.Sound ∧ scan.WellFormed
  | .epilog _ root => root.WellFormed

theorem wellFormed_stepProlog {here : Position} {character : Char} {limit : Nat}
    {pending : Doctype.Pending} {state : Doctype.State} {start : Position} {next : Reader}
    (sound : pending.Sound) (known : state.Sound)
    (done : stepProlog false here character limit pending state start = .ok next) :
    next.WellFormed := by
  induction limit generalizing pending state start with
  | zero => cases done
  | succ limit induction =>
    rw [stepProlog] at done
    have outcome := Doctype.Pending.step_sound sound here character
    split at done
    · next more =>
      rw [more] at outcome
      obtain rfl := Except.ok.inj done
      exact ⟨outcome, known⟩
    · cases done
    · split at done
      · obtain ⟨scan, advanced, done⟩ := exists_of_bind done
        obtain rfl := Except.ok.inj done
        have angle : Scan.WellFormed
            ⟨.angle, if pending = .idle then here else start, here, .start⟩ :=
          ⟨trivial, Content.wellFormed_start⟩
        exact ⟨known.declared, angle.advance known.declared advanced⟩
      · cases done
    · next mark _ found =>
      rw [found] at outcome
      obtain ⟨next, stepped, done⟩ := exists_of_bind done
      obtain rfl := Except.ok.inj done
      exact ⟨trivial, Doctype.State.step_sound known outcome stepped⟩
    · next mark rest position found =>
      rw [found] at outcome
      obtain ⟨next, stepped, done⟩ := exists_of_bind done
      exact induction outcome.2 (Doctype.State.step_sound known outcome.1 stepped) done

/-- One more character keeps what was read sound. -/
theorem WellFormed.step {reader next : Reader} (formed : reader.WellFormed) {character : Char}
    (done : reader.step false character = .ok next) : next.WellFormed := by
  obtain ⟨stage, start, here⟩ := reader
  cases stage with
  | prolog pending state => exact wellFormed_stepProlog formed.1 formed.2 done
  | content declared scan =>
    obtain ⟨known, scanFormed⟩ := formed
    obtain ⟨scan, advanced, done⟩ := exists_of_bind done
    have advancedFormed := scanFormed.advance known advanced
    split at done
    · next root found =>
      obtain rfl := Except.ok.inj done
      exact advancedFormed.content.root root found
    · obtain rfl := Except.ok.inj done
      exact ⟨known, advancedFormed⟩
  | epilog pending root =>
    have formed : root.WellFormed := formed
    simp only [Reader.step, stepEpilog] at done
    repeat' split at done
    all_goals
      cases done
      try exact formed

/-- The root of every source can be written. -/
theorem wellFormed_of_run {here : Position} {source characters : List Char} {root : Element}
    (done : run false here source characters = .ok root) : root.WellFormed := by
  obtain ⟨reader, ran, done⟩ := exists_of_bind done
  have started : (initial here).WellFormed := ⟨trivial, Doctype.State.sound_start⟩
  have formed : reader.WellFormed :=
    foldlM_keeps WellFormed (fun _ _ _ _ before stepped => before.step stepped)
      started ran
  obtain ⟨stage, start, here⟩ := reader
  cases stage with
  | prolog pending state =>
    simp only [finish] at done
    split at done
    · cases done
    · cases done
    · obtain ⟨next, _, done⟩ := exists_of_bind done
      cases done
  | content declared scan => cases done
  | epilog pending found =>
    simp only [finish] at done
    split at done
    · obtain rfl := Except.ok.inj done
      exact formed
    · cases done
    · cases done

end Reader

/-- What is read from a source is well formed, and so is every element in it. -/
theorem wellFormed_of_read {source : String} {root : Element}
    (done : read false source = .ok root) : root.WellFormed := by
  rw [read] at done
  split at done
  · exact Reader.wellFormed_of_run done
  · exact Reader.wellFormed_of_run done

theorem Element.WellFormed.at? {root found : Element} (formed : root.WellFormed) {place : Place}
    (stands : root.at? place = some found) : found.WellFormed := by
  induction place generalizing root with
  | nil =>
    obtain rfl := Option.some.inj stands
    exact formed
  | cons index rest induction =>
    rw [Element.at?] at stands
    obtain ⟨child, taken, stands⟩ := Option.bind_eq_some_iff.mp stands
    obtain ⟨_, _, _, _, _, _, children⟩ := formed
    exact induction (children child (List.mem_of_getElem? taken)) stands

end ScenarioTree.Xml
