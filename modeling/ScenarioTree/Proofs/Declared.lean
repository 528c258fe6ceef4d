/-
This file says what the document type may declare: entities whose text a document may hold, and
defaults that may be the values of attributes with qualified names. Of such a name only the prefix
need begin like a name, for the characters behind the colon of a declared name are not told apart.

A value is resolved to characters that a document may hold, whatever entities it refers to; this is
an induction on the depth of replacement.
-/

import ScenarioTree.Proofs.Token
import ScenarioTree.Xml.Doctype.Grammar

namespace ScenarioTree.Xml

/-! ### Runs of a fallible machine -/

section

variable {ε α β : Type}

theorem exists_of_bind {first : Except ε α} {next : α → Except ε β} {last : β}
    (done : first >>= next = .ok last) : ∃ value, first = .ok value ∧ next value = .ok last := by
  cases first with
  | error fault => cases done
  | ok value => exact ⟨value, rfl, done⟩

theorem ok_of_mapError {other : Type} {change : ε → other} {result : Except ε α} {value : α}
    (done : result.mapError change = .ok value) : result = .ok value := by
  cases result with
  | error fault => cases done
  | ok found => rw [Except.ok.inj done]

/-- What every step keeps is kept by a run. -/
theorem foldlM_keeps {step : β → α → Except ε β} {inputs : List α} {state last : β}
    (kept : β → Prop)
    (keeps : ∀ state input next, input ∈ inputs → kept state → step state input = .ok next →
      kept next)
    (before : kept state) (ran : inputs.foldlM step state = .ok last) : kept last := by
  induction inputs generalizing state with
  | nil =>
    obtain rfl := Except.ok.inj ran
    exact before
  | cons input rest induction =>
    rw [List.foldlM_cons] at ran
    obtain ⟨next, stepped, ran⟩ := exists_of_bind ran
    refine induction (fun state input next member => ?_)
      (keeps _ _ _ List.mem_cons_self before stepped) ran
    exact keeps state input next (List.mem_cons_of_mem _ member)

end

/-! ### What is declared -/

/-- Texts that a document may hold, and defaults of qualified names. -/
structure Declared.Sound (declared : Declared) : Prop where
  entities : ∀ entry ∈ declared.entities, ∀ text, entry.2 = .internal text → AllLegal text.toList
  names : ∀ entry ∈ declared.attributes, Qualified NameRest entry.2.name.toList
  values : ∀ entry ∈ declared.attributes, ∀ value, entry.2.value = some value →
    AllLegal value.toList

theorem Declared.sound_nothing : nothing.Sound := by
  constructor <;> simp [nothing]

theorem Declared.Sound.entity {declared : Declared} (sound : declared.Sound) {name text : String}
    (found : declared.entity? name = some (.internal text)) : AllLegal text.toList := by
  obtain ⟨before, behind, split, _⟩ := List.lookup_eq_some_iff.mp found
  exact sound.entities (name, .internal text) (by rw [split]; simp) text rfl

theorem Declared.Sound.addEntity {declared : Declared} (sound : declared.Sound) (name : String)
    {entity : Entity} (legal : ∀ text, entity = .internal text → AllLegal text.toList) :
    (declared.addEntity name entity).Sound := by
  rw [Declared.addEntity]
  split
  · exact sound
  · refine ⟨fun entry member => ?_, sound.names, sound.values⟩
    rcases List.mem_append.mp member with member | member
    · exact sound.entities entry member
    · obtain rfl := List.mem_singleton.mp member
      exact legal

theorem Declared.Sound.addAttribute {declared : Declared} (sound : declared.Sound)
    (element : String) {added : AttributeDefault} (identifier : Bool)
    (qualified : Qualified NameRest added.name.toList)
    (legal : ∀ value, added.value = some value → AllLegal value.toList) :
    (declared.addAttribute element added identifier).Sound := by
  rw [Declared.addAttribute]
  split
  · exact sound
  · refine ⟨sound.entities, fun entry member => ?_, fun entry member => ?_⟩
    · rcases List.mem_append.mp member with member | member
      · exact sound.names entry member
      · obtain rfl := List.mem_singleton.mp member
        exact qualified
    · rcases List.mem_append.mp member with member | member
      · exact sound.values entry member
      · obtain rfl := List.mem_singleton.mp member
        exact legal

/-! ### Values -/

namespace Declared

/-- A way to replace entities that adds only characters that a document may hold. -/
def ReplacesSoundly (replace : String → String → List Char → Except ValueFault (List Char)) :
    Prop :=
  ∀ name text before after, AllLegal text.toList → AllLegal before →
    replace name text before = .ok after → AllLegal after

theorem allLegal_addBlank {resolved : List Char} (legal : AllLegal resolved) (tokenized : Bool) :
    AllLegal (PendingValue.addBlank tokenized resolved) := by
  rw [PendingValue.addBlank]
  split
  · exact legal
  · exact allLegal_cons (by decide) legal

theorem allLegal_resolveReference {declared : Declared} (sound : declared.Sound) {tokenized : Bool}
    {opened : List String} {replace : String → String → List Char → Except ValueFault (List Char)}
    (replaces : ReplacesSoundly replace) {start : Position} {resolved after : List Char}
    {reference : Reference} (legal : AllLegal resolved)
    (done : declared.resolveReference tokenized opened replace start resolved reference =
      .ok after) : AllLegal after := by
  cases reference with
  | numbered number =>
    rw [resolveReference] at done
    split at done
    · cases done
    · obtain rfl := Except.ok.inj done
      exact allLegal_addBlank legal tokenized
    · next character found =>
      obtain rfl := Except.ok.inj done
      exact allLegal_cons (Reference.isLegal_of_characterOf? found) legal
  | named name =>
    rw [resolveReference] at done
    split at done
    · next character entity found =>
      obtain rfl := Except.ok.inj done
      exact allLegal_cons (Reference.isLegal_of_predefined? found) legal
    · split at done
      · cases done
      · obtain rfl := Except.ok.inj done
        exact legal
    · next entity _ found =>
      split at done
      · cases done
      · split at done
        · cases done
        · cases done
        · exact replaces _ _ _ _ (sound.entity found) legal done

theorem allLegal_stepValue {declared : Declared} (sound : declared.Sound) {tokenized : Bool}
    {opened : List String} {replace : String → String → List Char → Except ValueFault (List Char)}
    (replaces : ReplacesSoundly replace) {value next : PendingValue} {character : Char}
    (known : isLegal character) (legal : AllLegal value.resolved)
    (done : declared.stepValue tokenized opened replace value character = .ok next) :
    AllLegal next.resolved := by
  rw [stepValue] at done
  split at done
  · split at done
    · obtain rfl := Except.ok.inj done
      exact legal
    · obtain ⟨resolved, replaced, done⟩ := exists_of_bind done
      obtain rfl := Except.ok.inj done
      exact allLegal_resolveReference sound replaces legal replaced
    · cases done
  · split at done
    · obtain rfl := Except.ok.inj done
      exact legal
    · split at done
      · cases done
      · split at done
        · obtain rfl := Except.ok.inj done
          exact allLegal_addBlank legal tokenized
        · obtain rfl := Except.ok.inj done
          exact allLegal_cons known legal

/-- What a text is resolved to may stand in a document. -/
theorem allLegal_resolveWithin {declared : Declared} (sound : declared.Sound) {tokenized : Bool}
    {fuel : Nat} {opened : List String} {start : Position} {resolved text after : List Char}
    (known : AllLegal text) (legal : AllLegal resolved)
    (done : declared.resolveWithin tokenized fuel opened start resolved text = .ok after) :
    AllLegal after := by
  induction fuel generalizing opened resolved text after with
  | zero =>
    rw [resolveWithin] at done
    cases done
  | succ fuel induction =>
    rw [resolveWithin] at done
    obtain ⟨value, ran, done⟩ := exists_of_bind done
    have kept : AllLegal value.resolved := by
      refine foldlM_keeps (fun value => AllLegal value.resolved) ?_ legal ran
      intro value character next member legal stepped
      refine allLegal_stepValue sound ?_ (known character member) legal stepped
      intro name text before after textLegal legal replaced
      exact induction textLegal legal (ok_of_mapError replaced)
    split at done
    · cases done
    · obtain rfl := Except.ok.inj done
      exact kept

theorem allLegal_resolve {declared : Declared} (sound : declared.Sound) {tokenized : Bool}
    {opened : List String} {around start : Position} {text value : String}
    (known : AllLegal text.toList)
    (done : declared.resolve tokenized opened around start text = .ok value) :
    AllLegal value.toList := by
  rw [resolve] at done
  split at done
  · next resolved found =>
    obtain rfl := Except.ok.inj done
    have legal := allLegal_resolveWithin sound known (by simp [AllLegal]) found
    rw [String.toList_ofList, PendingValue.finish.eq_def]
    intro character member
    split at member
    · rw [List.mem_reverse] at member
      exact legal character (List.mem_cons_of_mem _ member)
    · exact legal character (List.mem_reverse.mp member)
  · cases done

end Declared

/-! ### Marks -/

namespace Doctype

/-- A mark whose literal may stand in a document, and whose word is what it is said to be. -/
def Mark.Sound : Mark → Prop
  | literal text => AllLegal text.toList
  | word .name text => PlainName text.toList
  | word .qualified text => Qualified NameRest text.toList
  | _ => True

/-- What has been seen of a mark is part of a sound one. -/
def Pending.Sound : Pending → Prop
  | literal _ seen => AllLegal seen
  | literalEnd text => AllLegal text.toList
  | word .name seen => PlainName seen.reverse
  | word .qualified seen => Qualified NameRest seen.reverse
  | colon seen => ∃ first, seen.reverse = first ++ [':'] ∧ PlainName first
  | _ => True

/-- Sound marks and sound parts of marks. -/
def Outcome.Sound : Outcome → Prop
  | more pending => pending.Sound
  | done mark => mark.Sound
  | before mark pending _ => mark.Sound ∧ pending.Sound
  | invalid _ => True

namespace Pending

theorem stepIdle_sound (here : Position) (character : Char) :
    (stepIdle here character).Sound := by
  rw [stepIdle.eq_def]
  repeat' split
  all_goals first
    | exact True.intro
    | exact fun _ member => absurd member List.not_mem_nil
    | exact ⟨‹_›, by simp⟩

theorem stepWord_sound (here : Position) (character : Char) {kind : WordKind} {seen : List Char}
    (sound : (word kind seen).Sound) : (stepWord here character kind seen).Sound := by
  have text : (textOf seen).toList = seen.reverse := String.toList_ofList
  have longer (part : isNamePart character) : (word kind (character :: seen)).Sound := by
    cases kind with
    | name =>
      rw [Pending.Sound, List.reverse_cons]
      exact PlainName.append sound (by simpa using part)
    | qualified =>
      rw [Pending.Sound, List.reverse_cons]
      exact Qualified.append sound part
    | other => trivial
  have ended : (Mark.word kind (textOf seen)).Sound := by
    cases kind with
    | name =>
      rw [Mark.Sound, text]
      exact sound
    | qualified =>
      rw [Mark.Sound, text]
      exact sound
    | other => trivial
  rw [stepWord.eq_def]
  split
  · next part => exact longer part
  · split
    · next colon =>
      obtain rfl := eq_of_beq colon
      split
      · exact ⟨seen.reverse, List.reverse_cons, sound⟩
      · trivial
    · split
      · exact ⟨ended, trivial⟩
      · split
        · split
          · trivial
          · trivial
        · trivial

/-- One more character keeps a mark sound. -/
theorem step_sound {pending : Pending} (sound : pending.Sound) (here : Position)
    (character : Char) : (pending.step here character).Sound := by
  cases pending with
  | idle => exact stepIdle_sound here character
  | word kind seen => exact stepWord_sound here character sound
  | colon seen =>
    obtain ⟨first, parted, plain⟩ := sound
    rw [step]
    split
    · next part =>
      have rest : NameRest [character] := ⟨by simp, by simpa using part⟩
      refine .parted ?_ plain rest
      rw [List.reverse_cons, parted, List.append_assoc]
      rfl
    · have sound : (Pending.word .other seen).Sound := trivial
      exact stepWord_sound here character sound
  | literal quote seen =>
    rw [step]
    split
    · intro other member
      rw [textOf, String.toList_ofList, List.mem_reverse] at member
      exact sound other member
    · split
      · next legal => exact allLegal_cons legal sound
      · trivial
  | literalEnd text =>
    rw [step]
    split
    · exact ⟨sound, trivial⟩
    · trivial
  | _ =>
    rw [step]
    repeat' split
    all_goals first
      | exact True.intro
      | exact ⟨True.intro, True.intro⟩

end Pending

/-! ### The texts of entities -/

theorem PendingText.allLegal_step {pending next : PendingText} {character : Char}
    (known : isLegal character) (legal : AllLegal pending.read ∧
      ∀ start reference seen, pending.reference = some (start, reference, seen) → AllLegal seen)
    (done : pending.step character = .ok next) :
    AllLegal next.read ∧
      ∀ start reference seen, next.reference = some (start, reference, seen) → AllLegal seen := by
  obtain ⟨read, inHand⟩ := legal
  rw [PendingText.step] at done
  split at done
  · next start reference seen found =>
    have seenLegal := inHand _ _ _ found
    split at done
    · cases done
    · obtain rfl := Except.ok.inj done
      refine ⟨read, fun _ _ _ same => ?_⟩
      cases same
      exact allLegal_cons known seenLegal
    · obtain rfl := Except.ok.inj done
      refine ⟨fun other member => ?_, fun _ _ _ same => by cases same⟩
      rw [List.cons_append] at member
      rcases List.mem_cons.mp member with rfl | member
      · exact known
      · rcases List.mem_append.mp member with member | member
        · exact seenLegal other member
        · exact read other member
    · split at done
      · next replaced found =>
        obtain rfl := Except.ok.inj done
        refine ⟨allLegal_cons (Reference.isLegal_of_characterOf? found) read, fun _ _ _ same => ?_⟩
        cases same
      · cases done
  · split at done
    · cases done
    · split at done
      · obtain rfl := Except.ok.inj done
        exact ⟨read, inHand⟩
      · cases done
  · split at done
    · obtain rfl := Except.ok.inj done
      refine ⟨read, fun _ _ _ same => ?_⟩
      cases same
      exact allLegal_cons known (by simp [AllLegal])
    · split at done
      · obtain rfl := Except.ok.inj done
        exact ⟨read, inHand⟩
      · obtain rfl := Except.ok.inj done
        exact ⟨allLegal_cons known read, inHand⟩

theorem allLegal_entityText {start : Position} {text value : String} (known : AllLegal text.toList)
    (done : entityText start text = .ok value) : AllLegal value.toList := by
  obtain ⟨pending, ran, done⟩ := exists_of_bind done
  have kept := foldlM_keeps (fun pending => AllLegal pending.read ∧
    ∀ start reference seen, pending.reference = some (start, reference, seen) → AllLegal seen)
      (fun _ _ _ member => PendingText.allLegal_step (known _ member))
      ⟨by simp [AllLegal], by simp⟩ ran
  split at done
  · cases done
  · cases done
  · obtain rfl := Except.ok.inj done
    intro character member
    rw [String.toList_ofList, List.mem_reverse] at member
    exact kept.1 character member

/-! ### The grammar -/

/-- The attribute that an expectation is about. -/
def Expectation.subject? : Expectation → Option AttributeSubject
  | attributeType subject | formatList subject | choiceItem subject _ | choiceNext subject _
  | attributeDefault subject _ _ | fixedDefault subject _ => some subject
  | _ => none

/-- Sound declarations, and a qualified name of the attribute that is being declared. -/
structure State.Sound (state : State) : Prop where
  declared : state.declared.Sound
  subject : ∀ subject, state.expected.subject? = some subject →
    Qualified NameRest subject.name.toList

namespace State

theorem sound_start : start.Sound :=
  ⟨Declared.sound_nothing, fun _ same => by cases same⟩

theorem subject?_afterType {subject found : AttributeSubject} {type : String}
    {expected : Expectation} (next : afterType subject type = some expected)
    (same : expected.subject? = some found) : found = subject := by
  rw [afterType] at next
  repeat' split at next
  all_goals
    cases next
    try exact (Option.some.inj same).symm

theorem subject?_afterKeyword {keyword : String} {expected : Expectation}
    (next : afterKeyword keyword = some expected) : expected.subject? = none := by
  rw [afterKeyword] at next
  repeat' split at next
  all_goals
    cases next
    try rfl

theorem subject?_afterConnector {used : Connector} {levels : List Connector}
    {expected : Expectation} (next : afterConnector used levels = some expected) :
    expected.subject? = none := by
  rw [afterConnector.eq_def] at next
  repeat' split at next
  all_goals
    cases next
    try rfl

theorem subject?_afterGroup (levels : List Connector) : (afterGroup levels).subject? = none := by
  rw [afterGroup.eq_def]
  split <;> rfl

/-- Where a mark leads on, the attribute stays the same or is named by the mark. -/
theorem subject?_route {expected next : Expectation} {mark : Mark} {subject : AttributeSubject}
    (routed : route expected mark = some next) (same : next.subject? = some subject) :
    expected.subject? = some subject ∨ mark = .word .name subject.name ∨
      mark = .word .qualified subject.name := by
  have known {other : Expectation} (routed : other.subject? = none) (leads : other = next) :
      expected.subject? = some subject ∨ mark = .word .name subject.name ∨
        mark = .word .qualified subject.name := by
    rw [← leads, routed] at same
    cases same
  rw [route.eq_def] at routed
  repeat' split at routed
  all_goals first
    | exact known rfl (Option.some.inj routed)
    | cases routed
    | exact known (subject?_afterKeyword routed) rfl
    | exact known (subject?_afterConnector routed) rfl
    | exact .inl (congrArg some (subject?_afterType routed same).symm)
  -- what is left keeps the attribute that it is about, or is the name of one
  all_goals first
    | exact .inl same
    | exact known (subject?_afterGroup _) rfl
    | (cases same; exact .inr (.inl rfl))
    | (cases same; exact .inr (.inr rfl))

/-- What a mark leads on to is as sound as the mark. -/
theorem Sound.route {state : State} (sound : state.Sound) {mark : Mark} (known : mark.Sound)
    {next : Expectation} (routed : State.route state.expected mark = some next) :
    (state.expect next).Sound := by
  refine ⟨sound.declared, fun subject same => ?_⟩
  rcases subject?_route routed same with kept | rfl | rfl
  · exact sound.subject subject kept
  · exact .plain known
  · exact known

theorem Sound.expect {state : State} (sound : state.Sound) {next : Expectation}
    (free : next.subject? = none) : (state.expect next).Sound :=
  ⟨sound.declared, fun subject same => by rw [State.expect, free] at same; cases same⟩

theorem Sound.external {state : State} (sound : state.Sound) (owner : Owner) {next : Expectation}
    (free : next.subject? = none) : (state.external owner next).Sound := by
  rw [State.external.eq_def]
  split
  · exact ⟨⟨sound.declared.entities, sound.declared.names, sound.declared.values⟩,
      (sound.expect free).subject⟩
  · exact sound.expect free

theorem Sound.entityValue {state next : State} (sound : state.Sound) {start : Position}
    {owner : Owner} {text : String} (legal : AllLegal text.toList)
    (done : state.entityValue start owner text = .ok next) : next.Sound := by
  rw [State.entityValue] at done
  split at done
  · obtain rfl := Except.ok.inj done
    exact sound.expect rfl
  · obtain ⟨value, read, done⟩ := exists_of_bind done
    split at done
    · obtain rfl := Except.ok.inj done
      refine ⟨sound.declared.addEntity _ ?_, fun subject same => by cases same⟩
      rintro text ⟨⟩
      exact allLegal_entityText legal read
    · obtain rfl := Except.ok.inj done
      exact sound.expect rfl

theorem Sound.addAttribute {state : State} (sound : state.Sound) {subject : AttributeSubject}
    (qualified : Qualified NameRest subject.name.toList) (tokenized identifier : Bool)
    {value : Option String} (legal : ∀ text, value = some text → AllLegal text.toList) :
    (state.addAttribute subject tokenized identifier value).Sound :=
  ⟨sound.declared.addAttribute subject.element identifier qualified legal,
    fun _ same => by cases same⟩

theorem Sound.defaultValue {state next : State} (sound : state.Sound) {start : Position}
    {subject : AttributeSubject} (qualified : Qualified NameRest subject.name.toList)
    {tokenized identifier : Bool} {text : String} (legal : AllLegal text.toList)
    (done : state.defaultValue start subject tokenized identifier text = .ok next) :
    next.Sound := by
  rw [State.defaultValue] at done
  split at done
  · obtain rfl := Except.ok.inj done
    exact sound.expect rfl
  · obtain ⟨value, resolved, done⟩ := exists_of_bind done
    obtain rfl := Except.ok.inj done
    refine sound.addAttribute qualified tokenized identifier ?_
    rintro text ⟨⟩
    exact Declared.allLegal_resolve sound.declared legal resolved

theorem Sound.declare {state next : State} (sound : state.Sound) {start : Position}
    {text : String} (done : state.declare start text = .ok next) : next.Sound := by
  rw [State.declare] at done
  split at done
  · obtain rfl := Except.ok.inj done
    exact ⟨⟨sound.declared.entities, sound.declared.names, sound.declared.values⟩,
      fun _ same => by cases same⟩
  · cases done

theorem Sound.publicIdentifier {state next : State} (sound : state.Sound) {start : Position}
    {owner : Owner} {text : String}
    (done : state.publicIdentifier start owner text = .ok next) : next.Sound := by
  rw [State.publicIdentifier] at done
  split at done
  · cases done
  · obtain rfl := Except.ok.inj done
    split
    · exact sound.external owner rfl
    · exact sound.external owner rfl

/-- A mark that declares nothing keeps the declarations sound. -/
theorem Sound.routed {state next : State} (sound : state.Sound) {start : Position} {mark : Mark}
    (known : mark.Sound)
    (done : (match State.route state.expected mark with
      | some expected => Except.ok (state.expect expected)
      | none => .error (unexpected start mark)) = .ok next) : next.Sound := by
  split at done
  · next found =>
    obtain rfl := Except.ok.inj done
    exact sound.route known found
  · cases done

/-- One more mark keeps the declarations sound. -/
theorem step_sound {state next : State} (sound : state.Sound) {start : Position} {mark : Mark}
    (known : mark.Sound) (done : state.step start mark = .ok next) : next.Sound := by
  have subject := sound.subject
  rw [step.eq_def] at done
  split at done
  case h_1 => exact sound.declare done
  case h_2 =>
    obtain rfl := Except.ok.inj done
    exact ⟨⟨sound.declared.entities, sound.declared.names, sound.declared.values⟩,
      fun _ same => by cases same⟩
  case h_3 => exact sound.publicIdentifier done
  case h_4 =>
    obtain rfl := Except.ok.inj done
    exact sound.expect rfl
  case h_5 =>
    obtain rfl := Except.ok.inj done
    exact sound.external _ rfl
  case h_6 => exact sound.entityValue known done
  case h_7 | h_8 =>
    obtain rfl := Except.ok.inj done
    refine ⟨sound.declared.addEntity _ ?_, fun _ same => by cases same⟩
    rintro text ⟨⟩
  case h_9 found =>
    rw [found] at subject
    split at done
    · obtain rfl := Except.ok.inj done
      exact sound.addAttribute (subject _ rfl) _ _ (fun _ same => by cases same)
    · exact sound.routed known done
  case h_10 found =>
    rw [found] at subject
    exact sound.defaultValue (subject _ rfl) known done
  case h_11 found =>
    rw [found] at subject
    exact sound.defaultValue (subject _ rfl) known done
  case h_12 => exact sound.routed known done

end State

end Doctype

end ScenarioTree.Xml
