/-
This file follows the reader through markup that needs no declarations. Where a reader stands inside
of the root element is described by what is known of its lexeme and by the tree so far; pieces of
markup lead from one such description to the next, and pieces that meet are put together.

Places are not described, since they only matter where something is wrong.
-/

import ScenarioTree.Proofs.WellFormed

namespace ScenarioTree.Xml

/-! ### References -/

namespace Reference

/-- The reference that some characters make behind an ampersand, if they make just one. -/
def Pending.read (pending : Pending) : List Char → Option Reference
  | [] => none
  | character :: rest =>
    match pending.step character with
    | .more next => read next rest
    | .done found => if rest.isEmpty then some found else none
    | .invalid => none

/-- Whether a reference stands for a character in every document. -/
def StandsFor (character : Char) : Reference → Prop
  | .numbered number => characterOf? number = some character
  | .named name => predefined? name = some character

end Reference

/-- A character as it is, or a reference to it. -/
inductive Spelled (character : Char) (harmless : Prop) : List Char → Prop where
  | itself (free : harmless) : Spelled character harmless [character]
  | reference {name : List Char} {reference : Reference}
      (read : Reference.Pending.opened.read name = some reference)
      (stands : reference.StandsFor character) : Spelled character harmless ('&' :: name)

/-- The characters that do not stand for themselves in a text. -/
def textReferences : List (Char × List Char) :=
  [('&', "&amp;".toList), ('<', "&lt;".toList), ('>', "&gt;".toList)]

/-- In a text a character stands for itself or is one of the others. -/
theorem escapedInText_cases (character : Char) :
    (character ≠ '&' ∧ character ≠ '<' ∧ character ≠ '>') ∧
        (escapedInText character).toList = [character] ∨
      (character, (escapedInText character).toList) ∈ textReferences := by
  rw [escapedInText.eq_def]
  split
  · exact .inr (by decide)
  · exact .inr (by decide)
  · exact .inr (by decide)
  · next ampersand less greater =>
    exact .inl ⟨⟨ampersand, less, greater⟩, String.toList_singleton character⟩

/-- A text spells out the characters that markup begins and ends with. -/
theorem spelled_escapedInText (character : Char) :
    Spelled character (character ≠ '&' ∧ character ≠ '<' ∧ character ≠ '>')
      (escapedInText character).toList := by
  rcases escapedInText_cases character with ⟨free, written⟩ | member
  · rw [written]
    exact .itself free
  · generalize (escapedInText character).toList = written at member
    simp only [textReferences, List.mem_cons, Prod.mk.injEq, List.not_mem_nil, or_false] at member
    rcases member with ⟨rfl, rfl⟩ | ⟨rfl, rfl⟩ | ⟨rfl, rfl⟩
    · exact @Spelled.reference _ _ "amp;".toList (.named "amp") rfl rfl
    · exact @Spelled.reference _ _ "lt;".toList (.named "lt") rfl rfl
    · exact @Spelled.reference _ _ "gt;".toList (.named "gt") rfl rfl

/-- A value also spells out its quote and the blanks that would not stay what they are. -/
theorem spelled_escapedInValue (character : Char) :
    Spelled character (character ≠ '&' ∧ character ≠ '<' ∧ character ≠ '"' ∧
        (isSpace character → character = ' '))
      (escapedInValue character).toList := by
  rw [escapedInValue.eq_def]
  split
  · exact @Spelled.reference _ _ "quot;".toList (.named "quot") rfl rfl
  · exact @Spelled.reference _ _ "#13;".toList (.numbered 13) rfl rfl
  · exact @Spelled.reference _ _ "#10;".toList (.numbered 10) rfl rfl
  · exact @Spelled.reference _ _ "#09;".toList (.numbered 9) rfl rfl
  · next quote carriage feed tab =>
    have spelled := spelled_escapedInText character
    generalize (escapedInText character).toList = written at spelled
    cases spelled with
    | itself free =>
      refine .itself ⟨free.1, free.2.1, quote, fun space => ?_⟩
      simp only [isSpace, Bool.or_eq_true, beq_iff_eq] at space
      rcases space with ((blank | tabbed) | fed) | returned
      · exact blank
      · exact (tab tabbed).elim
      · exact (feed fed).elim
      · exact (carriage returned).elim
    | reference read stands => exact .reference read stands

/-! ### Leading from one description to another -/

namespace Reader

theorem foldlM_append_of_ok {first : List Char} {reader next : Reader}
    (ran : first.foldlM (step false) reader = .ok next) (second : List Char) :
    (first ++ second).foldlM (step false) reader = second.foldlM (step false) next := by
  rw [List.foldlM_append, ran]
  rfl

theorem foldlM_append_of_error {first : List Char} {reader : Reader} {fault : Fault}
    (failed : first.foldlM (step false) reader = .error fault) (second : List Char) :
    (first ++ second).foldlM (step false) reader = .error fault := by
  rw [List.foldlM_append, failed]
  rfl

/-- From every reader that answers to the first description, the characters lead to one that answers
to the second. -/
def Leads (before : Reader → Prop) (characters : List Char) (after : Reader → Prop) : Prop :=
  ∀ reader, before reader → ∃ next, characters.foldlM (step false) reader = .ok next ∧ after next

variable {before between after : Reader → Prop}

theorem Leads.nil (weaker : ∀ reader, before reader → after reader) : Leads before [] after :=
  fun reader known => ⟨reader, rfl, weaker reader known⟩

theorem Leads.append {first second : List Char} (leads : Leads before first between)
    (onward : Leads between second after) : Leads before (first ++ second) after := by
  intro reader known
  obtain ⟨middle, ran, reached⟩ := leads reader known
  obtain ⟨last, ranOn, arrived⟩ := onward middle reached
  exact ⟨last, (foldlM_append_of_ok ran second).trans ranOn, arrived⟩

theorem Leads.cons {character : Char} {rest : List Char} (leads : Leads before [character] between)
    (onward : Leads between rest after) : Leads before (character :: rest) after :=
  leads.append onward

theorem Leads.weaken {characters : List Char} {other : Reader → Prop}
    (leads : Leads before characters after) (weaker : ∀ reader, after reader → other reader) :
    Leads before characters other := by
  intro reader known
  obtain ⟨last, ran, arrived⟩ := leads reader known
  exact ⟨last, ran, weaker last arrived⟩

/-! ### Inside of the root element -/

/-- Nothing is declared, and no notes are kept. -/
abbrev plainly : Content.Setting := ⟨.nothing, false⟩

/-- Whether a reader has come to a tree, with a lexeme of which something is known; behind the root
there is no lexeme any more. -/
def At (known : Lexeme → Prop) (content : Content) (reader : Reader) : Prop :=
  match content.root with
  | some root => reader.stage = .epilog .idle root
  | none => ∃ scan, reader.stage = .content .nothing scan ∧ known scan.lexeme ∧
      scan.content = content

theorem At.weaken {known other : Lexeme → Prop} {content : Content} {reader : Reader}
    (at' : reader.At known content) (weaker : ∀ lexeme, known lexeme → other lexeme) :
    reader.At other content := by
  rw [At] at at' ⊢
  split at at'
  · exact at'
  · obtain ⟨scan, stage, lexeme, same⟩ := at'
    exact ⟨scan, stage, weaker _ lexeme, same⟩

variable {known next : Lexeme → Prop} {content : Content}

/-- Inside of the root element a character is for the scan. -/
theorem step_content (scan : Scan) (start here : Position) (character : Char) :
    step false ⟨.content .nothing scan, start, here⟩ character =
      (scan.advance plainly character).bind fun scan =>
        match scan.content.root with
        | some root => .ok ⟨.epilog .idle root, scan.start, scan.here⟩
        | none => .ok ⟨.content .nothing scan, scan.start, scan.here⟩ :=
  rfl

/-- One character leads on if it completes the tokens that change the tree. -/
theorem leads_tokens {changed : Content} {character : Char} (unfinished : content.root = none)
    (steps : ∀ lexeme, known lexeme → ∀ start here, ∃ onward tokens,
      lexeme.step start here character = .ok (onward, tokens) ∧ next onward ∧
        ∀ replace, tokens.foldlM (Content.addToken plainly [] 0 replace start) content =
          .ok changed) :
    Leads (At known content) [character] (At next changed) := by
  rintro ⟨stage, start, here⟩ reached
  rw [At, unfinished] at reached
  obtain ⟨scan, rfl, lexeme, rfl⟩ := reached
  obtain ⟨onward, tokens, stepped, onwardKnown, added⟩ := steps _ lexeme
    (if scan.lexeme.isIdle then scan.here else scan.start) scan.here
  let advanced : Scan :=
    ⟨onward, if scan.lexeme.isIdle then scan.here else scan.start, scan.here.after character,
      changed⟩
  have advances : scan.advance plainly character = .ok advanced := by
    rw [Scan.advance, Scan.step]
    simp only [stepped, added]
    rfl
  have ran : [character].foldlM (step false) ⟨.content .nothing scan, start, here⟩ =
      match changed.root with
      | some root => .ok ⟨.epilog .idle root, advanced.start, advanced.here⟩
      | none => .ok ⟨.content .nothing advanced, advanced.start, advanced.here⟩ := by
    rw [List.foldlM_cons, step_content, advances]
    simp only [Except.bind, advanced]
    cases changed.root <;> rfl
  cases finished : changed.root with
  | some root =>
    rw [finished] at ran
    exact ⟨_, ran, by rw [At, finished]⟩
  | none =>
    rw [finished] at ran
    refine ⟨_, ran, ?_⟩
    rw [At, finished]
    exact ⟨advanced, rfl, onwardKnown, rfl⟩

/-- One character leads on within the same tree if it completes no token. -/
theorem leads_silently {character : Char} (unfinished : content.root = none)
    (steps : ∀ lexeme, known lexeme → ∀ start here, ∃ onward,
      lexeme.step start here character = .ok (onward, []) ∧ next onward) :
    Leads (At known content) [character] (At next content) := by
  refine leads_tokens unfinished fun lexeme lexemeKnown start here => ?_
  obtain ⟨onward, stepped, onwardKnown⟩ := steps lexeme lexemeKnown start here
  exact ⟨onward, [], stepped, onwardKnown, fun _ => rfl⟩

/-! ### Text -/

/-- Outside of markup. -/
def InText (lexeme : Lexeme) : Prop :=
  ∃ brackets, lexeme = .text brackets

/-- A tag, a remark or a section begins. -/
theorem leads_less (unfinished : content.root = none) :
    Leads (At InText content) ['<'] (At (· = .angle) content) := by
  refine leads_silently unfinished ?_
  rintro _ ⟨brackets, rfl⟩ start here
  exact ⟨_, rfl, rfl⟩

theorem leads_to_reference (unfinished : content.root = none) {pending : Reference.Pending}
    {characters : List Char} {reference : Reference} {character : Char}
    (read : pending.read characters = some reference) (stands : reference.StandsFor character) :
    Leads (At (· = .reference pending) content) characters
      (At InText (content.push character)) := by
  have added (replace : Content.Replacement) (start : Position) :
      content.addToken plainly [] 0 replace start (.reference reference) =
        .ok (content.push character) := by
    rw [Content.addToken]
    cases reference with
    | numbered number =>
      have stands : Reference.characterOf? number = some character := stands
      rw [Content.addReference, stands]
      rfl
    | named name =>
      have stands : Reference.predefined? name = some character := stands
      rw [Content.addReference, stands]
      rfl
  induction characters generalizing pending with
  | nil => cases read
  | cons first rest induction =>
    rw [Reference.Pending.read] at read
    split at read
    · next next progress =>
      refine .cons (leads_silently unfinished ?_) (induction read)
      rintro _ rfl start here
      exact ⟨_, by rw [Lexeme.step, progress], rfl⟩
    · next found progress =>
      split at read
      · next last =>
        obtain rfl := Option.some.inj read
        obtain rfl := List.isEmpty_iff.mp last
        refine leads_tokens unfinished ?_
        rintro _ rfl start here
        refine ⟨.text 0, [.reference found], by rw [Lexeme.step, progress], ⟨0, rfl⟩, ?_⟩
        intro replace
        rw [List.foldlM_cons, added]
        rfl
      · cases read
    · cases read

/-- A reference in text is read as the character that it stands for. -/
theorem leads_reference (unfinished : content.root = none) {name : List Char}
    {reference : Reference} {character : Char}
    (read : Reference.Pending.opened.read name = some reference)
    (stands : reference.StandsFor character) :
    Leads (At InText content) ('&' :: name) (At InText (content.push character)) := by
  refine .cons (leads_silently unfinished ?_) (leads_to_reference unfinished read stands)
  rintro _ ⟨brackets, rfl⟩ start here
  exact ⟨_, rfl, rfl⟩

/-- A character of text, as it is escaped, is read as this character. -/
theorem leads_escaped (unfinished : content.root = none) {character : Char}
    (legal : isLegal character) (other : character ≠ '\r') :
    Leads (At InText content) (escapedInText character).toList
      (At InText (content.push character)) := by
  have spelled := spelled_escapedInText character
  generalize (escapedInText character).toList = written at spelled
  cases spelled with
  | itself free =>
    obtain ⟨ampersand, less, greater⟩ := free
    refine leads_tokens unfinished ?_
    rintro _ ⟨brackets, rfl⟩ start here
    have stepped : ∃ count, (Lexeme.text brackets).step start here character =
        .ok (.text count, [.character character]) := by
      rw [Lexeme.step, Lexeme.stepText]
      by_cases bracket : character = ']'
      · subst bracket
        exact ⟨_, rfl⟩
      · exact ⟨0, by simp [ampersand, less, greater, other, bracket, legal]⟩
    obtain ⟨count, stepped⟩ := stepped
    exact ⟨_, _, stepped, ⟨count, rfl⟩, fun _ => rfl⟩
  | reference read stands => exact leads_reference unfinished read stands

end Reader

/-- The tree with the characters of a text waiting. -/
def Content.pushAll (content : Content) (characters : List Char) : Content :=
  { content with buffer := characters.reverse ++ content.buffer }

namespace Reader

theorem toList_escapeText (text : String) :
    (escapeText text).toList = text.toList.flatMap fun character =>
      (escapedInText character).toList := by
  rw [escapeText, String.toList_join, List.flatMap_map]

/-- A text is read as its characters, if none of them is a carriage return. -/
theorem leads_text {content : Content} (unfinished : content.root = none) {text : String}
    (legal : AllLegal text.toList) (other : '\r' ∉ text.toList) :
    Leads (At InText content) (escapeText text).toList
      (At InText (content.pushAll text.toList)) := by
  rw [toList_escapeText]
  generalize text.toList = characters at legal other
  induction characters generalizing content with
  | nil => exact .nil fun reader at' => at'
  | cons character rest induction =>
    rw [List.flatMap_cons]
    rw [List.mem_cons, not_or] at other
    have first := leads_escaped unfinished (legal character List.mem_cons_self) (Ne.symm other.1)
    have following : Leads (At InText (content.push character)) _ _ :=
      induction unfinished (fun character member => legal character (List.mem_cons_of_mem _ member))
        other.2
    have pushed : (content.push character).pushAll rest = content.pushAll (character :: rest) := by
      simp [Content.push, Content.pushAll]
    rw [pushed] at following
    exact first.append following

end Reader

end ScenarioTree.Xml
