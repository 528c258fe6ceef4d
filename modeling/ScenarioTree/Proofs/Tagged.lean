/-
This file follows the reader through a start tag, up to the sign that ends it. A tag is kept as it
is written, so what is known of it is its name and each attribute with its value still escaped.
Places in it are not described.

Behind every complete part of a tag the same signs may follow, whether that part is the name of the
tag or an attribute. So attributes can be put one after another, and none is no special case.
-/

import ScenarioTree.Proofs.Markup

namespace ScenarioTree.Xml

/-! ### Qualified names -/

namespace PendingName

theorem extend?_of_isNamePart {name : PendingName} (complete : name.complete) {character : Char}
    (part : isNamePart character) :
    name.extend? character = some ⟨character :: name.seen, name.colon⟩ := by
  obtain ⟨seen, colon⟩ := name
  cases colon with
  | fresh => cases complete
  | absent => simp [extend?, part]
  | passed => simp [extend?, part]

theorem foldlM_extend?_of_isNamePart {name : PendingName} (complete : name.complete)
    {parts : List Char} (part : ∀ character ∈ parts, isNamePart character) :
    parts.foldlM extend? name = some ⟨parts.reverse ++ name.seen, name.colon⟩ := by
  induction parts generalizing name with
  | nil => rfl
  | cons character rest induction =>
    rw [List.foldlM_cons, extend?_of_isNamePart complete (part character List.mem_cons_self)]
    have following := @induction ⟨character :: name.seen, name.colon⟩ complete
      fun other member => part other (List.mem_cons_of_mem _ member)
    simpa using following

/-- A qualified name is read to its end, where it may end. -/
theorem foldlM_extend?_of_qualified {first : Char} {rest : List Char}
    (qualified : Qualified PlainName (first :: rest)) :
    ∃ name : PendingName, rest.foldlM extend? (start first) = some name ∧ name.complete ∧
      name.seen = (first :: rest).reverse := by
  cases qualified with
  | plain plain =>
    refine ⟨_, foldlM_extend?_of_isNamePart rfl plain.2, rfl, ?_⟩
    simp [start]
  | @parted before behind parted plainBefore plainBehind =>
    cases before with
    | nil => exact plainBefore.elim
    | cons begin more =>
      cases behind with
      | nil => exact plainBehind.elim
      | cons second others =>
        rw [List.cons_append, List.cons.injEq] at parted
        obtain ⟨rfl, rfl⟩ := parted
        have colon : extend? ⟨more.reverse ++ [first], .absent⟩ ':' =
            some ⟨':' :: (more.reverse ++ [first]), .fresh⟩ := rfl
        have passed : extend? ⟨':' :: (more.reverse ++ [first]), .fresh⟩ second =
            some ⟨second :: ':' :: (more.reverse ++ [first]), .passed⟩ := by
          rw [extend?]
          exact if_pos plainBehind.1
        refine ⟨⟨others.reverse ++ second :: ':' :: (more.reverse ++ [first]), .passed⟩, ?_, rfl,
          ?_⟩
        · rw [List.foldlM_append, foldlM_extend?_of_isNamePart rfl plainBefore.2]
          have behind := @foldlM_extend?_of_isNamePart
            ⟨second :: ':' :: (more.reverse ++ [first]), .passed⟩ rfl _ plainBehind.2
          simp only [start, Option.bind_eq_bind, Option.bind_some, List.foldlM_cons, colon, passed,
            behind]
        · simp

end PendingName

/-- A qualified name begins like a plain one. -/
theorem Qualified.start {asked : List Char → Prop} {first : Char} {rest : List Char}
    (qualified : Qualified asked (first :: rest)) : isNameStart first := by
  cases qualified with
  | plain plain => exact plain.1
  | @parted before behind parted plain _ =>
    cases before with
    | nil => exact plain.elim
    | cons begin more =>
      rw [List.cons_append, List.cons.injEq] at parted
      rw [parted.1]
      exact plain.1

/-- There is no empty qualified name. -/
theorem Qualified.eq_cons {asked : List Char → Prop} {name : List Char}
    (qualified : Qualified asked name) : ∃ first rest, name = first :: rest := by
  cases name with
  | cons first rest => exact ⟨first, rest, rfl⟩
  | nil =>
    cases qualified with
    | plain plain => exact plain.elim
    | parted parted _ _ => simp at parted

/-! ### What is known of a tag -/

namespace RawTag

/-- A tag with a name and attributes, each with its name and its value as they are written. -/
structure Reads (written : String) (given : List (String × String)) (tag : RawTag) : Prop where
  name : tag.name = written
  attributes : tag.attributes.map (fun raw => (raw.name, raw.value)) = given
  unclosed : tag.closed = false

theorem Reads.addAttribute {written : String} {given : List (String × String)}
    {head : AttributeHead} (reads : Reads written given head.tag) (name : String)
    (start : Position) (seen : List Char) :
    Reads written (given ++ [(name, String.ofList seen.reverse)])
      (addAttribute head name start seen) where
  name := reads.name
  attributes := by
    rw [RawTag.addAttribute, List.map_append, reads.attributes]
    rfl
  unclosed := reads.unclosed

namespace Pending

/-- Behind a complete part of a tag. -/
def Follows (known : RawTag → Prop) (pending : Pending) : Prop :=
  ∃ tag, known tag ∧ ∀ here character, character = ' ' ∨ character = '>' →
    pending.step here character = follow tag character

/-- In the name of an attribute. -/
def InName (known : RawTag → Prop) (name : PendingName) (pending : Pending) : Prop :=
  ∃ head, known head.tag ∧ pending = .attributeName head name

/-- In the value of an attribute, perhaps in a reference. -/
def InValue (known : RawTag → Prop) (name : String) (seen : List Char)
    (reference : Option Reference.Pending) (pending : Pending) : Prop :=
  ∃ head start, known head.tag ∧ pending = .attributeValue head name start '"' seen reference

theorem follows_tagName {name : PendingName} (complete : name.complete) :
    Follows (Reads name.text []) (.tagName name) := by
  refine ⟨⟨name.text, [], false⟩, ⟨rfl, rfl, rfl⟩, fun here character sign => ?_⟩
  have ended : name.extend? character = none := by
    obtain ⟨seen, colon⟩ := name
    cases colon with
    | fresh => cases complete
    | absent =>
      rcases sign with rfl | rfl
      · rfl
      · rfl
    | passed =>
      rcases sign with rfl | rfl
      · rfl
      · rfl
  rw [step, ended]
  exact if_pos complete

end Pending

end RawTag

/-- In a start tag of which something is known. -/
def Tagging (known : RawTag.Pending → Prop) (lexeme : Lexeme) : Prop :=
  ∃ pending, lexeme = .startTag pending ∧ known pending

/-! ### The parts of a tag -/

namespace Reader

open RawTag (Pending Reads follow)
open RawTag.Pending (Follows InName InValue follows_tagName)

variable {content : Content}

/-- One character leads on within a tag if no pending part of it is invalid. -/
theorem leads_tagging (unfinished : content.root = none) {known next : Pending → Prop}
    {character : Char}
    (steps : ∀ pending, known pending → ∀ here, ∃ onward,
      pending.step here character = .more onward ∧ next onward) :
    Leads (At (Tagging known) content) [character] (At (Tagging next) content) := by
  refine leads_silently unfinished ?_
  rintro _ ⟨pending, rfl, pendingKnown⟩ start here
  obtain ⟨onward, stepped, onwardKnown⟩ := steps pending pendingKnown here
  exact ⟨.startTag onward, by rw [Lexeme.step, stepped], onward, rfl, onwardKnown⟩

/-- A name is read in whatever way its characters are. -/
theorem leads_name (unfinished : content.root = none)
    {holding : PendingName → Pending → Prop}
    (steps : ∀ name longer character, name.extend? character = some longer →
      ∀ pending, holding name pending → ∀ here, ∃ onward,
        pending.step here character = .more onward ∧ holding longer onward)
    {name last : PendingName} {characters : List Char}
    (ran : characters.foldlM PendingName.extend? name = some last) :
    Leads (At (Tagging (holding name)) content) characters
      (At (Tagging (holding last)) content) := by
  induction characters generalizing name with
  | nil =>
    obtain rfl := Option.some.inj ran
    exact .nil fun reader at' => at'
  | cons character rest induction =>
    obtain ⟨longer, extended, ran⟩ := Option.bind_eq_some_iff.mp ran
    exact .cons (leads_tagging unfinished (steps name longer character extended)) (induction ran)

/-- The name of a tag is read to its end. -/
theorem leads_tagName (unfinished : content.root = none) {first : Char} {rest : List Char}
    (qualified : Qualified PlainName (first :: rest)) :
    Leads (At (Tagging (· = .tagName (.start first))) content) rest
      (At (Tagging (Follows (Reads (String.ofList (first :: rest)) []))) content) := by
  obtain ⟨name, ran, complete, seen⟩ := PendingName.foldlM_extend?_of_qualified qualified
  have leads := @leads_name content unfinished (fun name pending => pending = .tagName name)
    (by
      rintro name longer character extended _ rfl here
      exact ⟨_, by rw [RawTag.Pending.step, extended], rfl⟩)
    _ _ _ ran
  refine leads.weaken fun reader at' => at'.weaken ?_
  rintro _ ⟨_, rfl, rfl⟩
  have written : name.text = String.ofList (first :: rest) := by
    rw [PendingName.text, seen, List.reverse_reverse]
  rw [← written]
  exact ⟨_, rfl, follows_tagName complete⟩

/-- A blank stands before whatever else belongs to a tag. -/
theorem leads_gap (unfinished : content.root = none) {known : RawTag → Prop} :
    Leads (At (Tagging (Follows known)) content) [' ']
      (At (Tagging fun pending => ∃ tag, known tag ∧ pending = .gap tag) content) := by
  refine leads_tagging unfinished ?_
  rintro pending ⟨tag, tagKnown, follows⟩ here
  exact ⟨.gap tag, follows here ' ' (.inl rfl), tag, tagKnown, rfl⟩

/-! ### Values -/

section Values

variable {known : RawTag → Prop} {name : String}

theorem leads_through_reference (unfinished : content.root = none) {pending : Reference.Pending}
    {characters seen : List Char} {reference : Reference}
    (read : pending.read characters = some reference) :
    Leads (At (Tagging (InValue known name seen (some pending))) content) characters
      (At (Tagging (InValue known name (characters.reverse ++ seen) none)) content) := by
  induction characters generalizing pending seen with
  | nil => cases read
  | cons first rest induction =>
    have steps (after : Option Reference.Pending)
        (stepped : (∃ next, pending.step first = .more next ∧ after = some next) ∨
          (∃ found, pending.step first = .done found) ∧ after = none) :
        Leads (At (Tagging (InValue known name seen (some pending))) content) [first]
          (At (Tagging (InValue known name (first :: seen) after)) content) := by
      refine leads_tagging unfinished ?_
      rintro _ ⟨head, start, headKnown, rfl⟩ here
      rcases stepped with ⟨next, stepped, rfl⟩ | ⟨⟨found, stepped⟩, rfl⟩
      · exact ⟨_, by rw [RawTag.Pending.step, stepped], head, start, headKnown, rfl⟩
      · exact ⟨_, by rw [RawTag.Pending.step, stepped], head, start, headKnown, rfl⟩
    rw [List.reverse_cons, List.append_assoc]
    rw [Reference.Pending.read] at read
    split at read
    · next following progress =>
      exact .cons (steps _ (.inl ⟨following, progress, rfl⟩)) (induction read)
    · next found progress =>
      split at read
      · next last =>
        obtain rfl := List.isEmpty_iff.mp last
        exact steps _ (.inr ⟨⟨found, progress⟩, rfl⟩)
      · cases read
    · cases read

/-- A character of a value, as it is escaped, stays within the quotes. -/
theorem leads_escapedInValue (unfinished : content.root = none) {character : Char}
    (legal : isLegal character) (seen : List Char) :
    Leads (At (Tagging (InValue known name seen none)) content) (escapedInValue character).toList
      (At (Tagging (InValue known name ((escapedInValue character).toList.reverse ++ seen) none))
        content) := by
  have spelled := spelled_escapedInValue character
  generalize (escapedInValue character).toList = written at spelled
  cases spelled with
  | itself free =>
    obtain ⟨ampersand, less, quote, _⟩ := free
    refine leads_tagging unfinished ?_
    rintro _ ⟨head, start, headKnown, rfl⟩ here
    refine ⟨.attributeValue head name start '"' (character :: seen) none, ?_, head, start,
      headKnown, rfl⟩
    rw [RawTag.Pending.step]
    simp [quote, less, legal, ampersand]
  | @reference characters reference read stands =>
    rw [List.reverse_cons, List.append_assoc]
    refine .cons (leads_tagging unfinished ?_) (leads_through_reference unfinished read)
    rintro _ ⟨head, start, headKnown, rfl⟩ here
    exact ⟨_, rfl, head, start, headKnown, rfl⟩

theorem toList_escapeValue (value : String) :
    (escapeValue value).toList = value.toList.flatMap fun character =>
      (escapedInValue character).toList := by
  rw [escapeValue, String.toList_join, List.flatMap_map]

theorem leads_escapeValue (unfinished : content.root = none) {value : String}
    (legal : AllLegal value.toList) (seen : List Char) :
    Leads (At (Tagging (InValue known name seen none)) content) (escapeValue value).toList
      (At (Tagging (InValue known name ((escapeValue value).toList.reverse ++ seen) none))
        content) := by
  rw [toList_escapeValue]
  generalize value.toList = characters at legal
  induction characters generalizing seen with
  | nil => exact .nil fun reader at' => at'
  | cons character rest induction =>
    rw [List.flatMap_cons, List.reverse_append, List.append_assoc]
    refine (leads_escapedInValue unfinished (legal character List.mem_cons_self) seen).append ?_
    exact induction _ fun other member => legal other (List.mem_cons_of_mem _ member)

end Values

/-! ### Attributes -/

/-- An attribute with the blank before it, from its name and its value. -/
def writeGiven (given : String × String) : String :=
  " " ++ given.1 ++ "=\"" ++ escapeValue given.2 ++ "\""

theorem toList_writeGiven (given : String × String) :
    (writeGiven given).toList =
      ' ' :: (given.1.toList ++ '=' :: '"' :: ((escapeValue given.2).toList ++ ['"'])) := by
  simp [writeGiven, String.toList_append]

variable {written : String} {pairs : List (String × String)}

/-- The name of an attribute begins behind a complete part of a tag. -/
theorem leads_attributeName (unfinished : content.root = none) {first : Char} {rest : List Char}
    {name : PendingName} (start : isNameStart first)
    (ran : rest.foldlM PendingName.extend? (.start first) = some name) :
    Leads (At (Tagging (Follows (Reads written pairs))) content) (' ' :: first :: rest)
      (At (Tagging (InName (Reads written pairs) name)) content) := by
  have begun : Leads
      (At (Tagging fun pending => ∃ tag, Reads written pairs tag ∧ pending = .gap tag) content)
      [first] (At (Tagging (InName (Reads written pairs) (.start first))) content) := by
    refine leads_tagging unfinished ?_
    rintro _ ⟨tag, reads, rfl⟩ here
    exact ⟨_, if_pos start, ⟨tag, here⟩, reads, rfl⟩
  refine .cons (leads_gap unfinished) (.cons begun (leads_name unfinished ?_ ran))
  rintro name longer character extended _ ⟨head, reads, rfl⟩ here
  exact ⟨_, by rw [RawTag.Pending.step, extended], head, reads, rfl⟩

/-- An attribute behind a complete part of a tag is one more of them. -/
theorem leads_writeGiven (unfinished : content.root = none) {given : String × String}
    (qualified : Qualified PlainName given.1.toList) (legal : AllLegal given.2.toList) :
    Leads (At (Tagging (Follows (Reads written pairs))) content) (writeGiven given).toList
      (At (Tagging (Follows (Reads written (pairs ++ [(given.1, escapeValue given.2)]))))
        content) := by
  obtain ⟨first, rest, split⟩ := qualified.eq_cons
  rw [split] at qualified
  obtain ⟨name, ran, complete, seen⟩ := PendingName.foldlM_extend?_of_qualified qualified
  have text : name.text = given.1 := by
    rw [PendingName.text, seen, List.reverse_reverse, ← split, String.ofList_toList]
  have named : Leads (At (Tagging (Follows (Reads written pairs))) content) _ _ :=
    leads_attributeName unfinished qualified.start ran
  have equals : Leads (At (Tagging (InName (Reads written pairs) name)) content) ['=']
      (At (Tagging fun pending => ∃ head, Reads written pairs head.tag ∧
        pending = .beforeQuote head given.1) content) := by
    refine leads_tagging unfinished ?_
    rintro _ ⟨head, reads, rfl⟩ here
    refine ⟨.beforeQuote head given.1, ?_, head, reads, rfl⟩
    have ended : name.extend? '=' = none := by
      obtain ⟨seen, colon⟩ := name
      cases colon with
      | fresh => cases complete
      | absent => rfl
      | passed => rfl
    rw [RawTag.Pending.step, ended, ← text]
    simp [complete, isSpace]
  have quoted : Leads
      (At (Tagging fun pending => ∃ head, Reads written pairs head.tag ∧
        pending = .beforeQuote head given.1) content)
      ['"'] (At (Tagging (InValue (Reads written pairs) given.1 [] none)) content) := by
    refine leads_tagging unfinished ?_
    rintro _ ⟨head, reads, rfl⟩ here
    exact ⟨_, rfl, head, _, reads, rfl⟩
  have ended : Leads
      (At (Tagging (InValue (Reads written pairs) given.1
        ((escapeValue given.2).toList.reverse ++ []) none)) content)
      ['"'] (At (Tagging (Follows (Reads written (pairs ++ [(given.1, escapeValue given.2)]))))
        content) := by
    refine leads_tagging unfinished ?_
    rintro _ ⟨head, start, reads, rfl⟩ here
    refine ⟨_, rfl, _, ?_, fun _ _ _ => rfl⟩
    have added := reads.addAttribute given.1 start (escapeValue given.2).toList.reverse
    rw [List.append_nil]
    rw [List.reverse_reverse, String.ofList_toList] at added
    exact added
  rw [toList_writeGiven, split]
  exact named.append (.cons equals (.cons quoted
    ((leads_escapeValue unfinished legal []).append ended)))

theorem leads_givens (unfinished : content.root = none) {givens : List (String × String)}
    (qualified : ∀ given ∈ givens, Qualified PlainName given.1.toList)
    (legal : ∀ given ∈ givens, AllLegal given.2.toList) :
    Leads (At (Tagging (Follows (Reads written pairs))) content)
      (String.join (givens.map writeGiven)).toList
      (At (Tagging (Follows (Reads written
        (pairs ++ givens.map fun given => (given.1, escapeValue given.2))))) content) := by
  induction givens generalizing pairs with
  | nil =>
    rw [List.map_nil, List.map_nil, List.append_nil]
    exact .nil fun reader at' => at'
  | cons given rest induction =>
    have first : Leads (At (Tagging (Follows (Reads written pairs))) content) _ _ :=
      leads_writeGiven unfinished (qualified given List.mem_cons_self)
        (legal given List.mem_cons_self)
    have following : Leads (At (Tagging (Follows (Reads written
        (pairs ++ [(given.1, escapeValue given.2)])))) content) _ _ :=
      induction (fun other member => qualified other (List.mem_cons_of_mem _ member))
        fun other member => legal other (List.mem_cons_of_mem _ member)
    rw [List.append_assoc] at following
    rw [List.map_cons, String.join_cons, String.toList_append]
    exact first.append following

end Reader

end ScenarioTree.Xml
