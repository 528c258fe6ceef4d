/-
This file looks up what a start tag says that an element was written with. Escaped values resolve to
what they were. The declarations extend the scope by every prefix, the attributes keep their order
and get their names back, and so does the element.

A prefix of the outermost tag serves everything inside, so the tags of inner elements declare
nothing: they are the case of no declarations.
-/

import ScenarioTree.Proofs.Prefix
import ScenarioTree.Proofs.Tagged

namespace ScenarioTree.Xml

/-! ### Values -/

namespace Declared

variable {opened : List String}
  {replace : String → String → List Char → Except ValueFault (List Char)} {resolved : List Char}

/-- Resolving where no entity is declared. -/
abbrev stepPlain (opened : List String)
    (replace : String → String → List Char → Except ValueFault (List Char)) :
    PendingValue → Char → Except ValueFault PendingValue :=
  nothing.stepValue false opened replace

theorem resolveReference_of_standsFor {reference : Reference} {character : Char}
    (stands : reference.StandsFor character) (start : Position) :
    nothing.resolveReference false opened replace start resolved reference =
      .ok (character :: resolved) := by
  cases reference with
  | numbered number =>
    have stands : Reference.characterOf? number = some character := stands
    rw [resolveReference.eq_def]
    simp only [stands]
    split
    · next none => cases none
    · next blank =>
      obtain rfl := Option.some.inj blank
      rfl
    · next other _ same =>
      obtain rfl := Option.some.inj same
      rfl
  | named name =>
    have stands : Reference.predefined? name = some character := stands
    rw [resolveReference]
    simp only [stands]

theorem foldlM_stepPlain_of_read {reference : Reference} {character : Char}
    (stands : reference.StandsFor character) {pending : Reference.Pending} {written : List Char}
    (read : pending.read written = some reference) (here start : Position) :
    ∃ next, written.foldlM (stepPlain opened replace) ⟨here, some (start, pending), resolved⟩ =
      .ok ⟨next, none, character :: resolved⟩ := by
  induction written generalizing pending here with
  | nil => cases read
  | cons first rest induction =>
    rw [Reference.Pending.read] at read
    split at read
    · next following progress =>
      obtain ⟨next, ran⟩ := induction read (here.after first)
      refine ⟨next, ?_⟩
      rw [List.foldlM_cons, stepPlain, stepValue]
      simp only [progress]
      exact ran
    · next found progress =>
      split at read
      · next last =>
        obtain rfl := Option.some.inj read
        obtain rfl := List.isEmpty_iff.mp last
        refine ⟨here.after first, ?_⟩
        rw [List.foldlM_cons, stepPlain, stepValue]
        simp only [progress, resolveReference_of_standsFor stands]
        rfl
      · cases read
    · cases read

theorem foldlM_stepPlain_of_spelled {character : Char} {written : List Char}
    (spelled : Spelled character (character ≠ '&' ∧ character ≠ '<' ∧ character ≠ '"' ∧
      (isSpace character → character = ' ')) written) (here : Position) :
    ∃ next, written.foldlM (stepPlain opened replace) ⟨here, none, resolved⟩ =
      .ok ⟨next, none, character :: resolved⟩ := by
  cases spelled with
  | itself free =>
    obtain ⟨ampersand, less, _, blank⟩ := free
    refine ⟨here.after character, ?_⟩
    rw [List.foldlM_cons, stepPlain, stepValue]
    by_cases space : isSpace character
    · obtain rfl := blank space
      rfl
    · simp [ampersand, less, space]
  | reference read stands =>
    obtain ⟨next, ran⟩ := foldlM_stepPlain_of_read stands read (here.after '&') here
    exact ⟨next, ran⟩

theorem foldlM_stepPlain_escapeValue (value : String) (here : Position) :
    ∃ next, (escapeValue value).toList.foldlM (stepPlain opened replace) ⟨here, none, resolved⟩ =
      .ok ⟨next, none, value.toList.reverse ++ resolved⟩ := by
  rw [Reader.toList_escapeValue]
  induction value.toList generalizing here resolved with
  | nil => exact ⟨here, rfl⟩
  | cons character rest induction =>
    obtain ⟨between, first⟩ :=
      foldlM_stepPlain_of_spelled (spelled_escapedInValue character) here
    obtain ⟨next, following⟩ := @induction (character :: resolved) between
    refine ⟨next, ?_⟩
    rw [List.flatMap_cons, List.foldlM_append, first, List.reverse_cons, List.append_assoc]
    exact following

/-- An escaped value resolves to what it was. -/
theorem resolve_escapeValue (value : String) (around start : Position) :
    nothing.resolve false [] around start (escapeValue value) = .ok value := by
  have within : nothing.resolveWithin false (nothing.entities.length + 1) [] start []
      (escapeValue value).toList = .ok value.toList.reverse := by
    rw [resolveWithin]
    obtain ⟨next, ran⟩ := foldlM_stepPlain_escapeValue value start
    rw [ran, List.append_nil]
    rfl
  rw [resolve, within]
  simp [PendingValue.finish]

end Declared

/-! ### Attributes -/

namespace PendingAttributes

theorem names_add {pending next : PendingAttributes} {name value : String}
    (added : pending.add name value = .ok next) : next.names = name :: pending.names := by
  rw [add] at added
  split at added
  · obtain ⟨scope, _, added⟩ := exists_of_bind added
    obtain rfl := Except.ok.inj added
    rfl
  · obtain rfl := Except.ok.inj added
    rfl

/-- Raw attributes are added like the names and values that they stand for. -/
theorem foldlM_addRaw {raws : List RawAttribute} {givens : List (String × String)}
    (same : raws.map (fun raw => (raw.name, raw.value)) =
      givens.map fun given => (given.1, escapeValue given.2))
    {pending last : PendingAttributes} (distinct : (givens.map Prod.fst).Nodup)
    (fresh : ∀ given ∈ givens, given.1 ∉ pending.names)
    (ran : givens.foldlM (fun pending given => pending.add given.1 given.2) pending = .ok last)
    (around : Position) (element : String) :
    raws.foldlM (addRaw .nothing [] around element) pending = .ok last := by
  induction givens generalizing raws pending with
  | nil =>
    obtain rfl := List.map_eq_nil_iff.mp same
    obtain rfl := Except.ok.inj ran
    rfl
  | cons given rest induction =>
    obtain ⟨raw, others, rfl, head, following⟩ := List.map_eq_cons_iff.mp same
    rw [Prod.mk.injEq] at head
    rw [List.map_cons, List.nodup_cons] at distinct
    obtain ⟨next, added, ran⟩ := exists_of_bind ran
    have first : addRaw .nothing [] around element pending raw = .ok next := by
      have missing : pending.names.contains raw.name = false := by
        simpa [head.1] using fresh given List.mem_cons_self
      rw [addRaw, missing, head.2]
      have untokenized : Declared.nothing.tokenized element raw.name = false := rfl
      rw [untokenized, Declared.resolve_escapeValue, head.1]
      have added : pending.add given.1 given.2 = .ok next := added
      change (pending.add given.1 given.2).mapError _ = _
      rw [added]
      rfl
    rw [List.foldlM_cons, first]
    refine induction following distinct.2 (fun other member => ?_) ran
    rw [names_add added, List.mem_cons, not_or]
    refine ⟨?_, fresh other (List.mem_cons_of_mem _ member)⟩
    intro repeated
    exact distinct.1 (repeated ▸ List.mem_map_of_mem member)

end PendingAttributes

/-- A declaration as the attribute that makes it. -/
def declarationGiven (declared : String × String) : String × String :=
  ("xmlns:" ++ declared.1, declared.2)

/-- An attribute as it is written under declarations. -/
def Attribute.given (prefixes : Prefixes) (named : Attribute) : String × String :=
  (prefixes.write named.name, named.value)

theorem splitName_declarationGiven (declared : String × String) :
    splitName (declarationGiven declared).1 = (some "xmlns", declared.1) := by
  have parted : (declarationGiven declared).1.toList =
      "xmlns".toList ++ ':' :: declared.1.toList := by
    rw [declarationGiven, String.toList_append]
    rfl
  rw [splitName_of_parted parted plainName_xmlns, String.ofList_toList, String.ofList_toList]

theorem declaredPrefix?_declarationGiven (declared : String × String) :
    declaredPrefix? (declarationGiven declared).1 = some declared.1 := by
  have different : (declarationGiven declared).1 ≠ "xmlns" := by
    intro same
    have colon : ':' ∈ (declarationGiven declared).1.toList := by
      simp [declarationGiven, String.toList_append]
    rw [same] at colon
    exact absurd colon (by decide)
  rw [declaredPrefix?, if_neg (by simpa using different), splitName_declarationGiven]
  rfl

/-- What can be declared in one tag: namespaces of their own under proper prefixes. -/
structure Declares (declared : List (String × String)) : Prop where
  proper : ∀ entry ∈ declared, ProperPrefix entry.1
  declarable : ∀ entry ∈ declared, Declarable entry.2
  unreserved : ∀ entry ∈ declared, entry.2 ≠ "" ∧ entry.2 ≠ xmlSpace
  distinct : (declared.map Prod.fst).Nodup

theorem declares_nil : Declares [] := by
  constructor <;> simp

theorem Prefixes.Sound.declares {prefixes : Prefixes} (sound : prefixes.Sound) :
    Declares prefixes.declaring where
  proper := fun _ member => (sound.chosen _ (mem_declaring.mp member)).proper
  declarable := fun _ member => sound.declarable _ (mem_declaring.mp member)
  unreserved := fun _ member => sound.unreserved _ (mem_declaring.mp member)
  distinct := nodup_declaring sound

theorem Scope.declare_of_proper {scope : Scope} {declared space : String}
    (proper : ProperPrefix declared) (declarable : Declarable space)
    (unreserved : space ≠ "" ∧ space ≠ xmlSpace) :
    scope.declare declared space = .ok ((declared, space) :: scope) := by
  rw [Scope.declare]
  simp [proper.xml, proper.xmlns, unreserved.1, unreserved.2, declarable.unreserved,
    declarable.unbraced]

namespace PendingAttributes

theorem foldlM_add_declarations {declared : List (String × String)} (declares : Declares declared)
    (pending : PendingAttributes) :
    ∃ names, (declared.map declarationGiven).foldlM
        (fun pending given => pending.add given.1 given.2) pending =
      .ok ⟨names, declared.reverse ++ pending.scope, pending.written⟩ := by
  induction declared generalizing pending with
  | nil => exact ⟨pending.names, rfl⟩
  | cons entry rest induction =>
    have others : Declares rest :=
      ⟨fun other member => declares.proper other (List.mem_cons_of_mem _ member),
        fun other member => declares.declarable other (List.mem_cons_of_mem _ member),
        fun other member => declares.unreserved other (List.mem_cons_of_mem _ member),
        (List.nodup_cons.mp declares.distinct).2⟩
    obtain ⟨names, ran⟩ := induction others
      ⟨(declarationGiven entry).1 :: pending.names, entry :: pending.scope, pending.written⟩
    refine ⟨names, ?_⟩
    have first : pending.add (declarationGiven entry).1 (declarationGiven entry).2 =
        .ok ⟨(declarationGiven entry).1 :: pending.names, entry :: pending.scope,
          pending.written⟩ := by
      rw [add, declaredPrefix?_declarationGiven]
      simp only
      rw [declarationGiven, Scope.declare_of_proper (declares.proper entry List.mem_cons_self)
        (declares.declarable entry List.mem_cons_self)
        (declares.unreserved entry List.mem_cons_self)]
      rfl
    rw [List.map_cons, List.foldlM_cons, first, List.reverse_cons, List.append_assoc]
    exact ran

theorem foldlM_add_attributes {givens : List (String × String)}
    (plain : ∀ given ∈ givens, declaredPrefix? given.1 = none) (pending : PendingAttributes) :
    ∃ names, givens.foldlM (fun pending given => pending.add given.1 given.2) pending =
      .ok ⟨names, pending.scope, pending.written ++ givens⟩ := by
  induction givens generalizing pending with
  | nil =>
    refine ⟨pending.names, ?_⟩
    rw [List.append_nil]
    rfl
  | cons given rest induction =>
    obtain ⟨names, ran⟩ := induction
      (fun other member => plain other (List.mem_cons_of_mem _ member))
      ⟨given.1 :: pending.names, pending.scope, pending.written ++ [given]⟩
    refine ⟨names, ?_⟩
    have first : pending.add given.1 given.2 =
        .ok ⟨given.1 :: pending.names, pending.scope, pending.written ++ [given]⟩ := by
      rw [add, plain given List.mem_cons_self]
    rw [List.append_assoc] at ran
    rw [List.foldlM_cons, first]
    exact ran

end PendingAttributes

/-! ### Elements -/

/-- An element whose names can all be written and found again under declarations. -/
structure Serves (prefixes : Prefixes) (name : Name) (attributes : List Attribute) : Prop where
  sound : prefixes.Sound
  covers : prefixes.Covers name
  plain : PlainName name.localPart.toList
  attributeCovers : ∀ given ∈ attributes, prefixes.Covers given.name
  attributePlain : ∀ given ∈ attributes, PlainName given.name.localPart.toList
  undeclaring : ∀ given ∈ attributes, given.name.space = "" → given.name.localPart ≠ "xmlns"
  distinct : (attributes.map Attribute.name).Nodup

section Serving

variable {prefixes : Prefixes} {name : Name} {attributes : List Attribute} {scope : Scope}

theorem Serves.attributes_given (serves : Serves prefixes name attributes)
    (undone : prefixes.Undone scope) :
    scope.attributes (attributes.map (Attribute.given prefixes)) = .ok attributes := by
  have general (before behind : List Attribute) (whole : attributes = before ++ behind) :
      (behind.map (Attribute.given prefixes)).foldlM
        (fun (named : List Attribute) (given : String × String) => do
          let name ← scope.attributeName given.1
          if named.any (·.name == name) then .error Reason.duplicateAttribute
          else return named ++ [Attribute.mk name given.2])
        before = .ok attributes := by
    -- On the attributes still to come; those before them have their names already.
    induction behind generalizing before with
    | nil =>
      rw [whole, List.append_nil]
      rfl
    | cons first rest induction =>
      have member : first ∈ attributes := by simp [whole]
      have found := Prefixes.attributeName_write serves.sound (serves.attributeCovers first member)
        (serves.attributePlain first member) undone
      have fresh : before.any (·.name == first.name) = false := by
        rw [List.any_eq_false]
        intro other otherMember same
        have distinct := serves.distinct
        rw [whole, List.map_append, List.map_cons] at distinct
        refine (List.nodup_append.mp distinct).2.2 _ (List.mem_map_of_mem otherMember) _
          List.mem_cons_self (eq_of_beq same)
      have following := induction (before ++ [first]) (by simp [whole])
      rw [List.map_cons, List.foldlM_cons]
      simp only [Attribute.given, found]
      simp only [bind, Except.bind, fresh]
      exact following
  exact general [] attributes rfl

/-- Different names are written differently. -/
theorem Serves.nodup_given (serves : Serves prefixes name attributes)
    (undone : prefixes.Undone scope) :
    (attributes.map fun given => prefixes.write given.name).Nodup := by
  have distinct := serves.distinct
  rw [List.nodup_iff_pairwise_ne, List.pairwise_map] at distinct ⊢
  refine distinct.imp_of_mem fun {first second} firstMember secondMember different same => ?_
  have one := Prefixes.attributeName_write serves.sound (serves.attributeCovers first firstMember)
    (serves.attributePlain first firstMember) undone
  have two := Prefixes.attributeName_write serves.sound (serves.attributeCovers second secondMember)
    (serves.attributePlain second secondMember) undone
  rw [same, two] at one
  exact different (Except.ok.inj one).symm

/-- All that a tag is written with. -/
def givens (declared : List (String × String)) (prefixes : Prefixes)
    (attributes : List Attribute) : List (String × String) :=
  declared.map declarationGiven ++ attributes.map (Attribute.given prefixes)

theorem Serves.nodup_givens (serves : Serves prefixes name attributes)
    {declared : List (String × String)} (declares : Declares declared)
    (undone : prefixes.Undone scope) :
    ((givens declared prefixes attributes).map Prod.fst).Nodup := by
  rw [givens, List.map_append, List.map_map, List.map_map, List.nodup_append]
  refine ⟨?_, serves.nodup_given undone, ?_⟩
  · have distinct := declares.distinct
    rw [List.nodup_iff_pairwise_ne, List.pairwise_map] at distinct ⊢
    refine distinct.imp fun {first second} different same => different ?_
    have prefixes := congrArg declaredPrefix? same
    rw [Function.comp_apply, Function.comp_apply, declaredPrefix?_declarationGiven,
      declaredPrefix?_declarationGiven] at prefixes
    exact Option.some.inj prefixes
  · rintro one declaration two written rfl
    obtain ⟨entry, _, rfl⟩ := List.mem_map.mp declaration
    obtain ⟨given, member, same⟩ := List.mem_map.mp written
    have none := Prefixes.declaredPrefix?_write serves.sound (serves.attributeCovers given member)
      (serves.attributePlain given member) (serves.undeclaring given member)
    have declaring := declaredPrefix?_declarationGiven entry
    rw [Function.comp_apply, Function.comp_apply] at same
    rw [← same] at declaring
    rw [Attribute.given, none] at declaring
    cases declaring

/-- A tag that was written for an element opens it again. -/
theorem Serves.openElement (serves : Serves prefixes name attributes)
    {declared : List (String × String)} (declares : Declares declared) {content : Content}
    (undone : prefixes.Undone (declared.reverse ++ content.scope)) {frames : List Frame}
    (flushed : content.flush = ⟨[], frames, none⟩) {tag : RawTag}
    (reads : tag.Reads (prefixes.write name)
      ((givens declared prefixes attributes).map fun given => (given.1, escapeValue given.2)))
    (around : Position) :
    content.openElement .nothing [] around tag =
      .ok ⟨[], ⟨prefixes.write name, name, attributes, declared.reverse ++ content.scope, .empty,
        []⟩ :: frames, none⟩ := by
  have added : ∃ names, (givens declared prefixes attributes).foldlM
        (fun pending given => PendingAttributes.add pending given.1 given.2)
        ⟨[], content.scope, []⟩ =
      .ok ⟨names, declared.reverse ++ content.scope,
        attributes.map (Attribute.given prefixes)⟩ := by
    obtain ⟨_, first⟩ := PendingAttributes.foldlM_add_declarations declares
      ⟨[], content.scope, []⟩
    obtain ⟨names, second⟩ := @PendingAttributes.foldlM_add_attributes
      (attributes.map (Attribute.given prefixes))
      (by
        intro given member
        obtain ⟨named, namedMember, rfl⟩ := List.mem_map.mp member
        exact Prefixes.declaredPrefix?_write serves.sound (serves.attributeCovers named namedMember)
          (serves.attributePlain named namedMember) (serves.undeclaring named namedMember))
      ⟨_, declared.reverse ++ content.scope, []⟩
    refine ⟨names, ?_⟩
    rw [givens, List.foldlM_append, first]
    exact second
  obtain ⟨names, added⟩ := added
  have read := PendingAttributes.foldlM_addRaw reads.attributes
    (serves.nodup_givens declares undone) (by simp) added around tag.name
  have found := Prefixes.elementName_write serves.sound serves.covers serves.plain undone
  rw [Content.openElement, read, reads.name]
  have undeclared : Declared.nothing.attributesOf (prefixes.write name) = [] := rfl
  simp only [bind, Except.bind, undeclared, List.foldlM_nil, pure, Except.pure,
    serves.attributes_given undone, found, Except.mapError, flushed]

end Serving

end ScenarioTree.Xml
