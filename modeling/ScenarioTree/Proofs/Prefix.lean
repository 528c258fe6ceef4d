/-
This file shows that the prefixes of a piece of markup can be undone. Every namespace of the names
in it is declared once, and no prefix is used twice: a prefix of its own belongs to one namespace,
and a number counts the namespaces before it. So a name that is written with its prefix is found
again in any scope that has these declarations.
-/

import ScenarioTree.Proofs.WellFormed

namespace ScenarioTree.Xml

/-! ### Names in document order -/

namespace Element

theorem namesOfChildren_eq (children : List Element) :
    namesOfChildren children = children.flatMap names := by
  induction children with
  | nil => rfl
  | cons child rest induction => rw [namesOfChildren, induction, List.flatMap_cons]

theorem names_eq (element : Element) :
    element.names = element.name ::
      (element.attributes.map Attribute.name ++ element.children.flatMap names) := by
  obtain ⟨name, attributes, text, children, tail⟩ := element
  rw [names, namesOfChildren_eq]

/-- What holds of all names holds of the tag, of the attributes and of everything in the
element. -/
theorem forall_mem_names {element : Element} {holds : Name → Prop} :
    (∀ name ∈ element.names, holds name) ↔
      holds element.name ∧ (∀ given ∈ element.attributes, holds given.name) ∧
        ∀ child ∈ element.children, ∀ name ∈ child.names, holds name := by
  rw [names_eq]
  constructor
  · intro all
    refine ⟨all _ List.mem_cons_self, fun given member => ?_, fun child member name inName => ?_⟩
    · exact all _ (List.mem_cons_of_mem _ (List.mem_append_left _ (List.mem_map_of_mem member)))
    · exact all name (List.mem_cons_of_mem _ (List.mem_append_right _
        (List.mem_flatMap.mpr ⟨child, member, inName⟩)))
  · rintro ⟨tag, attributes, children⟩ name member
    rcases List.mem_cons.mp member with rfl | member
    · exact tag
    · rcases List.mem_append.mp member with member | member
      · obtain ⟨given, givenMember, rfl⟩ := List.mem_map.mp member
        exact attributes given givenMember
      · obtain ⟨child, childMember, member⟩ := List.mem_flatMap.mp member
        exact children child childMember name member

theorem prefixesOfChildren_eq {children : List Element}
    (inner : ∀ child ∈ children, ∀ prefixes : Prefixes,
      child.prefixesFrom prefixes = child.names.foldl Prefixes.note prefixes)
    (prefixes : Prefixes) :
    prefixesOfChildren prefixes children =
      (children.flatMap names).foldl Prefixes.note prefixes := by
  induction children generalizing prefixes with
  | nil => rfl
  | cons child rest induction =>
    rw [prefixesOfChildren, inner child List.mem_cons_self, List.flatMap_cons, List.foldl_append]
    exact induction (fun other member => inner other (List.mem_cons_of_mem _ member)) _

/-- The declarations of an element are those of its names, one after another. -/
theorem prefixesFrom_eq (element : Element) (prefixes : Prefixes) :
    element.prefixesFrom prefixes = element.names.foldl Prefixes.note prefixes := by
  induction element using Element.induction generalizing prefixes with
  | step element inner =>
    obtain ⟨name, attributes, text, children, tail⟩ := element
    rw [prefixesFrom, names_eq, List.foldl_cons, List.foldl_append, List.foldl_map]
    exact prefixesOfChildren_eq inner _

theorem prefixes_eq (element : Element) :
    element.prefixes = element.names.foldl Prefixes.note [] :=
  element.prefixesFrom_eq []

theorem WellFormed.nameRest {element : Element} (formed : element.WellFormed) :
    ∀ name ∈ element.names, NameRest name.localPart.toList := by
  induction element using Element.induction with
  | step element inner =>
    obtain ⟨_, localPart, attributes, _, _, _, children⟩ := formed
    exact forall_mem_names.mpr ⟨localPart.nameRest,
      fun given member => (attributes given member).localPart,
      fun child member => inner child member (children child member)⟩

theorem WellFormed.declarable {element : Element} (formed : element.WellFormed) :
    ∀ name ∈ element.names, Declarable name.space := by
  induction element using Element.induction with
  | step element inner =>
    obtain ⟨space, _, attributes, _, _, _, children⟩ := formed
    exact forall_mem_names.mpr ⟨space, fun given member => (attributes given member).space,
      fun child member => inner child member (children child member)⟩

end Element

/-! ### Names taken apart -/

theorem aroundLastBrace?_eq_none {characters : List Char} (free : '\x7d' ∉ characters) :
    aroundLastBrace? characters = none := by
  induction characters with
  | nil => rfl
  | cons character rest induction =>
    obtain ⟨other, free⟩ := List.ne_and_not_mem_of_not_mem_cons free
    rw [aroundLastBrace?, induction free]
    exact if_neg (Ne.symm other)

theorem aroundLastBrace?_append (front : List Char) {behind : List Char}
    (free : '\x7d' ∉ behind) :
    aroundLastBrace? (front ++ '\x7d' :: behind) = some (front, behind) := by
  induction front with
  | nil =>
    rw [List.nil_append, aroundLastBrace?, aroundLastBrace?_eq_none free]
    exact if_pos rfl
  | cons character rest induction => rw [List.cons_append, aroundLastBrace?, induction]

/-- A name that is taken apart into the parts that it was made of. -/
def Name.ComesApart (name : Name) : Prop :=
  name.parts? = some (if name.space.isEmpty then none else some name.space, name.localPart)

/-- The names of documents come apart, since no brace is part of a local name. -/
theorem Name.comesApart_of_nameRest {name : Name} (parts : NameRest name.localPart.toList) :
    name.ComesApart := by
  have closing : '\x7d' ∉ name.localPart.toList :=
    fun member => absurd (parts.2 _ member) (by decide)
  have opening : '\x7b' ∉ name.localPart.toList :=
    fun member => absurd (parts.2 _ member) (by decide)
  rw [ComesApart, parts?]
  by_cases none : name.space.isEmpty
  · have written : name.text = name.localPart := if_pos none
    rw [written]
    split
    · next characters begun =>
      rw [begun] at opening
      exact absurd List.mem_cons_self opening
    · rw [if_pos none]
  · have written : name.text.toList =
        '\x7b' :: (name.space.toList ++ '\x7d' :: name.localPart.toList) := by
      simp [text, none, String.toList_append]
    rw [written, if_neg none]
    simp only [aroundLastBrace?_append name.space.toList closing, Option.map_some,
      String.ofList_toList]

/-- So do all names of an element that stands in a document. -/
theorem Element.WellFormed.comesApart {element : Element} (formed : element.WellFormed) :
    ∀ name ∈ element.names, name.ComesApart :=
  fun name member => Name.comesApart_of_nameRest (formed.nameRest name member)

/-! ### Prefixes of their own -/

/-- The namespaces that have a prefix of their own. -/
def wellKnown : List (String × String) :=
  [("http://www.w3.org/1999/xhtml", "html"),
    ("http://www.w3.org/1999/02/22-rdf-syntax-ns#", "rdf"),
    ("http://schemas.xmlsoap.org/wsdl/", "wsdl"), ("http://www.w3.org/2001/XMLSchema", "xs"),
    ("http://www.w3.org/2001/XMLSchema-instance", "xsi"),
    ("http://purl.org/dc/elements/1.1/", "dc")]

theorem mem_wellKnown {space given : String} (known : wellKnownPrefix? space = some given) :
    (space, given) ∈ wellKnown := by
  rw [wellKnownPrefix?] at known
  repeat' split at known
  all_goals
    cases known
    try
      next same =>
        rw [eq_of_beq same]
        simp [wellKnown]

theorem wellKnown_distinct {first second given : String}
    (known : wellKnownPrefix? first = some given) (other : wellKnownPrefix? second = some given) :
    first = second := by
  have unique : ∀ one ∈ wellKnown, ∀ two ∈ wellKnown, one.2 = two.2 → one.1 = two.1 := by decide
  exact unique _ (mem_wellKnown known) _ (mem_wellKnown other) rfl

/-- The prefix of a namespace that has none of its own. -/
def numbered (number : Nat) : String :=
  "ns" ++ toString number

theorem toList_numbered (number : Nat) :
    (numbered number).toList = 'n' :: 's' :: Nat.toDigits 10 number := by
  have digits : (toString number).toList = Nat.toDigits 10 number := Nat.toList_repr
  rw [numbered, String.toList_append, digits]
  rfl

theorem numbered_injective {first second : Nat} (same : numbered first = numbered second) :
    first = second := by
  have digits := congrArg String.toList same
  rw [toList_numbered, toList_numbered, List.cons_inj_right, List.cons_inj_right] at digits
  have values := congrArg (fun digits => Nat.ofDigitChars 10 digits 0) digits
  simpa [Nat.ofDigitChars_toDigits] using values

theorem wellKnown_ne_numbered {space given : String} (known : wellKnownPrefix? space = some given)
    (number : Nat) : given ≠ numbered number := by
  have other : ∀ entry ∈ wellKnown, entry.2.toList.head? ≠ some 'n' := by decide
  rintro rfl
  exact other _ (mem_wellKnown known) (by rw [toList_numbered]; rfl)

/-! ### Declarations -/

theorem plainName_xml : PlainName "xml".toList := by
  decide

theorem plainName_xmlns : PlainName "xmlns".toList := by
  decide

/-- What a prefix may be: a plain name that is not reserved. -/
structure ProperPrefix (given : String) : Prop where
  plain : PlainName given.toList
  xml : given ≠ "xml"
  xmlns : given ≠ "xmlns"

theorem properPrefix_numbered (number : Nat) : ProperPrefix (numbered number) := by
  have other {given : String} (head : given.toList.head? ≠ some 'n') : numbered number ≠ given := by
    rintro rfl
    exact head (by rw [toList_numbered]; rfl)
  refine ⟨?_, other (by decide), other (by decide)⟩
  rw [toList_numbered]
  refine ⟨by decide, fun character member => ?_⟩
  rcases List.mem_cons.mp member with rfl | member
  · decide
  · have digit : isAsciiDigit character :=
      Nat.isDigit_of_mem_toDigits (by decide) (by decide) member
    exact isNamePart_of_isAsciiDigit digit

theorem properPrefix_wellKnown {space given : String}
    (known : wellKnownPrefix? space = some given) : ProperPrefix given := by
  have plain : ∀ entry ∈ wellKnown, PlainName entry.2.toList := by decide
  have xml : ∀ entry ∈ wellKnown, entry.2 ≠ "xml" := by decide
  have xmlns : ∀ entry ∈ wellKnown, entry.2 ≠ "xmlns" := by decide
  have member := mem_wellKnown known
  exact ⟨plain _ member, xml _ member, xmlns _ member⟩

namespace Prefixes

/-- The prefix of an entry: its own, or one with a number that is not yet reached. -/
def Chosen (count : Nat) (entry : String × String) : Prop :=
  wellKnownPrefix? entry.1 = some entry.2 ∨ ∃ number < count, entry.2 = numbered number

/-- Declarations that can be made together: of different namespaces under different prefixes. -/
structure Sound (prefixes : Prefixes) : Prop where
  declarable : ∀ entry ∈ prefixes, Declarable entry.1
  unreserved : ∀ entry ∈ prefixes, entry.1 ≠ "" ∧ entry.1 ≠ xmlSpace
  chosen : ∀ entry ∈ prefixes, Chosen prefixes.length entry
  distinct : (prefixes.map Prod.snd).Nodup

theorem sound_nil : Sound [] := by
  constructor <;> simp

theorem Chosen.proper {count : Nat} {entry : String × String} (chosen : Chosen count entry) :
    ProperPrefix entry.2 := by
  rcases chosen with known | ⟨number, _, same⟩
  · exact properPrefix_wellKnown known
  · rw [same]
    exact properPrefix_numbered number

theorem Chosen.later {count : Nat} {entry : String × String} (chosen : Chosen count entry) :
    Chosen (count + 1) entry :=
  chosen.imp_right fun ⟨number, below, same⟩ => ⟨number, Nat.lt_succ_of_lt below, same⟩

/-- The prefix that a namespace gets after so many others. -/
def chosenFor (space : String) (count : Nat) : String :=
  (wellKnownPrefix? space).getD (numbered count)

theorem chosen_chosenFor (space : String) (count : Nat) :
    Chosen (count + 1) (space, chosenFor space count) := by
  rw [chosenFor]
  cases known : wellKnownPrefix? space with
  | some given => exact .inl known
  | none => exact .inr ⟨count, Nat.lt_succ_self count, rfl⟩

/-- A new namespace gets a new prefix. -/
theorem Chosen.ne_chosenFor {count : Nat} {entry : String × String} (chosen : Chosen count entry)
    {space : String} (fresh : entry.1 ≠ space) : entry.2 ≠ chosenFor space count := by
  rw [chosenFor]
  cases known : wellKnownPrefix? space with
  | some given =>
    rcases chosen with other | ⟨number, _, same⟩
    · rintro rfl
      exact fresh (wellKnown_distinct other known)
    · rw [same]
      exact (wellKnown_ne_numbered known number).symm
  | none =>
    rcases chosen with other | ⟨number, below, same⟩
    · exact wellKnown_ne_numbered other count
    · rw [same]
      exact fun same => Nat.ne_of_lt below (numbered_injective same)

/-- A name changes the declarations only by adding a namespace that was not declared. -/
theorem note_eq_or (prefixes : Prefixes) (name : Name) :
    prefixes.note name = prefixes ∨
      ∃ space behind, name.parts? = some (some space, behind) ∧
        prefixes.note name = prefixes ++ [(space, chosenFor space prefixes.length)] ∧
        space ≠ xmlSpace ∧ prefixes.lookup space = none := by
  rw [note]
  split
  · next space behind apart =>
    split
    · exact .inl rfl
    · next fresh =>
      obtain ⟨other, fresh⟩ : space ≠ xmlSpace ∧ prefixes.lookup space = none := by
        simpa only [Bool.or_eq_true, not_or, beq_iff_eq, Option.not_isSome_iff_eq_none] using fresh
      exact .inr ⟨space, behind, apart, rfl, other, fresh⟩
  · exact .inl rfl

theorem Sound.note {prefixes : Prefixes} (sound : prefixes.Sound) {name : Name}
    (apart : name.ComesApart) (declarable : Declarable name.space) :
    (prefixes.note name).Sound := by
  rcases prefixes.note_eq_or name with same | ⟨space, behind, parts, added, other, fresh⟩
  · rw [same]
    exact sound
  · obtain ⟨named, rfl⟩ : name.space ≠ "" ∧ name.space = space := by
      rw [apart, Option.some.injEq, Prod.mk.injEq] at parts
      simpa using parts.1
    rw [added]
    refine ⟨fun entry member => ?_, fun entry member => ?_, fun entry member => ?_, ?_⟩
    · rcases List.mem_append.mp member with member | member
      · exact sound.declarable entry member
      · obtain rfl := List.mem_singleton.mp member
        exact declarable
    · rcases List.mem_append.mp member with member | member
      · exact sound.unreserved entry member
      · obtain rfl := List.mem_singleton.mp member
        exact ⟨named, other⟩
    · rw [List.length_append]
      rcases List.mem_append.mp member with member | member
      · exact (sound.chosen entry member).later
      · obtain rfl := List.mem_singleton.mp member
        exact chosen_chosenFor _ _
    · rw [List.map_append, List.map_singleton, List.nodup_append]
      refine ⟨sound.distinct, List.pairwise_singleton _ _, fun given member last same => ?_⟩
      obtain rfl := List.mem_singleton.mp same
      obtain ⟨entry, entryMember, rfl⟩ := List.mem_map.mp member
      refine (sound.chosen entry entryMember).ne_chosenFor ?_
      exact fun same => by simpa [same] using List.lookup_eq_none_iff.mp fresh entry entryMember

/-- The declarations of declarable namespaces can be made together. -/
theorem Sound.foldl {prefixes : Prefixes} (sound : prefixes.Sound) {names : List Name}
    (apart : ∀ name ∈ names, name.ComesApart)
    (declarable : ∀ name ∈ names, Declarable name.space) :
    Sound (names.foldl Prefixes.note prefixes) := by
  induction names generalizing prefixes with
  | nil => exact sound
  | cons name rest induction =>
    refine induction
      (sound.note (apart name List.mem_cons_self) (declarable name List.mem_cons_self)) ?_ ?_
    · exact fun other member => apart other (List.mem_cons_of_mem _ member)
    · exact fun other member => declarable other (List.mem_cons_of_mem _ member)

/-- Whether a name can be written under declarations. -/
structure Covers (prefixes : Prefixes) (name : Name) : Prop where
  apart : name.ComesApart
  declared : name.space = "" ∨ name.space = xmlSpace ∨ (prefixes.lookup name.space).isSome

theorem Covers.note {prefixes : Prefixes} {name : Name} (covers : prefixes.Covers name)
    (other : Name) : (prefixes.note other).Covers name := by
  rcases prefixes.note_eq_or other with same | ⟨space, behind, _, added, _⟩
  · rw [same]
    exact covers
  · rw [added]
    refine ⟨covers.apart, covers.declared.imp_right (Or.imp_right fun found => ?_)⟩
    rw [List.lookup_append, Option.isSome_or, found]
    rfl

theorem covers_note (prefixes : Prefixes) {name : Name} (apart : name.ComesApart) :
    (prefixes.note name).Covers name := by
  refine ⟨apart, ?_⟩
  rw [note, apart]
  by_cases none : name.space = ""
  · exact .inl none
  right
  simp only [String.isEmpty_iff, none, if_false]
  split
  · next known => simpa using known
  · refine .inr ?_
    rw [List.lookup_append, Option.isSome_or]
    simp

theorem Covers.foldl {prefixes : Prefixes} {name : Name} (covers : prefixes.Covers name)
    (names : List Name) : Covers (names.foldl Prefixes.note prefixes) name := by
  induction names generalizing prefixes with
  | nil => exact covers
  | cons other rest induction => exact induction (covers.note other)

/-- Names that were noted can be written. -/
theorem covers_foldl (prefixes : Prefixes) {names : List Name} {name : Name}
    (member : name ∈ names) (apart : name.ComesApart) :
    Covers (names.foldl Prefixes.note prefixes) name := by
  induction names generalizing prefixes with
  | nil => cases member
  | cons other rest induction =>
    rcases List.mem_cons.mp member with rfl | member
    · exact (covers_note prefixes apart).foldl rest
    · exact induction _ member

/-! ### Names found again -/

/-- A scope in which every declaration is made, besides that of every document. -/
structure Undone (prefixes : Prefixes) (scope : Scope) : Prop where
  declared : ∀ entry ∈ prefixes, scope.lookup entry.2 = some entry.1
  xml : scope.lookup "xml" = some xmlSpace
  default : scope.lookup "" = none

/-- A name without a namespace is written as it is. -/
theorem write_of_space {name : Name} (apart : name.ComesApart) (none : name.space = "")
    (prefixes : Prefixes) : prefixes.write name = name.localPart := by
  rw [write, apart]
  simp [Name.text, none]

/-- A name is written as it is, or with a prefix under which its namespace is found again. -/
theorem write_cases {prefixes : Prefixes} (sound : prefixes.Sound) {name : Name}
    (covers : prefixes.Covers name) :
    name.space = "" ∧ prefixes.write name = name.localPart ∨
      ∃ given : String,
        (prefixes.write name).toList = given.toList ++ ':' :: name.localPart.toList ∧
        PlainName given.toList ∧ given ≠ "xmlns" ∧
          ∀ scope, prefixes.Undone scope → scope.lookup given = some name.space := by
  by_cases none : name.space = ""
  · exact .inl ⟨none, write_of_space covers.apart none prefixes⟩
  · right
    rw [write, covers.apart]
    simp only [String.isEmpty_iff, none, if_false]
    split
    · next reserved =>
      refine ⟨"xml", ?_, plainName_xml, by decide, fun scope undone => ?_⟩
      · rw [String.toList_append]
        rfl
      · rw [eq_of_beq reserved]
        exact undone.xml
    · next other =>
      have found : (prefixes.lookup name.space).isSome := by
        rcases covers.declared with empty | reserved | found
        · exact absurd empty none
        · exact absurd (beq_iff_eq.mpr reserved) other
        · exact found
      obtain ⟨given, found⟩ := Option.isSome_iff_exists.mp found
      have member := Scope.mem_of_lookup found
      have proper := (sound.chosen _ member).proper
      refine ⟨given, ?_, proper.plain, proper.xmlns, fun scope undone => undone.declared _ member⟩
      rw [found, Option.getD_some, String.toList_append, String.toList_append, List.append_assoc]
      rfl

theorem qualified_write {prefixes : Prefixes} (sound : prefixes.Sound) {name : Name}
    (covers : prefixes.Covers name) (plain : PlainName name.localPart.toList) :
    Qualified PlainName (prefixes.write name).toList := by
  rcases write_cases sound covers with ⟨_, written⟩ | ⟨given, written, proper, _, _⟩
  · rw [written]
    exact .plain plain
  · exact .parted written proper plain

theorem elementName_write {prefixes : Prefixes} (sound : prefixes.Sound) {name : Name}
    (covers : prefixes.Covers name) (plain : PlainName name.localPart.toList) {scope : Scope}
    (undone : prefixes.Undone scope) : scope.elementName (prefixes.write name) = .ok name := by
  rw [Scope.elementName]
  rcases write_cases sound covers with ⟨none, written⟩ | ⟨given, written, proper, _, found⟩
  · rw [written, splitName_of_plain plain, undone.default, ← none]
    rfl
  · rw [splitName_of_parted written proper, String.ofList_toList, String.ofList_toList]
    simp only [found scope undone]

theorem attributeName_write {prefixes : Prefixes} (sound : prefixes.Sound) {name : Name}
    (covers : prefixes.Covers name) (plain : PlainName name.localPart.toList) {scope : Scope}
    (undone : prefixes.Undone scope) : scope.attributeName (prefixes.write name) = .ok name := by
  rw [Scope.attributeName]
  rcases write_cases sound covers with ⟨none, written⟩ | ⟨given, written, proper, _, found⟩
  · rw [written, splitName_of_plain plain, ← none]
  · rw [splitName_of_parted written proper, String.ofList_toList, String.ofList_toList]
    simp only [found scope undone]

/-- The name of an attribute declares no namespace. -/
theorem declaredPrefix?_write {prefixes : Prefixes} (sound : prefixes.Sound) {name : Name}
    (covers : prefixes.Covers name) (plain : PlainName name.localPart.toList)
    (other : name.space = "" → name.localPart ≠ "xmlns") :
    declaredPrefix? (prefixes.write name) = none := by
  rw [declaredPrefix?]
  rcases write_cases sound covers with ⟨none, written⟩ | ⟨given, written, proper, named, _⟩
  · rw [written, splitName_of_plain plain, if_neg (by simpa using other none)]
  · have different : (prefixes.write name == "xmlns") = false := by
      rw [beq_eq_false_iff_ne]
      intro same
      have colon : ':' ∈ (prefixes.write name).toList := by
        rw [written]
        simp
      rw [same] at colon
      exact absurd colon (by decide)
    rw [different, splitName_of_parted written proper, String.ofList_toList]
    simp only [Bool.false_eq_true, if_false]
    split
    · next same =>
      rw [Prod.mk.injEq, Option.some.injEq] at same
      exact absurd same.1 named
    · rfl

/-! ### The declarations of an element -/

/-- The declarations as attributes, each under the prefix that it declares. -/
def declaring (prefixes : Prefixes) : List (String × String) :=
  (prefixes.mergeSort fun left right => left.2 ≤ right.2).map fun entry => (entry.2, entry.1)

theorem mem_declaring {prefixes : Prefixes} {given space : String} :
    (given, space) ∈ prefixes.declaring ↔ (space, given) ∈ prefixes := by
  simp only [declaring, List.mem_map, List.mem_mergeSort, Prod.mk.injEq, Prod.exists]
  constructor
  · rintro ⟨_, _, member, rfl, rfl⟩
    exact member
  · exact fun member => ⟨_, _, member, rfl, rfl⟩

theorem nodup_declaring {prefixes : Prefixes} (sound : prefixes.Sound) :
    (prefixes.declaring.map Prod.fst).Nodup := by
  have same : prefixes.declaring.map Prod.fst =
      (prefixes.mergeSort fun left right => left.2 ≤ right.2).map Prod.snd := by
    rw [declaring, List.map_map]
    rfl
  rw [same]
  exact ((List.mergeSort_perm _ _).map Prod.snd).nodup_iff.mpr sound.distinct

theorem lookup_of_mem {entries : List (String × String)} (distinct : (entries.map Prod.fst).Nodup)
    {key value : String} (member : (key, value) ∈ entries) : entries.lookup key = some value := by
  induction entries with
  | nil => cases member
  | cons entry rest induction =>
    obtain ⟨fresh, distinct⟩ := List.nodup_cons.mp distinct
    rcases List.mem_cons.mp member with rfl | member
    · exact List.lookup_cons_self
    · rw [List.lookup_cons]
      split
      · next same =>
        obtain rfl := eq_of_beq same
        exact absurd (List.mem_map.mpr ⟨_, member, rfl⟩) fresh
      · exact induction distinct member

/-- A scope in which all of them are made undoes the prefixes. -/
theorem undone_declaring {prefixes : Prefixes} (sound : prefixes.Sound) :
    prefixes.Undone (prefixes.declaring.reverse ++ Scope.initial) := by
  have missing {given : String} (improper : ¬ ProperPrefix given) :
      prefixes.declaring.reverse.lookup given = none := by
    refine List.lookup_eq_none_iff.mpr fun entry member => ?_
    rw [List.mem_reverse] at member
    rw [bne_iff_ne]
    rintro rfl
    exact improper (sound.chosen _ (mem_declaring.mp member)).proper
  have distinct : (prefixes.declaring.reverse.map Prod.fst).Nodup := by
    rw [List.map_reverse]
    exact (List.reverse_perm _).nodup_iff.mpr (nodup_declaring sound)
  refine ⟨fun entry member => ?_, ?_, ?_⟩
  · have declared := List.mem_reverse.mpr (mem_declaring.mpr member)
    rw [List.lookup_append, lookup_of_mem distinct declared]
    rfl
  · rw [List.lookup_append, missing fun proper => proper.xml rfl]
    rfl
  · have improper : ¬ ProperPrefix "" := fun proper => absurd proper.plain (by decide)
    rw [List.lookup_append, missing improper]
    rfl

end Prefixes

end ScenarioTree.Xml
