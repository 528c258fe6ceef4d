/-
This file shows that comments and processing instructions which are kept in a tree count as text and
as nothing else. To make a tree flat is to put every note, and the text after it, into the text in
which it stands. Whatever is looked for in a tree is found at the same place in the flat one, with
the same text, and what is built from the two is the same.

Notes stand among the elements, as members of the element around them. Two things are done with the
members of an element: whoever looks for elements passes over the notes, and whoever gathers text
goes through all members, the text of notes included. Both ways a note cannot be told from text.
-/

import ScenarioTree.Proofs.Alike

namespace ScenarioTree

namespace Xml

/-! ### Members -/

/-- What stands directly in an element besides text. -/
inductive Member where
  | note (note : Note)
  | element (element : Element)

namespace Member

/-- The element that a member is, if it is one. -/
def element? : Member → Option Element
  | note _ => none
  | element found => some found

/-- The text of a member. -/
def content : Member → String
  | note given => given.body
  | element found => found.content

/-- The text between a member and the next one. -/
def after : Member → String
  | note given => given.after
  | element found => found.tail.text

end Member

namespace Element

/-- The members of an element, in order. -/
def members (element : Element) : List Member :=
  element.text.notes.map .note ++
    element.children.flatMap fun child => .element child :: child.tail.notes.map .note

theorem filterMap_notes (notes : List Note) :
    (notes.map Member.note).filterMap Member.element? = [] := by
  rw [List.filterMap_map]
  exact List.filterMap_eq_nil_iff.mpr fun _ _ => rfl

/-- The children are the members that are elements. -/
theorem elements_members (element : Element) :
    element.members.filterMap Member.element? = element.children := by
  have alone (child : Element) :
      (Member.element child :: child.tail.notes.map Member.note).filterMap Member.element? =
        [child] := by
    rw [List.filterMap_cons, filterMap_notes]
    rfl
  rw [members, List.filterMap_append, filterMap_notes, List.nil_append, List.filterMap_flatMap]
  simp only [alone, List.flatMap_singleton']

theorem contentOfChildren_eq (children : List Element) :
    contentOfChildren children =
      String.join (children.map fun child => child.content ++ child.tail.content) := by
  induction children with
  | nil => rfl
  | cons child rest induction =>
    rw [contentOfChildren, induction, List.map_cons, String.join_cons]

theorem content_eq (element : Element) :
    element.content = element.text.content ++
      String.join (element.children.map fun child => child.content ++ child.tail.content) := by
  obtain ⟨name, attributes, text, children, tail⟩ := element
  rw [content, contentOfChildren_eq]

/-- The text of an element is gathered from all its members. -/
theorem content_eq_members (element : Element) :
    element.content = element.text.text ++
      String.join (element.members.map fun member => member.content ++ member.after) := by
  have inRun (notes : List Note) :
      (notes.map Member.note).map (fun member => member.content ++ member.after) =
        notes.map fun note => note.body ++ note.after := by
    rw [List.map_map]
    rfl
  have beside (children : List Element) :
      String.join ((children.flatMap fun child =>
        Member.element child :: child.tail.notes.map Member.note).map
          fun member => member.content ++ member.after) =
        String.join (children.map fun child => child.content ++ child.tail.content) := by
    induction children with
    | nil => rfl
    | cons child rest induction =>
      rw [List.flatMap_cons, List.map_append, String.join_append, induction, List.map_cons, inRun,
        String.join_cons, List.map_cons, String.join_cons, Run.content]
      simp only [Member.content, Member.after, String.append_assoc]
  rw [content_eq, members, List.map_append, String.join_append, inRun, beside, Run.content,
    String.append_assoc]

/-! ### Flat trees -/

end Element

/-- A run in which the text of every note is text. -/
def Run.flat (run : Run) : Run :=
  .ofText run.content

theorem Run.content_flat (run : Run) : run.flat.content = run.content := by
  rw [flat, ofText, content]
  exact String.append_empty

namespace Element

mutual

/-- An element in which every note has become text, together with the text after it. -/
def flat : Element → Element
  | ⟨name, attributes, text, children, tail⟩ =>
    ⟨name, attributes, text.flat, flatChildren children, tail.flat⟩

/-- Elements in which every note has become text. -/
def flatChildren : List Element → List Element
  | [] => []
  | child :: rest => child.flat :: flatChildren rest

end

theorem flatChildren_eq (children : List Element) : flatChildren children = children.map flat := by
  induction children with
  | nil => rfl
  | cons child rest induction => rw [flatChildren, induction, List.map_cons]

theorem flat_eq (element : Element) :
    element.flat =
      ⟨element.name, element.attributes, element.text.flat, element.children.map flat,
        element.tail.flat⟩ := by
  obtain ⟨name, attributes, text, children, tail⟩ := element
  rw [flat, flatChildren_eq]

@[simp]
theorem children_flat (element : Element) : element.flat.children = element.children.map flat := by
  rw [flat_eq]

@[simp]
theorem tag_flat (element : Element) : element.flat.tag = element.tag := by
  rw [flat_eq]
  rfl

@[simp]
theorem tail_flat (element : Element) : element.flat.tail = element.tail.flat := by
  rw [flat_eq]

/-- No note is left. -/
theorem notes_flat (element : Element) :
    element.flat.text.notes = [] ∧ element.flat.tail.notes = [] := by
  rw [flat_eq]
  exact ⟨rfl, rfl⟩

/-- The text stays what it was. -/
theorem content_flat (element : Element) : element.flat.content = element.content := by
  induction element using Element.induction with
  | step element below =>
    have children : (element.children.map flat).map (fun child => child.content ++ child.tail.content) =
        element.children.map fun child => child.content ++ child.tail.content := by
      rw [List.map_map]
      refine List.map_congr_left fun child member => ?_
      show child.flat.content ++ child.flat.tail.content = _
      rw [below child member, tail_flat, Run.content_flat]
    rw [content_eq, content_eq element, children_flat, children, flat_eq, Run.content_flat]

/-- An element stands where it stood. -/
theorem at?_flat (element : Element) (place : Place) :
    element.flat.at? place = (element.at? place).map flat := by
  induction place generalizing element with
  | nil => rfl
  | cons index place induction =>
    rw [at?, at?, children_flat, List.getElem?_map, Option.bind_map, Option.map_bind]
    exact congrArg _ (funext induction)

/-- A path leads to the same places. -/
theorem placed_flat (element : Element) (path : Path) :
    element.flat.placed path =
      (element.placed path).map fun found => (found.1, found.2.flat) := by
  induction path generalizing element with
  | nil => rfl
  | cons step path induction =>
    rw [placed, placed, children_flat, List.zipIdx_map, List.flatMap_map, List.map_flatMap]
    refine List.flatMap_congr fun entry _ => ?_
    have answers : entry.1.flat.answers step = entry.1.answers step := by
      rw [Element.answers, Element.answers, tag_flat]
    show (if entry.1.flat.answers step then
      (entry.1.flat.placed path).map fun found => (entry.2 :: found.1, found.2) else []) = _
    rw [answers, induction]
    split
    · rw [List.map_map, List.map_map]
      rfl
    · rfl

theorem select_flat (element : Element) (path : Path) :
    element.flat.select path = (element.select path).map flat := by
  rw [← map_snd_placed, ← map_snd_placed, placed_flat, List.map_map, List.map_map]
  rfl

theorem selectFirst?_flat (element : Element) (path : Path) :
    element.flat.selectFirst? path = (element.selectFirst? path).map flat := by
  rw [selectFirst?, selectFirst?, select_flat, List.head?_map]

theorem firstChild?_flat (element : Element) :
    element.flat.firstChild? = element.firstChild?.map flat := by
  rw [firstChild?, firstChild?, children_flat, List.head?_map]

/-- Whether an element is another one made flat. -/
def FlatOf (kept flat : Element) : Prop :=
  flat = kept.flat

theorem descends_flatOf : Descends FlatOf := by
  constructor
  · rintro kept _ rfl
    exact kept.tag_flat.symm
  · rintro kept _ rfl
    rw [children_flat, List.forall₂_map_right_iff]
    exact List.forall₂_same.mpr fun _ _ => rfl

theorem find?_flat (element : Element) (tag : String) :
    element.flat.find? tag = (element.find? tag).map flat := by
  have found : Option.Rel FlatOf (element.find? tag) (element.flat.find? tag) :=
    descends_flatOf.find? rfl tag
  generalize element.find? tag = first, element.flat.find? tag = other at found
  cases found with
  | none => rfl
  | some flat => exact congrArg some flat

/-- What is found in an element when notes are kept: the children that are looked through are the
members that are elements, and text is gathered from all members. -/
structure PassesOverNotes (element : Element) : Prop where
  select : ∀ step path, element.select (step :: path) =
    ((element.members.filterMap Member.element?).filter (·.answers step)).flatMap (·.select path)
  firstChild? : element.firstChild? = (element.members.filterMap Member.element?).head?
  content : element.content = element.text.text ++
    String.join (element.members.map fun member => member.content ++ member.after)

theorem passesOverNotes (element : Element) : element.PassesOverNotes := by
  refine ⟨fun step path => ?_, ?_, element.content_eq_members⟩
  · rw [elements_members, Element.select]
  · rw [elements_members, firstChild?]

/-- What is found in a tree is found in the flat one, at the same places and with the same text. -/
structure FoundAlike (kept : Element) : Prop where
  at? : ∀ place, kept.flat.at? place = (kept.at? place).map flat
  placed : ∀ path, kept.flat.placed path =
    (kept.placed path).map fun found => (found.1, found.2.flat)
  select : ∀ path, kept.flat.select path = (kept.select path).map flat
  selectFirst? : ∀ path, kept.flat.selectFirst? path = (kept.selectFirst? path).map flat
  firstChild? : kept.flat.firstChild? = kept.firstChild?.map flat
  find? : ∀ tag, kept.flat.find? tag = (kept.find? tag).map flat
  first : ∀ tag found, kept.find? tag = some found →
    ∃ place, kept.at? place = some found ∧ kept.flat.at? place = kept.flat.find? tag ∧
      ∀ earlier < place, ∀ other, kept.at? earlier = some other → other.tag ≠ tag
  content : kept.flat.content = kept.content

theorem foundAlike (kept : Element) : kept.FoundAlike := by
  refine ⟨at?_flat kept, placed_flat kept, select_flat kept, selectFirst?_flat kept,
    firstChild?_flat kept, find?_flat kept, fun tag found search => ?_, content_flat kept⟩
  obtain ⟨place, stands, before⟩ := (first_of_find? search).stands
  refine ⟨place, stands, ?_, before⟩
  rw [at?_flat, find?_flat, stands, search]

end Element

end Xml

namespace Build

open ScenarioTree.Xml (Element)
open ScenarioTree.Xml.Element (FlatOf descends_flatOf)

/-! ### Building flat trees -/

theorem carries_flatOf : Carries FlatOf := by
  have texts (kept : Element) (path : Xml.Path) :
      (kept.selectFirst? path).map Element.content =
        (kept.flat.selectFirst? path).map Element.content := by
    rw [Element.selectFirst?_flat, Option.map_map]
    exact congrArg (Option.map · _) (funext fun found => found.content_flat.symm)
  refine ⟨descends_flatOf, ?_, ?_, ?_⟩
  · rintro kept _ _ rfl _ _
    exact kept.content_flat.symm
  · rintro kept _ _ rfl _ path _
    exact texts kept path
  · rintro kept _ rfl _ path _
    exact texts kept path

/-! ### Visits -/

/-- What is handed to a rule, or reported as an empty wrapper, while some elements are built: these
elements themselves and, for every element that is, the parts that its rule asks for. -/
inductive Visited (starts : List Element) : Part → Prop where
  | start {element : Element} (member : element ∈ starts) : Visited starts (.element element)
  | part {element : Element} {part : Part} (visited : Visited starts (.element element))
      (asked : part ∈ (planOf element).parts) : Visited starts part

/-- The elements that are built for the project of a document. -/
def projectElements (root : Element) : List Element :=
  match Sections.find root with
  | .ok sections => sections.scenarioElements ++ sections.actionwordElements
  | .error _ => []

/-- Whether an element stands somewhere in a tree. -/
def StandsIn (root element : Element) : Prop :=
  ∃ place, root.at? place = some element

theorem StandsIn.trans {root outer inner : Element} (standing : StandsIn root outer)
    (inside : StandsIn outer inner) : StandsIn root inner := by
  obtain ⟨place, stands⟩ := standing
  obtain ⟨rest, within⟩ := inside
  refine ⟨place ++ rest, ?_⟩
  rw [Element.at?_append, stands]
  exact within

theorem standsIn_of_mem_select {element found : Element} {path : Xml.Path}
    (member : found ∈ element.select path) : StandsIn element found := by
  rw [← Element.map_snd_placed] at member
  obtain ⟨⟨place, _⟩, placed, rfl⟩ := List.mem_map.mp member
  exact ⟨place, Element.at?_of_mem_placed placed⟩

theorem standsIn_of_firstChild? {element payload : Element}
    (first : element.firstChild? = some payload) : StandsIn element payload := by
  refine @standsIn_of_mem_select element payload ["*"] ?_
  rw [select_star]
  exact List.mem_of_head? first

theorem standsIn_of_mem_projectElements {root element : Element}
    (member : element ∈ projectElements root) : StandsIn root element := by
  rw [projectElements] at member
  cases found : Sections.find root with
  | error fault =>
    rw [found] at member
    cases member
  | ok sections =>
    rw [found] at member
    obtain ⟨project, within, scenarios, actionwords⟩ := Sections.find_ok found
    obtain ⟨place, stands, _⟩ := (Element.first_of_find? within).stands
    have inProject : StandsIn root project := ⟨place, stands⟩
    rcases List.mem_append.mp member with member | member
    · exact (inProject.trans (standsIn_of_mem_select (List.mem_of_head? scenarios))).trans
        (standsIn_of_mem_select member)
    · exact (inProject.trans (standsIn_of_mem_select (List.mem_of_head? actionwords))).trans
        (standsIn_of_mem_select member)

/-- What is visited stands in the tree in which the visits start. -/
theorem Visited.standsIn {root : Element} {starts : List Element} {part : Part}
    (inside : ∀ element ∈ starts, StandsIn root element) (visited : Visited starts part) :
    StandsIn root part.source := by
  induction visited with
  | start member => exact inside _ member
  | part _ asked induction =>
    rw [← map_part_reached] at asked
    obtain ⟨site, reached, rfl⟩ := List.mem_map.mp asked
    exact induction.trans ⟨site.place, (inside_of_mem_reached reached).found⟩

theorem exists_of_mem_of_forall₂ {α β : Type} {like : α → β → Prop} {lefts : List α}
    {rights : List β} (related : List.Forall₂ like lefts rights) :
    (∀ left ∈ lefts, ∃ right ∈ rights, like left right) ∧
      ∀ right ∈ rights, ∃ left ∈ lefts, like left right := by
  induction related with
  | nil => simp
  | cons first _ induction =>
    simp only [List.forall_mem_cons, List.exists_mem_cons_iff]
    exact ⟨⟨.inl first, fun left member => .inr (induction.1 left member)⟩,
      .inl first, fun right member => .inr (induction.2 right member)⟩

theorem alike_flatOf_unique {source first second : Part} (one : Part.Alike FlatOf source first)
    (other : Part.Alike FlatOf source second) : first = second := by
  cases one with
  | element related =>
    cases other with
    | element same => exact congrArg Part.element (related.trans same.symm)
  | vacant related =>
    cases other with
    | vacant same => exact congrArg Part.vacant (related.trans same.symm)

/-- Of elements and of their flat forms corresponding elements are visited, and no others. -/
theorem visited_flat_iff {starts flats : List Element} (related : List.Forall₂ FlatOf starts flats)
    {part : Part} :
    Visited flats part ↔ ∃ source, Visited starts source ∧ Part.Alike FlatOf source part := by
  constructor
  · intro visited
    induction visited with
    | start member =>
      obtain ⟨source, sourceMember, flat⟩ := (exists_of_mem_of_forall₂ related).2 _ member
      exact ⟨.element source, .start sourceMember, .element flat⟩
    | part _ asked induction =>
      obtain ⟨_, sourceVisited, ⟨flat⟩⟩ := induction
      obtain ⟨source, sourceAsked, alike⟩ :=
        (exists_of_mem_of_forall₂ (carries_flatOf.planOf flat).parts).2 _ asked
      exact ⟨source, .part sourceVisited sourceAsked, alike⟩
  · rintro ⟨source, visited, alike⟩
    -- an element has one flat form, so the partner that is found is the part in question
    induction visited generalizing part with
    | start member =>
      obtain ⟨partner, partnerMember, flat⟩ := (exists_of_mem_of_forall₂ related).1 _ member
      obtain rfl := alike_flatOf_unique (.element flat) alike
      exact .start partnerMember
    | @part element source _ asked induction =>
      obtain ⟨partner, partnerAsked, partnerAlike⟩ :=
        (exists_of_mem_of_forall₂
          (carries_flatOf.planOf (rfl : FlatOf element element.flat)).parts).1 _ asked
      obtain rfl := alike_flatOf_unique partnerAlike alike
      exact .part (induction (.element rfl)) partnerAsked

/-! ### Names -/

/-- The name of an entry of a sequence. -/
def entryName? : Slot → Option String
  | some (.property key _) => some key
  | some (.argument name _) => some name
  | _ => none

/-- The names that a node gives to what it holds. -/
def namesOf : Node → List String
  | .dict items | .call _ items => items.filterMap entryName?
  | .step key _ => [key]
  | _ => []

/-- A name is the tag of an element. -/
theorem Made.exists_named {slotOf : Element → Slot} {element : Element} {kind : Kind} {node : Node}
    (made : Made slotOf element kind node) {name : String} (member : name ∈ namesOf node) :
    ∃ found, StandsIn element found ∧ found.tag = name := by
  cases made with
  | dict | call =>
    simp only [namesOf, List.filterMap_map, List.mem_filterMap] at member
    obtain ⟨entry, selected, named⟩ := member
    exact ⟨entry, standsIn_of_mem_select selected, Option.some.inj named⟩
  | step first =>
    exact ⟨_, standsIn_of_firstChild? first, (List.mem_singleton.mp member).symm⟩
  | role first =>
    exact ⟨_, standsIn_of_firstChild? first, (List.mem_singleton.mp member).symm⟩
  | _ => cases member

/-! ### Notes are text -/

/-- Visits to a tree that pass over its notes: they correspond to those of a flat tree, and what is
visited, and what a name is taken from, is an element of the tree. -/
structure VisitsElements (root : Element) (starts flats : List Element) : Prop where
  visited : ∀ part, Visited flats part ↔
    ∃ source, Visited starts source ∧ Part.Alike FlatOf source part
  stands : ∀ part, Visited starts part → StandsIn root part.source
  named : ∀ element node, Visited starts (.element element) → (build element).result = .ok node →
    ∀ name ∈ namesOf node, ∃ found, StandsIn root found ∧ found.tag = name

theorem visitsElements {root : Element} {starts flats : List Element}
    (related : List.Forall₂ FlatOf starts flats)
    (inside : ∀ element ∈ starts, StandsIn root element) : VisitsElements root starts flats where
  visited _ := visited_flat_iff related
  stands _ := Visited.standsIn inside
  named element node visited built name member := by
    obtain ⟨kind, _, made⟩ := build_ok_iff.mp built
    obtain ⟨found, within, tagged⟩ := made.exists_named member
    exact ⟨found, (visited.standsIn inside).trans within, tagged⟩

theorem forall₂_projectElements_flat (kept : Element) :
    List.Forall₂ FlatOf (projectElements kept) (projectElements kept.flat) := by
  have found := Sections.find_alike carries_flatOf (rfl : FlatOf kept kept.flat)
  rw [projectElements, projectElements]
  generalize Sections.find kept = first, Sections.find kept.flat = other at found
  cases found with
  | error _ => exact .nil
  | ok alike =>
    exact List.rel_append (descends_flatOf.select alike.scenarios ["scenario"])
      (descends_flatOf.select alike.actionwords ["actionword"])

/-- What becomes of the notes in a tree. They count as text where text is gathered, and nowhere else
do they count: whatever is found or built in the tree is found and built in the flat one, which has
no notes, and only elements are visited on the way. -/
structure NotesAreText (kept : Element) : Prop where
  notes : ∀ place found, kept.flat.at? place = some found →
    found.text.notes = [] ∧ found.tail.notes = []
  passed : ∀ place found, kept.at? place = some found → found.PassesOverNotes
  found : ∀ place found, kept.at? place = some found → found.FoundAlike
  built : BuiltAlike FlatOf kept kept.flat
  assembled : AssembledAlike FlatOf kept kept.flat
  visits : VisitsElements kept [kept] [kept.flat]
  projectVisits : VisitsElements kept (projectElements kept) (projectElements kept.flat)

/-- Whatever notes are kept in a tree, and wherever they stand, they are text. -/
theorem notes_are_text (kept : Element) : NotesAreText kept where
  notes place found stands := by
    rw [Element.at?_flat] at stands
    obtain ⟨source, _, rfl⟩ := Option.map_eq_some_iff.mp stands
    exact source.notes_flat
  passed _ found _ := found.passesOverNotes
  found _ found _ := found.foundAlike
  built := carries_flatOf.builtAlike rfl
  assembled := carries_flatOf.assembledAlike rfl
  visits := by
    refine visitsElements (.cons rfl .nil) fun element member => ?_
    obtain rfl := List.mem_singleton.mp member
    exact ⟨[], rfl⟩
  projectVisits :=
    visitsElements (forall₂_projectElements_flat kept) fun _ => standsIn_of_mem_projectElements

end Build

end ScenarioTree
