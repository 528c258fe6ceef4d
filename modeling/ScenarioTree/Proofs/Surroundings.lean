/-
This file shows that nothing outside the first project of a document matters. A document with a
project is that project with something around it: elements that enclose it and their other children.
The project is the first one when none of the enclosing elements is a project and none stands in an
element before it; whatever comes after it may hold as many projects as it likes.

A session on the document and one on the project alone then find the same sections and do the same
from there on. What is put together is taken from the children of the project, one level after
another, so a project that is nested deeper is never taken for a part of it.
-/

import ScenarioTree.Proofs.Assembly
import ScenarioTree.Proofs.Footprint
import ScenarioTree.Proofs.Image

namespace ScenarioTree

namespace Xml

/-! ### Surroundings -/

/-- What is around an element in a document: nothing, or an element with other children before and
after the one in question, and what is around the element further inside that one. -/
inductive Surroundings where
  | nothing
  | around (name : Name) (attributes : List Attribute) (text : Run) (before : List Element)
      (inner : Surroundings) (after : List Element) (tail : Run)

/-- Whether no element of a tree has a tag. -/
def Element.Lacks (element : Element) (tag : String) : Prop :=
  ∀ place found, element.at? place = some found → found.tag ≠ tag

namespace Surroundings

/-- The document in which an element has these surroundings. -/
def embed (element : Element) : Surroundings → Element
  | nothing => element
  | around name attributes text before inner after tail =>
    ⟨name, attributes, text, before ++ inner.embed element :: after, tail⟩

/-- Whether no element with a tag comes before the one that is surrounded. -/
def Clear (tag : String) : Surroundings → Prop
  | nothing => True
  | around name _ _ before inner _ _ =>
    name.text ≠ tag ∧ (∀ sibling ∈ before, sibling.Lacks tag) ∧ inner.Clear tag

end Surroundings

namespace Element

theorem find?_eq_none_iff {tag : String} {element : Element} :
    element.find? tag = none ↔ element.Lacks tag := by
  constructor
  · exact fun absent place found stands => tag_ne_of_find?_eq_none absent place stands
  · intro lacks
    refine Option.eq_none_iff_forall_not_mem.mpr fun found search => ?_
    have first := first_of_find? search
    obtain ⟨place, stands, _⟩ := first.stands
    exact lacks place found stands first.tagged

/-- An element with a tag is the first one if its surroundings are clear. -/
theorem find?_embed {tag : String} {element : Element} (tagged : element.tag = tag)
    {surroundings : Surroundings} (clear : surroundings.Clear tag) :
    (surroundings.embed element).find? tag = some element := by
  induction surroundings with
  | nothing => rw [Surroundings.embed, find?_eq, if_pos tagged]
  | around name attributes text before inner after tail induction =>
    obtain ⟨other, lacking, clear⟩ := clear
    have passed : before.findSome? (find? tag) = none :=
      List.findSome?_eq_none_iff.mpr fun sibling member =>
        find?_eq_none_iff.mpr (lacking sibling member)
    have different : (Surroundings.embed element
        (.around name attributes text before inner after tail)).tag ≠ tag := other
    rw [find?_eq, if_neg different]
    show (before ++ inner.embed element :: after).findSome? (find? tag) = some element
    rw [List.findSome?_append, passed, Option.none_or, List.findSome?_cons, induction clear]

/-- What is found by its tag has surroundings that are clear. -/
theorem exists_clear_of_find? {tag : String} {root element : Element}
    (search : root.find? tag = some element) :
    ∃ surroundings : Surroundings, surroundings.Clear tag ∧ surroundings.embed element = root := by
  induction root using Element.induction with
  | step root below =>
    rw [find?_eq] at search
    split at search
    · cases search
      exact ⟨.nothing, trivial, rfl⟩
    · next other =>
      obtain ⟨before, child, after, children, inside, passed⟩ :=
        List.findSome?_eq_some_iff.mp search
      have member : child ∈ root.children := by
        rw [children]
        exact List.mem_append_right before List.mem_cons_self
      obtain ⟨inner, clear, embedded⟩ := below child member inside
      obtain ⟨name, attributes, text, all, tail⟩ := root
      refine ⟨.around name attributes text before inner after tail,
        ⟨other, fun sibling earlier => find?_eq_none_iff.mp (passed sibling earlier), clear⟩, ?_⟩
      obtain rfl : all = before ++ child :: after := children
      rw [Surroundings.embed, embedded]

/-- The first element with a tag is the one whose surroundings are clear. -/
theorem first_iff_exists_clear {tag : String} {root element : Element} :
    root.First tag element ↔
      element.tag = tag ∧ ∃ surroundings : Surroundings,
        surroundings.Clear tag ∧ surroundings.embed element = root := by
  rw [← find?_eq_some_iff]
  constructor
  · exact fun search => ⟨(first_of_find? search).tagged, exists_clear_of_find? search⟩
  · rintro ⟨tagged, surroundings, clear, rfl⟩
    exact find?_embed tagged clear

/-- If there is an element with a tag, there is a first one. -/
theorem exists_first {tag : String} {root element : Element} {place : Place}
    (stands : root.at? place = some element) (tagged : element.tag = tag) :
    ∃ found, root.First tag found := by
  cases search : root.find? tag with
  | none => exact absurd tagged (find?_eq_none_iff.mp search place element stands)
  | some found => exact ⟨found, first_of_find? search⟩

/-- An element with the tag is the first one in itself. -/
theorem first_self {tag : String} {element : Element} (tagged : element.tag = tag) :
    element.First tag element :=
  first_iff_exists_clear.mpr ⟨tagged, .nothing, trivial, rfl⟩

end Element

end Xml

namespace Build

open ScenarioTree.Xml (Element Place Surroundings childrenTagged select_tag selectFirst?_tag)

/-! ### What a project is made of -/

/-- The sections that stand directly in a project: of its children with each name the first. -/
structure OwnSections (project : Element) (sections : Sections) : Prop where
  name : (childrenTagged project "name").head? = some sections.name
  description : (childrenTagged project "description").head? = some sections.description
  scenarios : (childrenTagged project "scenarios").head? = some sections.scenarios
  actionwords : (childrenTagged project "actionwords").head? = some sections.actionwords

/-- A project that is put together from the sections of an element, with a slot for each scenario
and each action that stands directly in them, and the failures that these leave. -/
inductive MadeOf (element : Element) : Project → List Failure → Prop where
  | sections {sections : Sections} (own : OwnSections element sections) :
      MadeOf element
        (sections.project ((childrenTagged sections.scenarios "scenario").map slotOf)
          ((childrenTagged sections.actionwords "actionword").map slotOf))
        ((childrenTagged sections.scenarios "scenario" ++
          childrenTagged sections.actionwords "actionword").flatMap
            fun child => (build child).failures)

theorem head?_childrenTagged_of_sectionOf {project found : Element} {name : String}
    (other : name ≠ "*") (search : sectionOf project name = .ok found) :
    (childrenTagged project name).head? = some found := by
  rw [← selectFirst?_tag project other]
  exact sectionOf_ok_iff.mp search

theorem ownSections_of_find {root project : Element} (first : root.First "project" project)
    {sections : Sections} (found : Sections.find root = .ok sections) :
    OwnSections project sections := by
  rw [Sections.find_eq first] at found
  obtain ⟨name, named, found⟩ := exists_of_bind_ok found
  obtain ⟨description, described, found⟩ := exists_of_bind_ok found
  obtain ⟨scenarios, tested, found⟩ := exists_of_bind_ok found
  obtain ⟨actionwords, worded, found⟩ := exists_of_bind_ok found
  cases found
  exact ⟨head?_childrenTagged_of_sectionOf (by decide) named,
    head?_childrenTagged_of_sectionOf (by decide) described,
    head?_childrenTagged_of_sectionOf (by decide) tested,
    head?_childrenTagged_of_sectionOf (by decide) worded⟩

theorem buildAll_eq (elements : List Element) :
    buildAll elements =
      ⟨elements.map slotOf, elements.flatMap fun element => (build element).failures⟩ := by
  rw [buildAll, List.map_map, List.flatMap_map]
  rfl

/-- A project is made of what its own element holds. -/
theorem madeOf_of_assemble {root project : Element} (first : root.First "project" project)
    {assembly : Assembly} (assembled : assemble root = .ok assembly) :
    MadeOf project assembly.project assembly.failures := by
  obtain ⟨sections, found, assembled⟩ := exists_of_bind_ok assembled
  have tests : sections.scenarioElements = childrenTagged sections.scenarios "scenario" :=
    select_tag _ (by decide)
  have words : sections.actionwordElements = childrenTagged sections.actionwords "actionword" :=
    select_tag _ (by decide)
  have made := MadeOf.sections (ownSections_of_find first found)
  rw [← tests, ← words, List.flatMap_append] at made
  rw [buildAll_eq, buildAll_eq] at assembled
  cases assembled
  exact made

/-! ### Documents with the same project -/

/-- Two documents from which a session puts together the same: it returns the same project or the
same fault, it remembers the same project, failures and reports, and its log is the same. Faults and
failures hold the elements that they are about, so these are shown as the same markup. -/
structure SameAssembly (session : Session) (document other : Element) : Prop where
  result : (session.on document).assemble.1 = (session.on other).assemble.1
  project : (session.on document).assemble.2.project = (session.on other).assemble.2.project
  failures : (session.on document).assemble.2.failures = (session.on other).assemble.2.failures
  diagnostics :
    (session.on document).assemble.2.diagnostics = (session.on other).assemble.2.diagnostics
  log : (session.on document).assemble.2.log = (session.on other).assemble.2.log

/-- Only the first project of a document is looked at. -/
theorem assemble_congr {document other project : Element}
    (first : document.First "project" project) (same : other.First "project" project) :
    assemble document = assemble other := by
  rw [assemble, assemble, Sections.find_eq first, Sections.find_eq same]

/-- What a session does with two such documents differs only in the document that it has. -/
theorem assemble_on_eq {document other : Element} (same : assemble document = assemble other)
    (session : Session) :
    (session.on document).assemble =
      ((session.on other).assemble.1, (session.on other).assemble.2.on document) := by
  have onDocument : (session.on document).root = document := rfl
  have onOther : (session.on other).root = other := rfl
  rw [Session.assemble_eq, Session.assemble_eq, onDocument, onOther, same]
  cases assemble other with
  | error fault => rfl
  | ok assembly =>
    simp only [Session.noting_eq]
    rfl

theorem sameAssembly_of_first {document other project : Element}
    (first : document.First "project" project) (same : other.First "project" project)
    (session : Session) : SameAssembly session document other := by
  have equal := assemble_on_eq (assemble_congr first same) session
  constructor
  all_goals rw [equal]
  all_goals rfl

/-- Of a document that contains a project nothing matters but the first one. A session does with the
document what it does with that project alone, and the same again in any other surroundings in which
nothing comes before it; and what it puts together is made of what this one project holds. -/
theorem only_first_project_matters {root contained : Element} {place : Place}
    (stands : root.at? place = some contained) (tagged : contained.tag = "project") :
    ∃ project, root.First "project" project ∧
      (∀ session, SameAssembly session root project) ∧
      (∀ surroundings : Surroundings, surroundings.Clear "project" →
        ∀ session, SameAssembly session (surroundings.embed project) project) ∧
      ∀ (session : Session) (made : Project), (session.on root).assemble.1 = .ok made →
        MadeOf project made (session.on root).assemble.2.failures := by
  obtain ⟨project, first⟩ := Element.exists_first stands tagged
  have own := Element.first_self first.tagged
  refine ⟨project, first, sameAssembly_of_first first own, ?_, ?_⟩
  · intro surroundings clear session
    have embedded := Element.first_iff_exists_clear.mpr ⟨first.tagged, surroundings, clear, rfl⟩
    exact sameAssembly_of_first embedded own session
  · intro session made put
    cases assembled : assemble root with
    | error fault =>
      have onRoot : (session.on root).root = root := rfl
      rw [Session.assemble_eq, onRoot, assembled] at put
      cases put
    | ok assembly =>
      rw [@Session.assemble_of_ok (session.on root) assembly assembled] at put ⊢
      cases put
      exact madeOf_of_assemble first assembled

/-- A project with a gap among its scenarios. -/
def exportedProject : Element :=
  .branch "project"
    [.leaf "name" "first", .leaf "description" "",
      .branch "scenarios" [.branch "project" [.leaf "name" "inner"], .branch "scenario" []],
      .branch "actionwords" []]

/-- A document in which that project has one inside, and another one behind it. -/
def exportedDocument : Element :=
  .branch "export"
    [.leaf "remark" "two projects", .branch "projects"
      [exportedProject, .branch "project" [.leaf "name" "second"]]]

theorem only_first_project_matters_exported :
    exportedDocument.at? [1, 1] = some (.branch "project" [.leaf "name" "second"]) ∧
      (∀ session, SameAssembly session exportedDocument exportedProject) ∧
      (Session.start exportedDocument true none).assemble.1 = .ok ⟨"first", "", [none], []⟩ := by
  refine ⟨rfl, ?_, rfl⟩
  obtain ⟨project, first, same, _⟩ :=
    @only_first_project_matters exportedDocument _ [1, 1] rfl rfl
  have found : exportedDocument.First "project" exportedProject :=
    Element.find?_eq_some_iff.mp rfl
  rw [found.unique first]
  exact same

end Build

end ScenarioTree
