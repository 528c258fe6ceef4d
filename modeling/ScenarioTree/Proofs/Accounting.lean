/-
This file states what failures say about gaps. Whatever a session has been through, the failures it
gains by building an element are the record of that element; if a node comes out, its gaps are as
many as the outermost of them, and if none comes out, the last of them says so. The same is true of
a project: its sections are elements that cannot fail, and it owes a slot to each of them.
-/

import ScenarioTree.Proofs.Gap
import ScenarioTree.Proofs.Session

namespace ScenarioTree.Build

open ScenarioTree.Xml (Element Place outermost)

/-! ### The sections of a project -/

/-- The section of scenarios is an element that is built like any other. -/
theorem slotOf_scenarios {part : Element} (named : part.tag = "scenarios") :
    slotOf part = some (.scenarios (buildAll (part.select ["scenario"])).slots) := by
  rw [slotOf_eq_some_iff, build_ok_iff]
  refine ⟨.scenarios, by rw [named]; rfl, ?_⟩
  have same : (buildAll (part.select ["scenario"])).slots =
      (part.select ["scenario"]).map slotOf := List.map_map
  rw [same]
  exact .scenarios

/-- The section of actions is an element that is built like any other. -/
theorem slotOf_actionwords {part : Element} (named : part.tag = "actionwords") :
    slotOf part = some (.actionwords (buildAll (part.select ["actionword"])).slots) := by
  rw [slotOf_eq_some_iff, build_ok_iff]
  refine ⟨.actionwords, by rw [named]; rfl, ?_⟩
  have same : (buildAll (part.select ["actionword"])).slots =
      (part.select ["actionword"]).map slotOf := List.map_map
  rw [same]
  exact .actionwords

/-- A section leaves the failures of its elements. -/
theorem failures_section {part : Element} {kind : Kind} {path : Xml.Path}
    (announced : Kind.ofTag? part.tag = some kind)
    (asks : (kind.plan part).parts = (part.select path).map .element) {node : Node}
    (built : (build part).result = .ok node) :
    (build part).failures = (buildAll (part.select path)).failures := by
  rw [Outcome.failures_of_ok built, build_eq, planOf, announced]
  simp only [Outcome.ofRun, carryOut, Plan.run, asks, List.map_map, List.flatMap_map, buildAll]
  rfl

theorem failures_scenarios {part : Element} (named : part.tag = "scenarios") :
    (build part).failures = (buildAll (part.select ["scenario"])).failures :=
  failures_section (by rw [named]; rfl) rfl (slotOf_eq_some_iff.mp (slotOf_scenarios named))

theorem failures_actionwords {part : Element} (named : part.tag = "actionwords") :
    (build part).failures = (buildAll (part.select ["actionword"])).failures :=
  failures_section (by rw [named]; rfl) rfl (slotOf_eq_some_iff.mp (slotOf_actionwords named))

theorem sectionOf_ok_iff {project found : Element} {name : String} :
    sectionOf project name = .ok found ↔ project.selectFirst? [name] = some found := by
  rw [sectionOf]
  cases project.selectFirst? [name] <;> simp

theorem exists_of_bind_ok {error α β : Type} {first : Except error α} {next : α → Except error β}
    {last : β} (done : first.bind next = .ok last) :
    ∃ value, first = .ok value ∧ next value = .ok last := by
  cases first with
  | error cause => cases done
  | ok value => exact ⟨value, rfl, done⟩

/-- The sections that were found stand in the project of the document. -/
theorem Sections.find_ok {root : Element} {sections : Sections}
    (found : Sections.find root = .ok sections) :
    ∃ project, Document.findProject? root = some project ∧
      project.selectFirst? ["scenarios"] = some sections.scenarios ∧
      project.selectFirst? ["actionwords"] = some sections.actionwords := by
  rw [Sections.find] at found
  cases within : Document.findProject? root with
  | none =>
    rw [within] at found
    cases found
  | some project =>
    rw [within] at found
    obtain ⟨name, _, found⟩ := exists_of_bind_ok found
    obtain ⟨description, _, found⟩ := exists_of_bind_ok found
    obtain ⟨scenarios, scenariosFound, found⟩ := exists_of_bind_ok found
    obtain ⟨actionwords, actionwordsFound, found⟩ := exists_of_bind_ok found
    cases found
    exact ⟨project, rfl, sectionOf_ok_iff.mp scenariosFound,
      sectionOf_ok_iff.mp actionwordsFound⟩

/-! ### The record of a project -/

/-- The failures that putting a project together leaves, each with its place in the project. -/
def projectRecord (project : Element) : List (Place × Failure) :=
  (projectSites project).flatMap Site.record

theorem map_part_projectSites (project : Element) :
    (projectSites project).map Site.part =
      (project.selectFirst? ["scenarios"]).toList.map .element ++
        (project.selectFirst? ["actionwords"]).toList.map .element := by
  simp [projectSites, projectRequests]

/-- A project that was put together accounts for the failures of its two sections. -/
theorem assemble_ok {root : Element} {assembly : Assembly}
    (assembled : assemble root = .ok assembly) :
    ∃ project, Document.findProject? root = some project ∧
      (projectRecord project).map Prod.snd = assembly.failures ∧
      assembly.project.node.owed project =
        (projectSites project).map fun site => site.part.slot := by
  obtain ⟨sections, found, assembled⟩ := exists_of_bind_ok assembled
  obtain ⟨project, within, scenariosFound, actionwordsFound⟩ := Sections.find_ok found
  cases assembled
  have scenariosNamed := tag_of_mem_select [] (by decide) (List.mem_of_head? scenariosFound)
  have actionwordsNamed := tag_of_mem_select [] (by decide) (List.mem_of_head? actionwordsFound)
  have parts : (projectSites project).map Site.part =
      [.element sections.scenarios, .element sections.actionwords] := by
    rw [map_part_projectSites, scenariosFound, actionwordsFound]
    rfl
  refine ⟨project, within, ?_, ?_⟩
  · have recorded (site : Site) : site.record.map Prod.snd =
        (site.part.build fun found => (build found).yield).failures :=
      site.map_snd_record fun found _ => map_snd_record found
    have visited : (projectRecord project).map Prod.snd =
        ((projectSites project).map Site.part).flatMap fun part =>
          (part.build fun found => (build found).yield).failures := by
      rw [projectRecord, List.map_flatMap, List.flatMap_map]
      exact List.flatMap_congr fun site _ => recorded site
    rw [visited, parts]
    simp [Part.build, Outcome.yield, failures_scenarios scenariosNamed,
      failures_actionwords actionwordsNamed, Sections.scenarioElements,
      Sections.actionwordElements]
  · have owed : (projectSites project).map (fun site => site.part.slot) =
        ((projectSites project).map Site.part).map Part.slot := by
      rw [List.map_map]
      rfl
    rw [owed, parts]
    simp only [List.map_cons, List.map_nil, Part.slot_element, slotOf_scenarios scenariosNamed,
      slotOf_actionwords actionwordsNamed]
    rfl

/-! ### What the failures say -/

/-- What a record says about the gaps of a node: they stand where the outermost failures arose. So
there are as many of them, and there are none only if nothing failed. -/
structure Accounts (recorded : List (Place × Failure)) (gaps : List Place) : Prop where
  places : gaps = (outermost recorded).map Prod.fst
  count : gaps.length = (outermost recorded).length
  atMost : gaps.length ≤ recorded.length
  none : recorded = [] ↔ gaps = []

theorem Accounts.of_outermost {recorded : List (Place × Failure)} {gaps : List Place}
    (same : (outermost recorded).map Prod.fst = gaps) : Accounts recorded gaps := by
  have count : gaps.length = (outermost recorded).length := by rw [← same, List.length_map]
  refine ⟨same.symm, count, count ▸ List.length_filter_le _ _, ?_⟩
  rw [← same, List.map_eq_nil_iff, Xml.outermost_eq_nil_iff]

/-- What is recorded of an element: the failures in their order, each at the place of the one
element that failed there. -/
structure Recorded (element : Element) (recorded : List (Place × Failure))
    (failures : List Failure) : Prop where
  failures : recorded.map Prod.snd = failures
  stands : ∀ entry ∈ recorded, element.at? entry.1 = some entry.2.element
  once : (recorded.map Prod.fst).Nodup

theorem recorded_record (element : Element) :
    Recorded element (record element) (build element).failures :=
  ⟨map_snd_record element, fun _ => at?_of_mem_record, nodup_record element⟩

theorem recorded_projectRecord {project : Element} {failures : List Failure}
    (same : (projectRecord project).map Prod.snd = failures) :
    Recorded project (projectRecord project) failures := by
  refine ⟨same, ?_, nodup_flatMap_record (apart_projectSites project) fun _ _ found _ =>
    nodup_record found⟩
  intro entry member
  obtain ⟨site, siteMember, member⟩ := List.mem_flatMap.mp member
  exact site.at?_of_mem_record (inside_of_mem_projectSites siteMember) member
    fun _ _ _ => at?_of_mem_record

/-- The failures that a session gains account for the gaps of what it built. -/
theorem gaps_accounted :
    (∀ (session : Session) (element : Element),
      ∃ failures, (session.build element).2.failures = session.failures ++ failures ∧
        Recorded element (record element) failures ∧
        match (session.build element).1 with
        | .ok node => Accounts (record element) (node.gaps element)
        | .error failure => ∃ earlier, failures = earlier ++ [failure]) ∧
    ∀ session : Session,
      match session.assemble with
      | (.ok project, after) =>
        ∃ source, Document.findProject? session.root = some source ∧
          Recorded source (projectRecord source) after.failures ∧
          Accounts (projectRecord source) (project.node.gaps source)
      | (.error _, after) => after.failures = [] := by
  constructor
  · intro session element
    rw [Session.build_eq]
    refine ⟨(build element).failures, Session.noting_failures session _,
      recorded_record element, ?_⟩
    cases result : (build element).result with
    | ok node => exact .of_outermost (outermost_record result)
    | error failure => exact ⟨_, Outcome.failures_of_error result⟩
  · intro session
    rw [Session.assemble_eq]
    cases assembled : assemble session.root with
    | error fault => rfl
    | ok assembly =>
      obtain ⟨source, within, failures, owed⟩ := assemble_ok assembled
      refine ⟨source, within, ?_, .of_outermost ?_⟩
      · have gained : ((session.cleared.noting assembly.failures).finished
            assembly.project).failures = assembly.failures :=
          Session.noting_failures session.cleared assembly.failures
        rw [gained]
        exact recorded_projectRecord failures
      · rw [Node.gaps_eq owed]
        exact outermost_flatMap_record (apart_projectSites source)
          fun _ _ _ _ _ built => outermost_record built

end ScenarioTree.Build
