/-
This file puts projects together. A project has a name, a description, scenarios and actions, each
in a section of its own that must be there; what the sections hold may fail piece by piece.
-/

import ScenarioTree.Build.Outcome
import ScenarioTree.Document

namespace ScenarioTree

/-- A test project. -/
structure Project where
  name : String
  description : String
  scenarios : List Slot
  actionwords : List Slot

/-- A project as a node. -/
def Project.node (project : Project) : Node :=
  .project project.name project.description (some (.scenarios project.scenarios))
    (some (.actionwords project.actionwords))

namespace Build

open ScenarioTree.Xml (Element)

/-- Why a document holds no project that could be put together. -/
inductive StructureFault where
  | noProject
  | noSection (project : Element) (missing : String)

namespace StructureFault

/-- The wording of a fault. -/
def message : StructureFault → String
  | noProject => "Document has no <project> element"
  | noSection _ missing => "<project> has no <" ++ missing ++ "> section"

/-- The project element, if that is where the fault lies. -/
def raw? : StructureFault → Option String
  | noProject => none
  | noSection project _ => some project.raw

/-- The fault as a problem of a file. -/
def problem (path : Option String) (fault : StructureFault) : Problem where
  kind := .projectStructure
  message := fault.message
  element := fault.raw?
  path := path

end StructureFault

/-- A section of a project. -/
def sectionOf (project : Element) (name : String) : Except StructureFault Element :=
  match project.selectFirst? [name] with
  | some found => .ok found
  | none => .error (.noSection project name)

/-- The sections of a project. -/
structure Sections where
  name : Element
  description : Element
  scenarios : Element
  actionwords : Element

/-- The sections of the project of a document. All of them are looked for before anything is
built. -/
def Sections.find (root : Element) : Except StructureFault Sections := do
  match Document.findProject? root with
  | none => .error .noProject
  | some project =>
    let name ← sectionOf project "name"
    let description ← sectionOf project "description"
    let scenarios ← sectionOf project "scenarios"
    let actionwords ← sectionOf project "actionwords"
    return ⟨name, description, scenarios, actionwords⟩

namespace Sections

/-- The elements of the scenarios. -/
def scenarioElements (sections : Sections) : List Element :=
  sections.scenarios.select ["scenario"]

/-- The elements of the actions. -/
def actionwordElements (sections : Sections) : List Element :=
  sections.actionwords.select ["actionword"]

/-- The project that the sections make with what was built in them. -/
def project (sections : Sections) (tests words : List Slot) : Project :=
  ⟨sections.name.content, sections.description.content, tests, words⟩

end Sections

/-- What putting a project together comes to. -/
structure Assembly where
  project : Project
  failures : List Failure

/-- The project of a document. -/
def assemble (root : Element) : Except StructureFault Assembly := do
  let sections ← Sections.find root
  let tests := buildAll sections.scenarioElements
  let words := buildAll sections.actionwordElements
  return ⟨sections.project tests.slots words.slots, tests.failures ++ words.failures⟩

end Build

end ScenarioTree
