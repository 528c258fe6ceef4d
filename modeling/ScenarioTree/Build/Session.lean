/-
This file holds sessions: a document that is built piece by piece, with a memory of what went wrong.
A session keeps every failure, the failures that were reported, the project it put together last,
and the log.

The memory is handed from part to part while an element is built, and every failure is written down
where it arises: behind the failures of the parts that were built before, and before those of the
parts that are still to come. Putting the project together starts the memory anew.
-/

import ScenarioTree.Build.Log

namespace ScenarioTree.Build

open ScenarioTree.Xml (Element)

/-- A session. -/
structure Session where
  root : Element
  verbose : Bool
  path : Option String
  project : Option Project
  failures : List Failure
  diagnostics : List Failure
  log : List Record

namespace Session

/-- A session in which nothing has happened. -/
def start (root : Element) (verbose : Bool) (path : Option String) : Session :=
  ⟨root, verbose, path, none, [], [], []⟩

/-- The session after a failure, which is reported if failures of its sort are. -/
def note (session : Session) (failure : Failure) : Session :=
  { session with
    failures := session.failures ++ [failure]
    diagnostics :=
      if failure.reported session.verbose then session.diagnostics ++ [failure]
      else session.diagnostics
    log := session.log ++ failure.records session.verbose }

/-! ### Building -/

/-- Parts built one after another by means of `build`. -/
def buildParts (build : Session → Element → Except Failure Node × Session) :
    Session → List Part → List Slot × Session
  | session, [] => ([], session)
  | session, .element found :: rest =>
    let (result, next) := build session found
    let (slots, last) := buildParts build next rest
    (result.toOption :: slots, last)
  | session, .vacant holder :: rest =>
    let next := session.note ⟨holder, .missingElementChild holder.tag⟩
    let (slots, last) := buildParts build next rest
    (none :: slots, last)

/-- The end of building an element: a cause becomes the failure of the element. -/
def conclude (session : Session) (element : Element) :
    Except Cause Node → Except Failure Node × Session
  | .ok node => (.ok node, session)
  | .error cause => (.error ⟨element, cause⟩, session.note ⟨element, cause⟩)

/-- Building with a bound on the depth. -/
def buildWithin : Nat → Session → Element → Except Failure Node × Session
  | 0, session, element => session.conclude element (.error (.unknownKind element.tag))
  | depth + 1, session, element =>
    let plan := planOf element
    let (slots, after) := session.buildParts (buildWithin depth) plan.parts
    after.conclude element (plan.result.map fun make => make slots)

/-! ### Operations -/

/-- An element built. -/
def build (session : Session) (element : Element) : Except Failure Node × Session :=
  buildWithin element.height session element

/-- An element built for its slot. -/
def node (session : Session) (element : Element) : Slot × Session :=
  let (result, after) := session.build element
  (result.toOption, after)

/-- Elements built one after another. -/
def nodes (session : Session) (elements : List Element) : List Slot × Session :=
  session.buildParts build (elements.map .element)

/-- A plan carried out. What its parts leave is noted; its own cause is handed to the caller. -/
def carryOut {α : Type} (session : Session) (plan : Plan α) : Except Cause α × Session :=
  let (slots, after) := session.buildParts build plan.parts
  (plan.result.map fun make => make slots, after)

/-- The session without its failures. -/
def cleared (session : Session) : Session :=
  { session with failures := [], diagnostics := [] }

/-- The session after its project was put together. -/
def finished (session : Session) (project : Project) : Session :=
  { session with
    project := some project
    log := session.log ++ [(Assembly.mk project session.failures).summary] }

/-- The project put together. The failures before are forgotten even when there is none; the project
before is only given up for a new one. -/
def assemble (session : Session) : Except StructureFault Project × Session :=
  match Sections.find session.root with
  | .error fault => (.error fault, session.cleared)
  | .ok sections =>
    let (tests, afterTests) := session.cleared.nodes sections.scenarioElements
    let (words, afterWords) := afterTests.nodes sections.actionwordElements
    let project := sections.project tests words
    (.ok project, afterWords.finished project)

/-- The session on another document. -/
def on (session : Session) (root : Element) : Session :=
  { session with root := root }

/-- The session with another choice of what is reported. -/
def reporting (session : Session) (verbose : Bool) : Session :=
  { session with verbose := verbose }

end Session

end ScenarioTree.Build
