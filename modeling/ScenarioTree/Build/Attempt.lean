/-
This file says what becomes of a call when an element cannot be written. A failure is kept together
with its element as markup; where that cannot be made, the call is broken off at once. The elements
around the one that could not be written are given up in turn: each of them would have to be shown
as well, and none of them can be. The log gets an alarm for each, and what was noted before the call
was broken off stays noted.

As long as every element of a failure can be written, a call does what it does in a session that
knows nothing of this. The room for levels is taken to be the same for every element; what is left
of it on a machine also depends on the calls that are under way there.
-/

import ScenarioTree.Build.Session
import ScenarioTree.Text.CodePoint

namespace ScenarioTree.Build

open ScenarioTree.Xml (Element Unwritable)

/-! ### Calls that may be broken off -/

/-- What a call comes to that may be broken off, and the session after it. -/
abbrev Attempt (α : Type) := Except Unwritable α × Session

/-- The session after an alarm for each of some elements. -/
def Session.alarming (session : Session) (given : List Element) : Session :=
  { session with log := session.log ++ given.map .alarm }

namespace Attempt

/-- A call with its value changed. -/
def map {α β : Type} (change : α → β) (attempt : Attempt α) : Attempt β :=
  (attempt.1.map change, attempt.2)

/-- A call and what there is to do after it, unless it was broken off. -/
def andThen {α β : Type} (first : Attempt α) (next : α → Session → Attempt β) : Attempt β :=
  match first with
  | (.ok value, session) => next value session
  | (.error cause, session) => (.error cause, session)

/-- A call for an element that is given up if the call is broken off. -/
def orGiveUp {α : Type} (room : Nat) (element : Element) (attempt : Attempt α) : Attempt α :=
  match attempt with
  | (.ok value, session) => (.ok value, session)
  | (.error inner, session) =>
    (.error ((element.unwritable? room).getD inner), session.alarming [element])

end Attempt

namespace Session

/-! ### Building -/

/-- A failure written and noted. Of one that cannot be written only the alarm stays, if it was not
expected. -/
def tryNote (room : Nat) (session : Session) (failure : Failure) : Attempt Unit :=
  match failure.element.unwritable? room with
  | none => (.ok (), session.note failure)
  | some cause =>
    (.error cause,
      session.alarming (if failure.unexpected then [failure.element] else []))

/-- A part built by means of `visit`. -/
def tryPart (room : Nat) (visit : Session → Element → Attempt (Except Failure Node))
    (session : Session) : Part → Attempt Slot
  | .element found => (visit session found).map Except.toOption
  | .vacant holder =>
    (session.tryNote room ⟨holder, .missingElementChild holder.tag⟩).map fun _ => none

/-- Parts built one after another. -/
def tryParts (room : Nat) (visit : Session → Element → Attempt (Except Failure Node)) :
    Session → List Part → Attempt (List Slot)
  | session, [] => (.ok [], session)
  | session, part :: rest =>
    (session.tryPart room visit part).andThen fun slot next =>
      (tryParts room visit next rest).map (slot :: ·)

/-- The end of building an element: a cause becomes the failure of the element. -/
def tryConclude (room : Nat) (session : Session) (element : Element) :
    Except Cause Node → Attempt (Except Failure Node)
  | .ok node => (.ok (.ok node), session)
  | .error cause =>
    (session.tryNote room ⟨element, cause⟩).map fun _ => .error ⟨element, cause⟩

/-- Building with a bound on the depth. -/
def tryWithin (room : Nat) : Nat → Session → Element → Attempt (Except Failure Node)
  | 0, session, element => session.tryConclude room element (.error (.unknownKind element.tag))
  | depth + 1, session, element =>
    let plan := planOf element
    ((session.tryParts room (tryWithin room depth) plan.parts).orGiveUp room element).andThen
      fun slots after => after.tryConclude room element (plan.result.map fun make => make slots)

/-! ### Operations -/

/-- An element built. -/
def tryBuild (room : Nat) (session : Session) (element : Element) :
    Attempt (Except Failure Node) :=
  tryWithin room element.height session element

/-- An element built for its slot. -/
def tryNode (room : Nat) (session : Session) (element : Element) : Attempt Slot :=
  (session.tryBuild room element).map Except.toOption

/-- Elements built one after another. -/
def tryNodes (room : Nat) (session : Session) (elements : List Element) : Attempt (List Slot) :=
  session.tryParts room (tryBuild room) (elements.map .element)

/-- A plan carried out; its own cause is handed to the caller. -/
def tryCarryOut {α : Type} (room : Nat) (session : Session) (plan : Plan α) :
    Attempt (Except Cause α) :=
  (session.tryParts room (tryBuild room) plan.parts).map fun slots =>
    plan.result.map fun make => make slots

end Session

/-! ### Projects -/

/-- What a caller has to expect: a problem of the document, an element that cannot be written, or a
source that cannot be encoded. -/
inductive Escape where
  | problem (problem : Problem)
  | unwritable (cause : Unwritable)
  | unencodable

/-- How a fault of the structure reaches the caller. The project element is shown, if there is
one. -/
def StructureFault.escape (room : Nat) (path : Option String) (fault : StructureFault) : Escape :=
  match fault with
  | .noProject => .problem (fault.problem path)
  | .noSection project _ =>
    match project.unwritable? room with
    | none => .problem (fault.problem path)
    | some cause => .unwritable cause

/-- The project put together. The failures before are forgotten in any case; the project before is
only given up for a new one. -/
def Session.tryAssemble (room : Nat) (session : Session) : Except Escape Project × Session :=
  match Sections.find session.root with
  | .error fault => (.error (fault.escape room session.path), session.cleared)
  | .ok sections =>
    let built : Attempt (List Slot × List Slot) :=
      (session.cleared.tryNodes room sections.scenarioElements).andThen fun tests next =>
        (next.tryNodes room sections.actionwordElements).map (tests, ·)
    match built with
    | (.ok (tests, words), after) =>
      let project := sections.project tests words
      (.ok project, after.finished project)
    | (.error cause, after) => (.error (.unwritable cause), after)

/-- The root of a source that may have surrogates in it. With `keep`, comments and processing
instructions stay in the tree. -/
def tryLoad (keep : Bool) (source : List Text.CodePoint) (path : Option String) :
    Except Escape Element :=
  match Text.spelled? source with
  | none => .error .unencodable
  | some text => (Document.loadWith keep text path).mapError .problem

/-- The project of a source that may have surrogates in it. -/
def tryParse (room : Nat) (source : List Text.CodePoint) (verbose : Bool) (path : Option String) :
    Except Escape Project := do
  let root ← tryLoad false source path
  ((Session.start root verbose path).tryAssemble room).1

end ScenarioTree.Build
