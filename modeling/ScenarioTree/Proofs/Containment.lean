/-
This file shows that failure is local. Whether an element can be built is decided by what it lacks
itself; what is built inside it may fail in any way and only leaves a gap. Nor does it matter what
the session has been through or what it reports.
-/

import ScenarioTree.Proofs.Outcome
import ScenarioTree.Proofs.Session

namespace ScenarioTree.Build

open ScenarioTree.Xml (Element)

/-- An element that is built has no defect. -/
theorem flawless_of_build_ok {element : Element} {node : Node}
    (built : (build element).result = .ok node) (cause : Cause) : ¬ Defect element cause := by
  obtain ⟨kind, announced, made⟩ := build_ok_iff.mp built
  exact made.flawless announced cause

/-- An element fails exactly when it has a defect. -/
theorem build_error_iff {element : Element} :
    (∃ failure, (build element).result = .error failure) ↔ ∃ cause, Defect element cause := by
  constructor
  · rintro ⟨failure, failed⟩
    exact ⟨failure.cause, (defect_of_build_error failed).2⟩
  · rintro ⟨cause, defect⟩
    cases result : (build element).result with
    | error failure => exact ⟨failure, rfl⟩
    | ok node => exact absurd defect (flawless_of_build_ok result cause)

/-- The slot that an element is built for is the same in every session. -/
theorem Session.toOption_build (session : Session) (element : Element) :
    (session.build element).1.toOption = slotOf element := by
  rw [Session.build_eq, slotOf, Outcome.slot_eq_toOption]

/-- In every session an element fails exactly when it has a defect, and then for such a defect; else
it becomes the node that its rule describes, with a gap for each part that fails on its own. -/
theorem failure_local (session : Session) (element : Element) :
    ((∃ failure, (session.build element).1 = .error failure) ↔ ∃ cause, Defect element cause) ∧
      match (session.build element).1 with
      | .error failure => failure.element = element ∧ Defect element failure.cause
      | .ok node => ∀ other : Session, ∃ kind, Kind.ofTag? element.tag = some kind ∧
          Made (fun part => (other.build part).1.toOption) element kind node := by
  rw [Session.build_eq]
  refine ⟨build_error_iff, ?_⟩
  cases result : (build element).result with
  | error failure => exact defect_of_build_error result
  | ok node =>
    intro other
    have same : (fun part => (other.build part).1.toOption) = slotOf :=
      funext fun part => other.toOption_build part
    rw [same]
    exact build_ok_iff.mp result

end ScenarioTree.Build
