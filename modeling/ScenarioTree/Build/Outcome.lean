/-
This file builds elements. Building an element carries out its plan, with the parts built in the
same way; it always ends, and a part that fails becomes a gap in the node around it. The parts of
an element lie below it, so its height bounds how deep building goes.
-/

import ScenarioTree.Build.Rule

namespace ScenarioTree.Build

open ScenarioTree.Xml (Element)

/-- What building an element comes to: the failures of its parts, and its node or its own
failure. -/
structure Outcome where
  inner : List Failure
  result : Except Failure Node

namespace Outcome

/-- All failures in the order in which they arose; the element's own is the last. -/
def failures (outcome : Outcome) : List Failure :=
  match outcome.result with
  | .ok _ => outcome.inner
  | .error failure => outcome.inner ++ [failure]

/-- The node, or a gap. -/
def slot (outcome : Outcome) : Slot :=
  match outcome.result with
  | .ok node => some node
  | .error _ => none

/-- What the element yields as a part of another. -/
def yield (outcome : Outcome) : Yield :=
  ⟨outcome.slot, outcome.failures⟩

/-- The outcome of an element whose plan was carried out. -/
def ofRun (element : Element) (run : Run Node) : Outcome :=
  ⟨run.failures, run.result.mapError (⟨element, ·⟩)⟩

end Outcome

/-- Building with a bound on the depth. -/
def buildWithin : Nat → Element → Outcome
  | 0, element => ⟨[], .error ⟨element, .unknownKind element.tag⟩⟩
  | depth + 1, element =>
    .ofRun element ((planOf element).run fun part => (buildWithin depth part).yield)

/-- Building an element. -/
def build (element : Element) : Outcome :=
  buildWithin element.height element

/-- A plan carried out. -/
def carryOut {α : Type} (plan : Plan α) : Run α :=
  plan.run fun part => (build part).yield

/-- What building several elements comes to: a slot for each of them and all their failures. -/
structure Batch where
  slots : List Slot
  failures : List Failure

/-- Building several elements, one after another. -/
def buildAll (elements : List Element) : Batch :=
  let outcomes := elements.map build
  ⟨outcomes.map Outcome.slot, outcomes.flatMap Outcome.failures⟩

end ScenarioTree.Build
