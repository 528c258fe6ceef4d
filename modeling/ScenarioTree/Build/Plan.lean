/-
This file separates what a rule decides from what building its parts yields. A plan lists the parts
that are to be built, in order, and says what they make once they are; whether it makes anything is
decided by the element alone. A part that fails leaves its slot empty and changes nothing else, so
failures stay where they arise.

A plan that cannot make anything still lists the parts that come before the point where this
became clear: they are built all the same, and their failures are reported.
-/

import ScenarioTree.Build.Failure
import ScenarioTree.Node.Basic

namespace ScenarioTree.Build

open ScenarioTree.Xml (Element Path)

/-! ### Parts -/

/-- A part of a node that is to be built: an element, or the element that a wrapper should have held
and does not. -/
inductive Part where
  | element (element : Element)
  | vacant (wrapper : Element)

/-- The part that a wrapper holds: its first child. -/
def Part.within (wrapper : Element) : Part :=
  match wrapper.firstChild? with
  | some child => .element child
  | none => .vacant wrapper

/-! ### Plans -/

/-- The parts to be built, and what their slots make. -/
structure Plan (α : Type) where
  parts : List Part
  result : Except Cause (List Slot → α)

namespace Plan

/-- A plan without parts. -/
def done {α : Type} (value : α) : Plan α :=
  ⟨[], .ok fun _ => value⟩

/-- A plan that cannot make anything. -/
def fail {α : Type} (cause : Cause) : Plan α :=
  ⟨[], .error cause⟩

/-- What a plan makes, changed. -/
def map {α β : Type} (change : α → β) (plan : Plan α) : Plan β :=
  ⟨plan.parts, plan.result.map fun make slots => change (make slots)⟩

/-- One plan after another. The first slots belong to the first plan; if that cannot make anything,
the second one is not carried out. -/
def andThen {α β : Type} (first : Plan (α → β)) (second : Unit → Plan α) : Plan β :=
  match first.result with
  | .error cause => ⟨first.parts, .error cause⟩
  | .ok change =>
    let count := first.parts.length
    ⟨first.parts ++ (second ()).parts,
      (second ()).result.map fun make slots =>
        change (slots.take count) (make (slots.drop count))⟩

instance : Applicative Plan where
  pure := done
  map := map
  seq := andThen

/-- The slot of one part. -/
def slot (part : Part) : Plan Slot :=
  ⟨[part], .ok fun slots => slots.head?.join⟩

/-- The slots of several parts. -/
def slots (parts : List Part) : Plan (List Slot) :=
  ⟨parts, .ok id⟩

end Plan

/-! ### What rules ask for -/

/-- The text of a child that must be there. -/
def textAt (element : Element) (path : Path) : Plan String :=
  match element.selectFirst? path with
  | some found => .done found.content
  | none => .fail (.missingChild element.tag path)

/-- The node of a child that must be there. -/
def slotAt (element : Element) (path : Path) : Plan Slot :=
  match element.selectFirst? path with
  | some found => .slot (.element found)
  | none => .fail (.missingChild element.tag path)

/-- The nodes of all elements that a path leads to. -/
def slotsAt (element : Element) (path : Path) : Plan (List Slot) :=
  .slots ((element.select path).map .element)

/-- Named nodes, one for each wrapper: the name is its tag and the node what it holds. -/
def entriesAt (element : Element) (path : Path) (make : String → Slot → Node) :
    Plan (List Slot) :=
  let wrappers := element.select path
  (Plan.slots (wrappers.map .within)).map
    (List.zipWith (fun wrapper value => some (make wrapper.tag value)) wrappers)

/-! ### Carrying out a plan -/

/-- What building a part yields. -/
structure Yield where
  slot : Slot
  failures : List Failure

/-- What a wrapper without an element yields. -/
def Yield.vacant (wrapper : Element) : Yield :=
  ⟨none, [⟨wrapper, .missingElementChild wrapper.tag⟩]⟩

/-- A part built by means of `build`. -/
def Part.build (build : Element → Yield) : Part → Yield
  | .element found => build found
  | .vacant holder => .vacant holder

/-- What carrying out a plan yields: the failures of its parts, and what the plan makes of them. -/
structure Run (α : Type) where
  failures : List Failure
  result : Except Cause α

/-- A plan carried out, its parts built by means of `build`. -/
def Plan.run {α : Type} (build : Element → Yield) (plan : Plan α) : Run α :=
  let yields := plan.parts.map (Part.build build)
  ⟨yields.flatMap Yield.failures, plan.result.map fun make => make (yields.map Yield.slot)⟩

end ScenarioTree.Build
