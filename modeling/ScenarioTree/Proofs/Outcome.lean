/-
This file opens the recursion of building. The parts of an element lie below it, so the bound on the
depth is never reached and the outcome of an element is its plan carried out with the outcomes of
its parts (`build_eq`). Everything about outcomes is proved from this equation and from what is
known about one rule, by induction on the height.
-/

import ScenarioTree.Proofs.Site

namespace ScenarioTree.Build

open ScenarioTree.Xml (Element)

/-! ### The bound on the depth -/

/-- What a plan comes to depends only on how its own parts are built. -/
theorem Plan.run_congr {α : Type} {plan : Plan α} {build other : Element → Yield}
    (agree : ∀ part ∈ plan.parts, part.build build = part.build other) :
    plan.run build = plan.run other := by
  have yields : plan.parts.map (Part.build build) = plan.parts.map (Part.build other) :=
    List.map_congr_left agree
  rw [Plan.run, Plan.run, yields]

/-- The parts that an element's plan reaches are the first of those at its sites. -/
theorem parts_of_announced {element : Element} {kind : Kind}
    (announced : Kind.ofTag? element.tag = some kind) :
    (planOf element).parts <+: (kind.sites element).map Site.part := by
  rw [planOf, announced]
  exact (kind.asks_sites element).1

/-- The parts of an element stand inside it. -/
theorem exists_site_of_mem_parts {element : Element} {part : Part}
    (member : part ∈ (planOf element).parts) :
    ∃ site : Site, site.part = part ∧ site.Inside element := by
  cases announced : Kind.ofTag? element.tag with
  | none =>
    rw [planOf, announced] at member
    cases member
  | some kind =>
    obtain ⟨site, found, same⟩ :=
      List.mem_map.mp ((parts_of_announced announced).subset member)
    exact ⟨site, same, kind.inside_of_mem_sites found⟩

theorem height_lt_of_mem_parts {element : Element} {part : Part}
    (member : part ∈ (planOf element).parts) : part.source.height < element.height := by
  obtain ⟨site, rfl, inside⟩ := exists_site_of_mem_parts member
  exact inside.lower

theorem height_pos (element : Element) : 0 < element.height := by
  obtain ⟨name, attributes, text, children, tail⟩ := element
  exact Nat.succ_pos _

/-- Any two bounds that are large enough lead to the same outcome. -/
theorem buildWithin_eq_of_le {first second : Nat} {element : Element}
    (bound : element.height ≤ first) (other : element.height ≤ second) :
    buildWithin first element = buildWithin second element := by
  induction first generalizing second element with
  | zero => exact absurd bound (Nat.not_le_of_gt (height_pos element))
  | succ first induction =>
    cases second with
    | zero => exact absurd other (Nat.not_le_of_gt (height_pos element))
    | succ second =>
      rw [buildWithin, buildWithin]
      congr 1
      refine Plan.run_congr fun part member => ?_
      have lower := height_lt_of_mem_parts member
      cases part with
      | vacant holder => rfl
      | element found =>
        have lower : found.height < element.height := lower
        exact congrArg Outcome.yield (induction (by omega) (by omega))

/-- The outcome of an element is its plan carried out with the outcomes of its parts. -/
theorem build_eq (element : Element) :
    build element = .ofRun element (carryOut (planOf element)) := by
  have positive := height_pos element
  obtain ⟨depth, same⟩ := Nat.exists_eq_succ_of_ne_zero (Nat.pos_iff_ne_zero.mp positive)
  rw [build, same, buildWithin, carryOut]
  congr 1
  refine Plan.run_congr fun part member => ?_
  have lower := height_lt_of_mem_parts member
  cases part with
  | vacant holder => rfl
  | element found =>
    have lower : found.height < element.height := lower
    exact congrArg Outcome.yield (buildWithin_eq_of_le (by omega) (Nat.le_refl _))

/-! ### Nodes and failures -/

theorem Outcome.slot_eq_toOption (outcome : Outcome) : outcome.slot = outcome.result.toOption := by
  rw [Outcome.slot]
  cases outcome.result <;> rfl

theorem Outcome.failures_of_ok {outcome : Outcome} {node : Node}
    (built : outcome.result = .ok node) : outcome.failures = outcome.inner := by
  rw [Outcome.failures, built]

theorem Outcome.failures_of_error {outcome : Outcome} {failure : Failure}
    (failed : outcome.result = .error failure) :
    outcome.failures = outcome.inner ++ [failure] := by
  rw [Outcome.failures, failed]

/-- The slot that an element is built for. -/
def slotOf (element : Element) : Slot :=
  (build element).slot

/-- An element is built exactly when its rule makes a node, and to just that node. -/
theorem build_ok_iff {element : Element} {node : Node} :
    (build element).result = .ok node ↔
      ∃ kind, Kind.ofTag? element.tag = some kind ∧ Made slotOf element kind node := by
  rw [build_eq, Outcome.ofRun, planOf]
  cases announced : Kind.ofTag? element.tag with
  | none => simp [carryOut, Plan.run, Plan.fail, Except.map, Except.mapError]
  | some kind =>
    have described : ((kind.plan element).run fun part => (build part).yield).result = .ok node ↔
        Made slotOf element kind node := made_iff _
    simp only [Option.some.injEq, exists_eq_left', ← described, carryOut]
    cases ((kind.plan element).run fun part => (build part).yield).result <;>
      simp [Except.mapError]

/-- What fails is the element itself, for a defect of its own. -/
theorem defect_of_build_error {element : Element} {failure : Failure}
    (failed : (build element).result = .error failure) :
    failure.element = element ∧ Defect element failure.cause := by
  rw [build_eq, Outcome.ofRun, planOf] at failed
  cases announced : Kind.ofTag? element.tag with
  | none =>
    rw [announced] at failed
    cases failed
    exact ⟨rfl, .kind announced⟩
  | some kind =>
    simp only [announced, carryOut] at failed
    cases result : ((kind.plan element).run fun part => (build part).yield).result with
    | ok node =>
      rw [result] at failed
      cases failed
    | error cause =>
      rw [result] at failed
      cases failed
      exact ⟨rfl, defect_of_error _ announced result⟩

/-- A slot holds a node exactly when the element is built to it. -/
theorem slotOf_eq_some_iff {element : Element} {node : Node} :
    slotOf element = some node ↔ (build element).result = .ok node := by
  rw [slotOf, Outcome.slot]
  cases (build element).result <;> simp

theorem slotOf_eq_none_iff {element : Element} :
    slotOf element = none ↔ ∃ failure, (build element).result = .error failure := by
  rw [slotOf, Outcome.slot]
  cases (build element).result <;> simp

/-- The slot of a part. -/
def Part.slot : Part → Slot
  | element found => slotOf found
  | vacant _ => none

@[simp]
theorem Part.slot_element (found : Element) : (element found).slot = slotOf found := rfl

@[simp]
theorem Part.slot_comp_element : Part.slot ∘ Part.element = slotOf := rfl

@[simp]
theorem Part.slot_within (wrapper : Element) :
    (Part.within wrapper).slot = heldSlot slotOf wrapper := by
  rw [Part.within, heldSlot]
  cases wrapper.firstChild? <;> rfl

end ScenarioTree.Build
