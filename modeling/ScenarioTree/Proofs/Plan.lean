/-
This file gives the laws of plans. Carrying out one plan after another carries out the first, and
the second only if the first can make something; what the whole makes is made of what the two make.
With these laws nothing has to be said about which slots belong to which part: a rule is read from
left to right, and what it comes to is an existence statement about what it asks for.

The parts of a plan are all that was asked for, unless the plan cannot make anything: then they are
the first of them.
-/

import ScenarioTree.Build.Outcome

namespace ScenarioTree.Build

open ScenarioTree.Xml (Element Path)

/-! ### Carrying out -/

/-- The slot of what a wrapper holds; it is empty when the wrapper holds no element. -/
def heldSlot (slotOf : Element → Slot) (wrapper : Element) : Slot :=
  wrapper.firstChild?.bind slotOf

theorem Part.build_within_slot (build : Element → Yield) (wrapper : Element) :
    ((Part.within wrapper).build build).slot =
      heldSlot (fun element => (build element).slot) wrapper := by
  rw [Part.within, heldSlot]
  cases wrapper.firstChild? <;> rfl

namespace Plan

variable {α β : Type} (build : Element → Yield)

theorem run_map (change : α → β) (plan : Plan α) :
    (change <$> plan).run build =
      ⟨(plan.run build).failures, (plan.run build).result.map change⟩ := by
  obtain ⟨parts, result⟩ := plan
  cases result <;> rfl

theorem run_seq_of_error {first : Plan (α → β)} {cause : Cause} (second : Plan α)
    (failed : (first.run build).result = .error cause) :
    (first <*> second).run build = ⟨(first.run build).failures, .error cause⟩ := by
  obtain ⟨parts, result⟩ := first
  cases result with
  | error other =>
    obtain rfl : other = cause := Except.error.inj failed
    rfl
  | ok make => exact absurd failed (by simp [run, Except.map])

theorem run_seq_of_ok {first : Plan (α → β)} {change : α → β} (second : Plan α)
    (made : (first.run build).result = .ok change) :
    (first <*> second).run build =
      ⟨(first.run build).failures ++ (second.run build).failures,
        (second.run build).result.map change⟩ := by
  obtain ⟨parts, result⟩ := first
  obtain ⟨others, outcome⟩ := second
  cases result with
  | error cause => exact absurd made (by simp [run, Except.map])
  | ok make =>
    obtain rfl : make ((parts.map (Part.build build)).map Yield.slot) = change :=
      Except.ok.inj made
    cases outcome with
    | error cause => simp [run, Seq.seq, andThen, Except.map]
    | ok last => simp [run, Seq.seq, andThen, Except.map]

/-! ### What a plan makes -/

@[simp]
theorem done_ok_iff {value made : α} :
    ((done value).run build).result = .ok made ↔ value = made := by
  simp [run, done, Except.map]

@[simp]
theorem fail_ok_iff {cause : Cause} {made : α} :
    ((fail cause).run build).result = .ok made ↔ False := by
  simp [run, fail, Except.map]

@[simp]
theorem ofExcept_ok_iff {value : Except Cause α} {made : α} :
    ((ofExcept value).run build).result = .ok made ↔ value = .ok made := by
  cases value <;> simp [ofExcept]

@[simp]
theorem slot_ok_iff {part : Part} {made : Slot} :
    ((slot part).run build).result = .ok made ↔ (part.build build).slot = made := by
  simp [run, slot, Except.map]

@[simp]
theorem slots_ok_iff {parts : List Part} {made : List Slot} :
    ((slots parts).run build).result = .ok made ↔
      parts.map (fun part => (part.build build).slot) = made := by
  simp [run, slots, Except.map, Function.comp_def]

@[simp]
theorem map_ok_iff {change : α → β} {plan : Plan α} {made : β} :
    ((change <$> plan).run build).result = .ok made ↔
      ∃ value, (plan.run build).result = .ok value ∧ change value = made := by
  rw [run_map]
  cases (plan.run build).result <;> simp [Except.map]

@[simp]
theorem seq_ok_iff {first : Plan (α → β)} {second : Plan α} {made : β} :
    ((first <*> second).run build).result = .ok made ↔
      ∃ change value, (first.run build).result = .ok change ∧
        (second.run build).result = .ok value ∧ change value = made := by
  cases outcome : (first.run build).result with
  | error cause => simp [run_seq_of_error build second outcome]
  | ok change =>
    rw [run_seq_of_ok build second outcome]
    cases (second.run build).result <;> simp [Except.map]

/-! ### Why a plan makes nothing -/

@[simp]
theorem done_error_iff {value : α} {cause : Cause} :
    ((done value).run build).result = .error cause ↔ False := by
  simp [run, done, Except.map]

@[simp]
theorem fail_error_iff {own cause : Cause} :
    ((fail own : Plan α).run build).result = .error cause ↔ own = cause := by
  simp [run, fail, Except.map]

@[simp]
theorem ofExcept_error_iff {value : Except Cause α} {cause : Cause} :
    ((ofExcept value).run build).result = .error cause ↔ value = .error cause := by
  cases value <;> simp [ofExcept]

@[simp]
theorem slot_error_iff {part : Part} {cause : Cause} :
    ((slot part).run build).result = .error cause ↔ False := by
  simp [run, slot, Except.map]

@[simp]
theorem slots_error_iff {parts : List Part} {cause : Cause} :
    ((slots parts).run build).result = .error cause ↔ False := by
  simp [run, slots, Except.map]

@[simp]
theorem map_error_iff {change : α → β} {plan : Plan α} {cause : Cause} :
    ((change <$> plan).run build).result = .error cause ↔
      (plan.run build).result = .error cause := by
  rw [run_map]
  cases (plan.run build).result <;> simp [Except.map]

@[simp]
theorem seq_error_iff {first : Plan (α → β)} {second : Plan α} {cause : Cause} :
    ((first <*> second).run build).result = .error cause ↔
      (first.run build).result = .error cause ∨
        (∃ change, (first.run build).result = .ok change) ∧
          (second.run build).result = .error cause := by
  cases outcome : (first.run build).result with
  | error own => simp [run_seq_of_error build second outcome]
  | ok change =>
    rw [run_seq_of_ok build second outcome]
    cases (second.run build).result <;> simp [Except.map]

end Plan

/-! ### What rules ask for -/

section Asked

variable (build : Element → Yield) {element : Element} {path : Path}

@[simp]
theorem textAt_ok_iff {text : String} :
    ((textAt element path).run build).result = .ok text ↔
      ∃ found, element.selectFirst? path = some found ∧ found.content = text := by
  rw [textAt]
  cases element.selectFirst? path <;> simp

@[simp]
theorem slotAt_ok_iff {made : Slot} :
    ((slotAt element path).run build).result = .ok made ↔
      ∃ found, element.selectFirst? path = some found ∧ (build found).slot = made := by
  rw [slotAt]
  cases element.selectFirst? path <;> simp [Part.build]

@[simp]
theorem slotsAt_ok_iff {made : List Slot} :
    ((slotsAt element path).run build).result = .ok made ↔
      (element.select path).map (fun found => (build found).slot) = made := by
  simp [slotsAt, Part.build, Function.comp_def]

@[simp]
theorem entriesAt_ok_iff {make : String → Slot → Node} {made : List Slot} :
    ((entriesAt element path make).run build).result = .ok made ↔
      ((element.select path).map fun wrapper =>
        some (make wrapper.tag (heldSlot (fun found => (build found).slot) wrapper))) = made := by
  have mapped : entriesAt element path make =
      List.zipWith (fun wrapper value => some (make wrapper.tag value)) (element.select path) <$>
        Plan.slots ((element.select path).map .within) := rfl
  rw [mapped]
  simp [Part.build_within_slot, Function.comp_def, List.zipWith_map_right, List.zipWith_self]

@[simp]
theorem textAt_error_iff {cause : Cause} :
    ((textAt element path).run build).result = .error cause ↔
      element.selectFirst? path = none ∧ .missingChild element.tag path = cause := by
  rw [textAt]
  cases element.selectFirst? path <;> simp

@[simp]
theorem slotAt_error_iff {cause : Cause} :
    ((slotAt element path).run build).result = .error cause ↔
      element.selectFirst? path = none ∧ .missingChild element.tag path = cause := by
  rw [slotAt]
  cases element.selectFirst? path <;> simp

@[simp]
theorem slotsAt_error_iff {cause : Cause} :
    ((slotsAt element path).run build).result = .error cause ↔ False := by
  simp [slotsAt]

@[simp]
theorem entriesAt_error_iff {make : String → Slot → Node} {cause : Cause} :
    ((entriesAt element path make).run build).result = .error cause ↔ False := by
  have mapped : entriesAt element path make =
      List.zipWith (fun wrapper value => some (make wrapper.tag value)) (element.select path) <$>
        Plan.slots ((element.select path).map .within) := rfl
  rw [mapped]
  simp

end Asked

/-! ### The parts that are reached -/

/-- A plan asks for some parts, one after another. It reaches all of them if it can make something,
and otherwise those before the point where it cannot. -/
def Plan.Asks {α : Type} (plan : Plan α) (parts : List Part) : Prop :=
  plan.parts <+: parts ∧ ∀ make, plan.result = .ok make → plan.parts = parts

namespace Plan.Asks

variable {α β : Type}

theorem of_parts (plan : Plan α) : plan.Asks plan.parts :=
  ⟨List.prefix_rfl, fun _ _ => rfl⟩

theorem slot (part : Part) : (Plan.slot part).Asks [part] :=
  of_parts _

theorem slots (parts : List Part) : (Plan.slots parts).Asks parts :=
  of_parts _

theorem fail (cause : Cause) (parts : List Part) : (Plan.fail cause : Plan α).Asks parts :=
  ⟨List.nil_prefix, fun _ made => nomatch made⟩

theorem map {plan : Plan α} {parts : List Part} (asks : plan.Asks parts) (change : α → β) :
    (change <$> plan).Asks parts := by
  refine ⟨asks.1, fun make made => ?_⟩
  cases result : plan.result with
  | error cause => simp [Functor.map, Plan.map, result, Except.map] at made
  | ok earlier => exact asks.2 earlier result

theorem seq {first : Plan (α → β)} {second : Plan α} {parts others : List Part}
    (before : first.Asks parts) (behind : second.Asks others) :
    (first <*> second).Asks (parts ++ others) := by
  cases result : first.result with
  | error cause =>
    have stopped : first <*> second = ⟨first.parts, .error cause⟩ := by
      simp [Seq.seq, andThen, result]
    rw [stopped]
    exact ⟨before.1.trans (List.prefix_append parts others), fun _ made => nomatch made⟩
  | ok change =>
    have reached : (first <*> second).parts = parts ++ second.parts := by
      simp [Seq.seq, andThen, result, before.2 change result]
    refine ⟨by rw [reached]; exact List.prefix_append_right_inj parts |>.mpr behind.1, ?_⟩
    intro make made
    cases last : second.result with
    | error cause => simp [Seq.seq, andThen, result, last, Except.map] at made
    | ok value => rw [reached, behind.2 value last]

theorem textAt (element : Element) (path : Path) : (Build.textAt element path).Asks [] := by
  rw [Build.textAt]
  cases element.selectFirst? path with
  | none => exact fail _ _
  | some found => exact of_parts _

theorem slotAt (element : Element) (path : Path) :
    (Build.slotAt element path).Asks ((element.selectFirst? path).toList.map .element) := by
  rw [Build.slotAt]
  cases element.selectFirst? path with
  | none => exact fail _ _
  | some found => exact of_parts _

theorem slotsAt (element : Element) (path : Path) :
    (Build.slotsAt element path).Asks ((element.select path).map .element) :=
  of_parts _

theorem entriesAt (element : Element) (path : Path) (make : String → Slot → Node) :
    (Build.entriesAt element path make).Asks ((element.select path).map .within) :=
  of_parts _

end Plan.Asks

end ScenarioTree.Build
