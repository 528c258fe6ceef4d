/-
This file looks for gaps in plain data. A reader of the data sees nulls, each in a field of an
object that says of which kind it is. A tag without a value and a parameter without a default leave
a null that says nothing; every other null is a gap, and every gap leaves a null.

Of a node alone it cannot be seen whether a default is missing or failed. That is known of the nodes
that were built, so the two directions are proved for these.
-/

import ScenarioTree.Node.View
import ScenarioTree.Proofs.Accounting

namespace ScenarioTree

open ScenarioTree.Xml (Element Place)

/-! ### Nulls in data -/

namespace Data

/-- What an object says it is. -/
def kindOf (fields : List (String × Data)) : String :=
  match fields.lookup "kind" with
  | some (.string kind) => kind
  | _ => ""

mutual

/-- The nulls of data that stands in a field of an object: for each null the kind of the object
around it and the field. -/
def holes (kind field : String) : Data → List (String × String)
  | .null => [(kind, field)]
  | .boolean _ | .number _ | .string _ => []
  | .list items => holesInItems kind field items
  | .object fields => holesInFields (kindOf fields) fields

/-- The nulls of the entries of a list. -/
def holesInItems (kind field : String) : List Data → List (String × String)
  | [] => []
  | item :: rest => item.holes kind field ++ holesInItems kind field rest

/-- The nulls of the fields of an object. -/
def holesInFields (kind : String) : List (String × Data) → List (String × String)
  | [] => []
  | (name, value) :: rest => value.holes kind name ++ holesInFields kind rest

end

end Data

/-! ### Nulls in the view of a node -/

namespace Node

/-- A slot together with the kind and the field under which it is shown. -/
abbrev Part := (String × String) × Slot

/-- The nulls of a slot that is shown under a kind and a field. -/
def Part.holes (part : Part) : List (String × String) :=
  (viewSlot part.2).holes part.1.1 part.1.2

/-- Slots that are shown under one kind and field. -/
def under (kind field : String) (slots : List Slot) : List Part :=
  slots.map fun slot => ((kind, field), slot)

/-- An entry of a sequence is shown as an object of its own, with the slot as its value. -/
def entryPart (kind field : String) : Slot → Part
  | some (property _ value) => (("Property", "value"), value)
  | some (argument _ value) => (("Argument", "value"), value)
  | slot => ((kind, field), slot)

/-- The slots of a node as they are shown. -/
def parts : Node → List Part
  | null | string _ | number _ | boolean _ | var _ | tag _ _ => []
  | property _ value => under "Property" "value" [value]
  | argument _ value => under "Argument" "value" [value]
  | field base _ => under "Field" "base" [base]
  | index base expression => under "Index" "base" [base] ++ under "Index" "expression" [expression]
  | binary left _ right =>
    under "BinaryExpression" "left" [left] ++ under "BinaryExpression" "right" [right]
  | unary _ expression => under "UnaryExpression" "expression" [expression]
  | parenthesis content => under "Parenthesis" "content" [content]
  | list items => under "List" "items" items
  | template chunks => under "Template" "chunks" chunks
  | dict items => items.map (entryPart "Dict" "items")
  | call _ arguments => arguments.map (entryPart "Call" "arguments")
  | assign target value => under "Assign" "to" [target] ++ under "Assign" "value" [value]
  | conditional condition thenBody elseBody =>
    under "IfThen" "condition" [condition] ++
      (under "IfThen" "then_body" thenBody ++ under "IfThen" "else_body" elseBody)
  | step _ value => under "Step" "value" [value]
  | loop condition body => under "While" "condition" [condition] ++ under "While" "body" body
  | parameter _ default => under "Parameter" "default" [default]
  | actionword _ tags parameters body =>
    under "Actionword" "tags" tags ++
      (under "Actionword" "parameters" parameters ++ under "Actionword" "body" body)
  | scenario _ _ tags parameters body =>
    under "Scenario" "tags" tags ++
      (under "Scenario" "parameters" parameters ++ under "Scenario" "body" body)
  | actionwords items => under "Actionwords" "items" items
  | scenarios items => under "Scenarios" "items" items
  | project _ _ tests words =>
    under "Project" "scenarios" [tests] ++ under "Project" "actionwords" [words]

theorem map_snd_under (kind field : String) (slots : List Slot) :
    (under kind field slots).map Prod.snd = slots := by
  rw [under, List.map_map]
  exact List.map_id _

theorem snd_entryPart (kind field : String) (slot : Slot) :
    (entryPart kind field slot).2 = entryValue slot := by
  rw [entryPart.eq_def]
  split
  · rfl
  · rfl
  · rw [entryValue.eq_def]
    split <;> simp_all

/-- What is shown of a node are its slots. -/
theorem map_snd_parts (node : Node) : node.parts.map Prod.snd = node.slots := by
  cases node with
  | dict items | call _ items =>
    rw [parts, slots, List.map_map]
    exact List.map_congr_left fun slot _ => snd_entryPart _ _ slot
  | _ => simp only [parts, slots, List.map_append, map_snd_under, List.map_nil] <;> rfl

/-- The nulls in the view of a node. -/
def holes (node : Node) : List (String × String) :=
  node.view.holes "" ""

@[simp]
theorem holes_viewSlot_none (kind field : String) :
    (viewSlot none).holes kind field = [(kind, field)] := by
  rw [viewSlot, Data.holes]

@[simp]
theorem holes_viewSlot_some (kind field : String) (node : Node) :
    (viewSlot (some node)).holes kind field = node.holes := by
  rw [viewSlot, holes, view, Data.holes, Data.holes]

@[simp]
theorem holesInItems_viewSlots (kind field : String) (slots : List Slot) :
    Data.holesInItems kind field (viewSlots slots) =
      slots.flatMap fun slot => (viewSlot slot).holes kind field := by
  induction slots with
  | nil => rfl
  | cons slot rest induction =>
    rw [viewSlots, Data.holesInItems, induction, List.flatMap_cons]

theorem holes_eq (node : Node) : node.holes = Data.holesInFields node.kind node.fields := by
  have named : Data.kindOf (("kind", .string node.kind) :: node.fields) = node.kind := rfl
  rw [holes, view, Data.holes, named, Data.holesInFields, Data.holes, List.nil_append]

theorem holes_entryPart (kind field : String) (slot : Slot) :
    (entryPart kind field slot).holes = (viewSlot slot).holes kind field := by
  rw [entryPart.eq_def]
  split
  · simp [Part.holes, holes_eq, fields, Data.holesInFields, Data.holes, Node.kind]
  · simp [Part.holes, holes_eq, fields, Data.holesInFields, Data.holes, Node.kind]
  · rfl

theorem flatMap_under (kind field : String) (slots : List Slot) :
    (under kind field slots).flatMap Part.holes =
      slots.flatMap fun slot => (viewSlot slot).holes kind field := by
  rw [under, List.flatMap_map]
  rfl

/-- The nulls of a node that is no tag are those of its slots. -/
theorem holes_eq_flatMap {node : Node} (untagged : ∀ key value, node ≠ .tag key value) :
    node.holes = node.parts.flatMap Part.holes := by
  rw [holes_eq]
  cases node with
  | tag key value => exact absurd rfl (untagged key value)
  | dict items | call _ items =>
    simp [parts, fields, kind, Data.holesInFields, Data.holes, List.flatMap_map, holes_entryPart]
  | _ => simp [parts, fields, kind, Data.holesInFields, Data.holes, flatMap_under]

theorem mem_holes_tag {key : String} {value : Option String} {hole : String × String}
    (member : hole ∈ (tag key value).holes) : hole = ("Tag", "value") := by
  rw [holes_eq] at member
  cases value with
  | none => simpa [fields, kind, Data.holesInFields, Data.holes] using member
  | some value => simp [fields, Data.holesInFields, Data.holes] at member

/-- A null in the view of a node is a value that a tag does not have, stands for an empty slot, or
is one in the view of an inner node. -/
theorem mem_holes_cases {node : Node} {hole : String × String} (member : hole ∈ node.holes) :
    hole = ("Tag", "value") ∨ (hole, none) ∈ node.parts ∨
      ∃ inner, some inner ∈ node.slots ∧ hole ∈ inner.holes := by
  by_cases tagged : ∃ key value, node = .tag key value
  · obtain ⟨key, value, rfl⟩ := tagged
    exact .inl (mem_holes_tag member)
  · simp only [not_exists] at tagged
    rw [holes_eq_flatMap tagged] at member
    obtain ⟨⟨label, slot⟩, partMember, member⟩ := List.mem_flatMap.mp member
    cases slot with
    | none =>
      rw [Part.holes, holes_viewSlot_none, List.mem_singleton] at member
      exact .inr (.inl (member ▸ partMember))
    | some inner =>
      rw [Part.holes, holes_viewSlot_some] at member
      rw [← map_snd_parts]
      exact .inr (.inr ⟨inner, List.mem_map.mpr ⟨_, partMember, rfl⟩, member⟩)

/-- Every null of a slot is one of the node around it. -/
theorem mem_holes_of_mem_parts {node : Node} {part : Part} {hole : String × String}
    (partMember : part ∈ node.parts) (member : hole ∈ part.holes) : hole ∈ node.holes := by
  rw [holes_eq_flatMap]
  · exact List.mem_flatMap.mpr ⟨part, partMember, member⟩
  · rintro key value rfl
    cases partMember

/-- The fields of nodes that hold a node or a sequence of nodes, each with the kind of its node. -/
def nodeFields : List (String × String) :=
  [("Property", "value"), ("Argument", "value"), ("Field", "base"), ("Index", "base"),
    ("Index", "expression"), ("BinaryExpression", "left"), ("BinaryExpression", "right"),
    ("UnaryExpression", "expression"), ("Parenthesis", "content"), ("List", "items"),
    ("Template", "chunks"), ("Dict", "items"), ("Call", "arguments"), ("Assign", "to"),
    ("Assign", "value"), ("IfThen", "condition"), ("IfThen", "then_body"),
    ("IfThen", "else_body"), ("Step", "value"), ("While", "condition"), ("While", "body"),
    ("Parameter", "default"), ("Actionword", "tags"), ("Actionword", "parameters"),
    ("Actionword", "body"), ("Scenario", "tags"), ("Scenario", "parameters"),
    ("Scenario", "body"), ("Actionwords", "items"), ("Scenarios", "items"),
    ("Project", "scenarios"), ("Project", "actionwords")]

theorem fst_of_mem_under {kind field : String} {slots : List Slot} {part : Part}
    (member : part ∈ under kind field slots) : part.1 = (kind, field) := by
  obtain ⟨slot, _, rfl⟩ := List.mem_map.mp member
  rfl

theorem mem_nodeFields_of_mem_under {kind field : String} {slots : List Slot} {part : Part}
    (known : (kind, field) ∈ nodeFields) (member : part ∈ under kind field slots) :
    part.1 ∈ nodeFields :=
  fst_of_mem_under member ▸ known

theorem mem_nodeFields_of_mem_entries {kind field : String} {slots : List Slot} {part : Part}
    (known : (kind, field) ∈ nodeFields) (member : part ∈ slots.map (entryPart kind field)) :
    part.1 ∈ nodeFields := by
  obtain ⟨slot, _, rfl⟩ := List.mem_map.mp member
  rw [entryPart.eq_def]
  split
  · exact List.mem_cons_self
  · exact List.mem_cons_of_mem _ List.mem_cons_self
  · exact known

/-- The slots of a node are shown in fields for nodes. -/
theorem mem_nodeFields_of_mem_parts {node : Node} {part : Part} (member : part ∈ node.parts) :
    part.1 ∈ nodeFields := by
  cases node with
  | null | string _ | number _ | boolean _ | var _ | tag _ _ => cases member
  | dict _ | call _ _ => exact mem_nodeFields_of_mem_entries (by decide) member
  | index _ _ | binary _ _ _ | assign _ _ | loop _ _ | project _ _ _ _ =>
    rcases List.mem_append.mp member with member | member
    all_goals exact mem_nodeFields_of_mem_under (by decide) member
  | conditional _ _ _ | actionword _ _ _ _ | scenario _ _ _ _ _ =>
    rcases List.mem_append.mp member with member | member
    · exact mem_nodeFields_of_mem_under (by decide) member
    · rcases List.mem_append.mp member with member | member
      all_goals exact mem_nodeFields_of_mem_under (by decide) member
  | _ => exact mem_nodeFields_of_mem_under (by decide) member

end Node

/-! ### Nulls and gaps -/

namespace Build

/-- What the nulls in a view say about gaps or failures. Where there are none of these, only a value
or a default can be null, and it is because there is none; where there are some, some field for
nodes has a null. -/
structure Shows {α : Type} (holes : List (String × String)) (lost : List α) : Prop where
  complete : lost = [] → ∀ hole ∈ holes, hole ∈ [("Tag", "value"), ("Parameter", "default")]
  missing : lost ≠ [] → ∃ hole ∈ holes, hole ∈ Node.nodeFields

/-- The slots of a node that are not owed to its element are empty defaults. -/
def KeepsOwed (source : Element) (node : Node) : Prop :=
  ∀ slot ∈ node.slots, slot ∈ node.owed source ∨
    slot = none ∧ ∃ name default, node = .parameter name default

/-- If the views of inner nodes show their gaps, then so does the view of the node. -/
theorem Shows.of_inner {source : Element} {node : Node}
    (owed : node.owed source = (node.sites source).map fun site => site.part.slot)
    (keeps : KeepsOwed source node)
    (inner : ∀ site ∈ node.sites source, ∀ found part, site.part = .element found →
      (build found).result = .ok part → Shows part.holes (part.gaps found)) :
    Shows node.holes (node.gaps source) := by
  -- what stands in a slot was built from the part at a site
  have built {slot : Slot} (member : slot ∈ node.owed source) :
      ∃ site ∈ node.sites source, site.part.slot = slot := by
    rw [owed] at member
    exact List.mem_map.mp member
  have shown {site : Site} (member : site ∈ node.sites source) {part : Node}
      (filled : site.part.slot = some part) :
      Shows part.holes (part.gaps site.part.source) := by
    obtain ⟨place, found | vacant⟩ := site
    · exact inner _ member found part rfl (slotOf_eq_some_iff.mp filled)
    · cases filled
  rw [Node.gaps_eq owed]
  constructor
  · intro complete hole member
    rcases Node.mem_holes_cases member with rfl | empty | ⟨part, filled, member⟩
    · exact List.mem_cons_self
    · have slotMember : none ∈ node.slots :=
        node.map_snd_parts ▸ List.mem_map.mpr ⟨_, empty, rfl⟩
      rcases keeps none slotMember with kept | ⟨_, name, default, rfl⟩
      · obtain ⟨site, member, gap⟩ := built kept
        have none := List.flatMap_eq_nil_iff.mp complete site member
        rw [gap] at none
        cases none
      · have label := Node.fst_of_mem_under empty
        exact List.mem_cons_of_mem _ (List.mem_singleton.mpr label)
    · rcases keeps _ filled with kept | ⟨impossible, _⟩
      · obtain ⟨site, siteMember, filled⟩ := built kept
        have none := List.flatMap_eq_nil_iff.mp complete site siteMember
        rw [filled, Node.gapsAt, List.map_eq_nil_iff] at none
        exact (shown siteMember filled).complete none hole member
      · cases impossible
  · intro missing
    obtain ⟨place, member⟩ := List.exists_mem_of_ne_nil _ missing
    obtain ⟨site, siteMember, member⟩ := List.mem_flatMap.mp member
    have slotMember : site.part.slot ∈ node.parts.map Prod.snd := by
      rw [Node.map_snd_parts]
      exact Node.mem_slots_of_mem_owed (owed ▸ List.mem_map.mpr ⟨site, siteMember, rfl⟩)
    obtain ⟨⟨label, slot⟩, partMember, same⟩ := List.mem_map.mp slotMember
    obtain rfl : slot = site.part.slot := same
    cases filled : site.part.slot with
    | none =>
      rw [filled] at partMember
      have known := Node.mem_nodeFields_of_mem_parts partMember
      refine ⟨label, Node.mem_holes_of_mem_parts partMember ?_, known⟩
      rw [Node.Part.holes, Node.holes_viewSlot_none]
      exact List.mem_cons_self
    | some part =>
      rw [filled] at member partMember
      have gaps : part.gaps site.part.source ≠ [] := by
        rintro none
        rw [Node.gapsAt, none] at member
        cases member
      obtain ⟨hole, holeMember, known⟩ := (shown siteMember filled).missing gaps
      refine ⟨hole, Node.mem_holes_of_mem_parts partMember ?_, known⟩
      rw [Node.Part.holes, Node.holes_viewSlot_some]
      exact holeMember

theorem Made.keepsOwed {element : Element} {kind : Kind} {node : Node}
    (made : Made slotOf element kind node) : KeepsOwed element node := by
  intro slot member
  cases made with
  | @parameter name nameFound =>
    cases wrapperFound : element.selectFirst? ["default_value"] with
    | none =>
      rw [wrapperFound] at member
      exact .inr ⟨List.mem_singleton.mp member, _, _, rfl⟩
    | some wrapper =>
      rw [Node.owed, wrapperFound]
      rw [wrapperFound] at member
      exact .inl member
  | _ => exact .inl member

/-- The view of a node shows its gaps. -/
theorem shows_gaps {element : Element} {node : Node} (built : (build element).result = .ok node) :
    Shows node.holes (node.gaps element) := by
  induction element using sitesOf_induction generalizing node with
  | step element inner =>
    obtain ⟨kind, announced, made⟩ := build_ok_iff.mp built
    have owed := made.owed_eq
    rw [List.map_map, ← sitesOf_eq announced, ← made.sites_eq] at owed
    refine .of_inner owed made.keepsOwed ?_
    rw [made.sites_eq]
    exact fun site member found part is built => inner site member found is built

/-- The view of a project shows whether anything failed. -/
theorem Assembly.shows_failures {root : Element} {assembly : Assembly}
    (assembled : assemble root = .ok assembly) :
    Shows assembly.project.node.holes assembly.failures := by
  obtain ⟨source, within, failures, owed⟩ := assemble_ok assembled
  have shows : Shows assembly.project.node.holes (assembly.project.node.gaps source) :=
    .of_inner owed (fun slot member => .inl member) fun site _ found part _ built =>
      shows_gaps built
  have accounts : Accounts (projectRecord source) (assembly.project.node.gaps source) := by
    refine .of_outermost ?_
    rw [Node.gaps_eq owed]
    exact outermost_flatMap_record (apart_projectSites source)
      fun _ _ _ _ _ built => outermost_record built
  have nothing : assembly.failures = [] ↔ assembly.project.node.gaps source = [] := by
    rw [← failures, List.map_eq_nil_iff, accounts.none]
  exact ⟨fun none => shows.complete (nothing.mp none),
    fun some => shows.missing (some ∘ nothing.mpr)⟩

end Build

end ScenarioTree
