/-
This file accounts for gaps. A tree of nodes and a list of failures record the same events, each in
its own way: a part that fails leaves a gap where its node should be, and a failure with its
element. What fails inside a part that fails leaves only failures, since nothing of that part is
kept.

So the gaps of a node are the outermost of the failures behind it, one by one and in order
(`outermost_record`). A default that is missing is no gap, and only the element can tell it from one
that failed; therefore the gaps of a node are taken together with the element it was built from.
-/

import ScenarioTree.Proofs.Record

namespace ScenarioTree

open ScenarioTree.Xml (Element Place outermost under)

/-! ### The slots of a node -/

namespace Node

/-- What a named entry holds. -/
def entryValue : Slot → Slot
  | some (property _ value) => value
  | some (argument _ value) => value
  | slot => slot

/-- The slots of a node, from the first field to the last. A named entry stands for what it
holds. -/
def slots : Node → List Slot
  | null | string _ | number _ | boolean _ | var _ | tag _ _ => []
  | property _ value | argument _ value => [value]
  | field base _ => [base]
  | index base expression => [base, expression]
  | binary left _ right => [left, right]
  | unary _ expression => [expression]
  | parenthesis content => [content]
  | list items | template items => items
  | dict items | call _ items => items.map entryValue
  | assign target value => [target, value]
  | conditional condition thenBody elseBody => condition :: (thenBody ++ elseBody)
  | step _ value => [value]
  | loop condition body => condition :: body
  | parameter _ default => [default]
  | actionword _ tags parameters body | scenario _ _ tags parameters body =>
    tags ++ (parameters ++ body)
  | actionwords items | scenarios items => items
  | project _ _ tests words => [tests, words]

/-- The slots that a node owes to its element: a default only if the element has one. -/
def owed (source : Element) : Node → List Slot
  | parameter _ default => if (source.selectFirst? ["default_value"]).isSome then [default] else []
  | node => node.slots

theorem sizeOf_lt_of_mem {slots : List Slot} {node : Node} (member : some node ∈ slots) :
    sizeOf node < sizeOf slots := by
  have smaller := List.sizeOf_lt_of_mem member
  rw [Option.some.sizeOf_spec] at smaller
  omega

theorem sizeOf_lt_of_mem_entries {slots : List Slot} {node : Node}
    (member : some node ∈ slots.map entryValue) : sizeOf node < sizeOf slots := by
  obtain ⟨slot, entry, value⟩ := List.mem_map.mp member
  have smaller := List.sizeOf_lt_of_mem entry
  rw [entryValue.eq_def] at value
  split at value
  all_goals
    subst value
    simp only [Option.some.sizeOf_spec, property.sizeOf_spec, argument.sizeOf_spec] at smaller
    omega

/-- A node in a slot is smaller than the node around it. -/
theorem sizeOf_lt_of_mem_slots {node inner : Node} (member : some inner ∈ node.slots) :
    sizeOf inner < sizeOf node := by
  cases node with
  | null | string _ | number _ | boolean _ | var _ | tag _ _ => cases member
  | dict items | call _ items =>
    have smaller := sizeOf_lt_of_mem_entries member
    simp
    omega
  | list items | template items | actionwords items | scenarios items =>
    have smaller : sizeOf inner < sizeOf items := sizeOf_lt_of_mem member
    simp
    omega
  | conditional condition thenBody elseBody =>
    simp only [slots, List.mem_cons, List.mem_append] at member
    rcases member with rfl | member | member
    · simp
      omega
    · have smaller := sizeOf_lt_of_mem member
      simp
      omega
    · have smaller := sizeOf_lt_of_mem member
      simp
      omega
  | loop condition body =>
    simp only [slots, List.mem_cons] at member
    rcases member with rfl | member
    · simp
      omega
    · have smaller := sizeOf_lt_of_mem member
      simp
      omega
  | actionword _ tags parameters body | scenario _ _ tags parameters body =>
    simp only [slots, List.mem_append] at member
    rcases member with member | member | member
    all_goals
      have smaller := sizeOf_lt_of_mem member
      simp
      omega
  | index first second | binary first _ second | assign first second | project _ _ first second =>
    simp only [slots, List.mem_cons, List.not_mem_nil, or_false] at member
    rcases member with rfl | rfl
    all_goals
      simp
      omega
  | property _ value | argument _ value | field value _ | unary _ value | parenthesis value
  | step _ value | parameter _ value =>
    obtain rfl := List.mem_singleton.mp member
    simp
    omega

theorem mem_slots_of_mem_owed {source : Element} {node : Node} {slot : Slot}
    (member : slot ∈ node.owed source) : slot ∈ node.slots := by
  cases node with
  | parameter name default =>
    rw [owed] at member
    split at member
    · exact member
    · cases member
  | _ => exact member

/-! ### The gaps of a node -/

/-- The sites that the slots of a node were built from. -/
def sites (source : Element) : Node → List Build.Site
  | project _ _ _ _ => Build.projectSites source
  | _ => Build.sitesOf source

/-- The gaps of a node, each by the place of the element that should have filled it. A slot belongs
to the site of the source with the same position. -/
def gaps (source : Element) (node : Node) : List Place :=
  (node.owed source).attach.zipIdx.flatMap fun (⟨slot, _⟩, position) =>
    let site := (node.sites source)[position]?.getD ⟨[], .vacant source⟩
    match _ : slot with
    | none => [site.place]
    | some inner => (inner.gaps site.part.source).map (site.place ++ ·)
termination_by sizeOf node
decreasing_by
  rename_i member same
  subst same
  exact sizeOf_lt_of_mem_slots (mem_slots_of_mem_owed member)

/-- The gaps of a slot: the place of its site if it is empty, and otherwise those of its node. -/
def gapsAt (slot : Slot) (site : Build.Site) : List Place :=
  match slot with
  | none => [site.place]
  | some inner => (inner.gaps site.part.source).map (site.place ++ ·)

/-- Where every slot has its site, the gaps are found site by site. -/
theorem gaps_eq {source : Element} {node : Node}
    (owed : node.owed source = (node.sites source).map fun site => site.part.slot) :
    node.gaps source = (node.sites source).flatMap fun site => gapsAt site.part.slot site := by
  -- there are as many slots as sites, so no position is missing
  have paired : (node.owed source).attach.zipIdx.map (fun (⟨slot, _⟩, position) =>
      (slot, (node.sites source)[position]?.getD ⟨[], .vacant source⟩)) =
        (node.sites source).map fun site => (site.part.slot, site) := by
    refine List.ext_getElem (by simp [owed]) fun position bound other => ?_
    simp only [List.length_map] at other
    simp [owed, other]
  have visited : node.gaps source =
      ((node.owed source).attach.zipIdx.map (fun (⟨slot, _⟩, position) =>
        (slot, (node.sites source)[position]?.getD ⟨[], .vacant source⟩))).flatMap
          fun (slot, site) => gapsAt slot site := by
    rw [gaps, List.flatMap_map]
    refine List.flatMap_congr fun ⟨⟨slot, _⟩, position⟩ _ => ?_
    cases slot <;> rfl
  rw [visited, paired, List.flatMap_map]

end Node

namespace Build

/-! ### What a node owes to its element -/

/-- The slots of a node that was made are those of the parts at the sites of its element. -/
theorem Made.owed_eq {element : Element} {kind : Kind} {node : Node}
    (made : Made slotOf element kind node) :
    node.owed element = ((kind.sites element).map Site.part).map Part.slot := by
  rw [Kind.map_part_sites]
  cases made with
  | null | string | number _ | boolean _ | var _ | tag _ => rfl
  | field baseFound _ => simp [Node.owed, Node.slots, Kind.requests, baseFound]
  | index baseFound expressionFound =>
    simp [Node.owed, Node.slots, Kind.requests, baseFound, expressionFound]
  | binary sideFound _ leftFound rightFound =>
    have twoSided := select_ne_nil_of_first sideFound
    simp [Node.owed, Node.slots, Kind.requests, twoSided, leftFound, rightFound]
  | unary oneSided _ expressionFound =>
    have oneSided := selectFirst?_eq_none_iff.mp oneSided
    simp [Node.owed, Node.slots, Kind.requests, oneSided, expressionFound]
  | parenthesis contentFound => simp [Node.owed, Node.slots, Kind.requests, contentFound]
  | list | dict | template | actionwords | scenarios | call _ =>
    simp [Node.owed, Node.slots, Kind.requests, Node.entryValue]
  | assign targetFound valueFound =>
    simp [Node.owed, Node.slots, Kind.requests, targetFound, valueFound]
  | conditional conditionFound | loop conditionFound =>
    simp [Node.owed, Node.slots, Kind.requests, conditionFound]
  | step payloadFound known =>
    have payloadFirst := payloadFound
    rw [Element.firstChild?, ← select_star] at payloadFirst
    simp [Node.owed, Node.slots, Kind.requests, payloadFound, known, Element.selectFirst?,
      payloadFirst]
  | role roleFound unknown payloadFound =>
    have payloadFirst := selectFirst?_star_star roleFound payloadFound
    simp [Node.owed, Node.slots, Kind.requests, roleFound, unknown, payloadFirst]
  | parameter _ =>
    cases wrapperFound : element.selectFirst? ["default_value"] with
    | none => simp [Node.owed, Kind.requests, wrapperFound]
    | some wrapper => simp [Node.owed, Kind.requests, wrapperFound]
  | actionword _ | scenario _ => simp [Node.owed, Node.slots, Kind.requests]

theorem Made.sites_eq {element : Element} {kind : Kind} {node : Node}
    (made : Made slotOf element kind node) : node.sites element = sitesOf element := by
  cases made <;> rfl

/-! ### Gaps and failures -/

/-- Where an element fails, its own failure is the only outermost one. -/
theorem outermost_record_of_error {element : Element} {failure : Failure}
    (failed : (build element).result = .error failure) :
    outermost (record element) = [([], failure)] := by
  rw [record_eq, ownFailure_of_error failed]
  exact Xml.outermost_append_top _ _ fun entry member => below_of_mem_record member

/-- The gaps of a slot are the outermost failures of its site, if that is so of the node in it. -/
theorem Site.outermost_record {site : Site}
    (accounted : ∀ found node, site.part = .element found → (build found).result = .ok node →
      (outermost (Build.record found)).map Prod.fst = node.gaps found) :
    (outermost site.record).map Prod.fst = Node.gapsAt site.part.slot site := by
  obtain ⟨place, part⟩ := site
  cases part with
  | vacant holder =>
    rw [Site.record, Xml.outermost_singleton]
    rfl
  | element found =>
    rw [Site.record, Xml.outermost_under, Part.slot_element]
    cases result : (build found).result with
    | error failure =>
      rw [outermost_record_of_error result, slotOf_eq_none_iff.mpr ⟨failure, result⟩]
      exact congrArg (fun whole => [whole]) (List.append_nil place)
    | ok node =>
      rw [slotOf_eq_some_iff.mpr result]
      simp only [Node.gapsAt, Part.source, ← accounted found node rfl result, under, List.map_map]
      rfl

/-- Sites that are apart have their gaps and their outermost failures one by one. -/
theorem outermost_flatMap_record {sites : List Site}
    (apart : sites.Pairwise fun first second => first.place.Apart second.place)
    (accounted : ∀ site ∈ sites, ∀ found node, site.part = .element found →
      (build found).result = .ok node →
        (outermost (record found)).map Prod.fst = node.gaps found) :
    (outermost (sites.flatMap Site.record)).map Prod.fst =
      sites.flatMap fun site => Node.gapsAt site.part.slot site := by
  have parted := Xml.outermost_flatMap
    (fun site (_ : site ∈ sites) entry => site.place_of_mem_record) apart
  rw [parted, List.map_flatMap]
  exact List.flatMap_congr fun site member => site.outermost_record (accounted site member)

/-- The gaps of a node are the outermost of the failures behind it, one by one and in order. -/
theorem outermost_record {element : Element} {node : Node}
    (built : (build element).result = .ok node) :
    (outermost (record element)).map Prod.fst = node.gaps element := by
  induction element using sitesOf_induction generalizing node with
  | step element accounted =>
    obtain ⟨kind, announced, made⟩ := build_ok_iff.mp built
    have owed := made.owed_eq
    rw [List.map_map, ← sitesOf_eq announced, ← made.sites_eq] at owed
    -- a node came out, so all sites were reached and nothing was recorded at the top
    rw [Node.gaps_eq owed, record_eq, ownFailure_of_ok built, reached_of_ok built,
      List.append_nil, made.sites_eq]
    refine outermost_flatMap_record (apart_sitesOf element) ?_
    exact fun site member found node is built => accounted site member found is built

end Build

end ScenarioTree
