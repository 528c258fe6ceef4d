/-
This file says where the parts of a node stand in the document. For every kind there is a list of
requests, each a path with what is taken of its matches, and the requests of an element lead to its
sites: places below it, no one inside another. A rule builds what stands there, from the first site
on, and it builds all of it whenever it makes a node (`asks_sites`).

That no site lies inside another is decided by the table alone: the paths of one kind begin with
different tags, and the matches of one path are apart anyway.
-/

import ScenarioTree.Proofs.Place
import ScenarioTree.Proofs.Rule

namespace ScenarioTree.Build

open ScenarioTree.Xml (Element Path Place)

/-! ### Sites -/

/-- A part together with its place in the document. For a wrapper that holds nothing it is the place
of the wrapper. -/
structure Site where
  place : Place
  part : Part

/-- The element that a part is about. -/
def Part.source : Part → Element
  | element found => found
  | vacant holder => holder

namespace Site

/-- The site of an element. -/
def of (found : Place × Element) : Site :=
  ⟨found.1, .element found.2⟩

/-- The site of what a wrapper holds. -/
def within (found : Place × Element) : Site :=
  match found.2.firstChild? with
  | some child => ⟨found.1 ++ [0], .element child⟩
  | none => ⟨found.1, .vacant found.2⟩

theorem part_within (found : Place × Element) : (within found).part = .within found.2 := by
  rw [within, Part.within]
  cases found.2.firstChild? <;> rfl

theorem place_within (found : Place × Element) :
    ∃ rest, (within found).place = found.1 ++ rest := by
  rw [within]
  cases found.2.firstChild? with
  | none => exact ⟨[], (List.append_nil _).symm⟩
  | some child => exact ⟨[0], rfl⟩

/-- A site is where it says, strictly inside an element. -/
structure Inside (site : Site) (element : Element) : Prop where
  found : element.at? site.place = some site.part.source
  below : site.place ≠ []
  lower : site.part.source.height < element.height

end Site

/-! ### Requests -/

/-- What a rule asks for: the matches of a path or the first of them, and the matches themselves or
what they hold. -/
structure Request where
  path : Path
  leads : path ≠ [] := by exact List.cons_ne_nil _ _
  onlyFirst : Bool := false
  held : Bool := false

namespace Request

/-- The matches that are taken. -/
def found (request : Request) (element : Element) : List (Place × Element) :=
  if request.onlyFirst then (element.placed request.path).head?.toList
  else element.placed request.path

/-- The sites that a request leads to. -/
def sites (request : Request) (element : Element) : List Site :=
  (request.found element).map (if request.held then Site.within else Site.of)

theorem found_sublist (request : Request) (element : Element) :
    (request.found element).Sublist (element.placed request.path) := by
  rw [found]
  split
  · cases element.placed request.path with
    | nil => exact .slnil
    | cons first rest => exact List.singleton_sublist.mpr List.mem_cons_self
  · exact List.Sublist.refl _

/-- A site of a request is the place of a match, or the first place inside it. -/
theorem exists_of_mem_sites {request : Request} {element : Element} {site : Site}
    (member : site ∈ request.sites element) :
    ∃ found ∈ element.placed request.path, ∃ rest, site.place = found.1 ++ rest ∧
      (site = Site.of found ∨ site = Site.within found) := by
  obtain ⟨found, taken, rfl⟩ := List.mem_map.mp member
  refine ⟨found, (request.found_sublist element).mem taken, ?_⟩
  cases request.held with
  | true =>
    obtain ⟨rest, place⟩ := Site.place_within found
    exact ⟨rest, place, .inr rfl⟩
  | false => exact ⟨[], (List.append_nil _).symm, .inl rfl⟩

/-- Whether two requests are told apart by the tag with which their paths begin. -/
def Separate (first second : Request) : Prop :=
  ∃ step path other others, first.path = step :: path ∧ second.path = other :: others ∧
    step ≠ other ∧ step ≠ "*" ∧ other ≠ "*"

theorem inside_of_mem_sites {request : Request} {element : Element} {site : Site}
    (member : site ∈ request.sites element) : site.Inside element := by
  obtain ⟨⟨place, chosen⟩, placed, _, _, kept⟩ := exists_of_mem_sites member
  have position := Element.at?_of_mem_placed placed
  have depth := Element.length_of_mem_placed placed
  have selected : chosen ∈ element.select request.path := by
    rw [← Element.map_snd_placed]
    exact List.mem_map.mpr ⟨_, placed, rfl⟩
  have height := Element.height_of_mem_select selected
  have steps := List.length_pos_iff.mpr request.leads
  have nonempty : place ≠ [] := List.length_pos_iff.mp (depth ▸ steps)
  rcases kept with rfl | rfl
  · exact ⟨position, nonempty, by simp only [Site.of, Part.source]; omega⟩
  · rw [Site.within]
    cases first : chosen.firstChild? with
    | none => exact ⟨position, nonempty, by simp only [Part.source]; omega⟩
    | some child =>
      have inner := Element.height_lt_of_mem_children (List.mem_of_head? first)
      refine ⟨?_, by simp, by simp only [Part.source]; omega⟩
      rw [Element.firstChild?, List.head?_eq_getElem?] at first
      rw [Element.at?_append, position]
      simp [Element.at?, Part.source, first]

theorem apart_sites (request : Request) (element : Element) :
    (request.sites element).Pairwise fun first second => first.place.Apart second.place := by
  rw [sites, List.pairwise_map]
  refine ((Element.apart_placed element request.path).sublist
    (request.found_sublist element)).imp ?_
  intro first second apart
  cases request.held with
  | true =>
    obtain ⟨rest, place⟩ := Site.place_within first
    obtain ⟨others, other⟩ := Site.place_within second
    simp only [if_true, place, other]
    exact apart.extend rest others
  | false => exact apart

theorem Separate.apart {first second : Request} {element : Element} {site other : Site}
    (separate : first.Separate second) (member : site ∈ first.sites element)
    (otherMember : other ∈ second.sites element) : site.place.Apart other.place := by
  obtain ⟨step, path, tag, others, firstPath, secondPath, different, firstTag, secondTag⟩ :=
    separate
  obtain ⟨⟨place, chosen⟩, placed, rest, sitePlace, _⟩ := exists_of_mem_sites member
  obtain ⟨⟨place', chosen'⟩, placed', rest', otherPlace, _⟩ := exists_of_mem_sites otherMember
  rw [firstPath] at placed
  rw [secondPath] at placed'
  obtain ⟨index, child, below, rfl, position, answers, _⟩ := Element.mem_placed_cons.mp placed
  obtain ⟨index', child', below', rfl, position', answers', _⟩ :=
    Element.mem_placed_cons.mp placed'
  -- one child has one tag, so it cannot be the match of both first steps
  have apart : index ≠ index' := by
    rintro rfl
    obtain rfl := Option.some.inj (position.symm.trans position')
    simp only [Element.answers, beq_iff_eq, Bool.or_eq_true, firstTag, secondTag, false_or]
      at answers answers'
    exact different (answers.symm.trans answers')
  rw [sitePlace, otherPlace]
  exact Place.apart_of_head_ne apart _ _

/-! ### Several requests -/

theorem inside_of_mem_flatMap {requests : List Request} {element : Element} {site : Site}
    (member : site ∈ requests.flatMap fun request => request.sites element) :
    site.Inside element := by
  obtain ⟨request, _, leads⟩ := List.mem_flatMap.mp member
  exact inside_of_mem_sites leads

/-- Requests that are told apart lead to sites that are apart. -/
theorem apart_flatMap {requests : List Request} (separate : requests.Pairwise Separate)
    (element : Element) :
    (requests.flatMap fun request => request.sites element).Pairwise fun first second =>
      first.place.Apart second.place := by
  rw [List.pairwise_flatMap]
  constructor
  · intro request _
    exact request.apart_sites element
  · refine separate.imp ?_
    intro first second separate site member other otherMember
    exact separate.apart member otherMember

/-! ### The parts of a request -/

theorem map_of (found : List (Place × Element)) :
    (found.map Site.of).map Site.part = (found.map Prod.snd).map .element := by
  rw [List.map_map, List.map_map]
  rfl

theorem map_within (found : List (Place × Element)) :
    (found.map Site.within).map Site.part = (found.map Prod.snd).map .within := by
  rw [List.map_map, List.map_map]
  exact List.map_congr_left fun chosen _ => Site.part_within chosen

theorem map_snd_head (element : Element) (path : Path) :
    (element.placed path).head?.toList.map Prod.snd = (element.selectFirst? path).toList := by
  rw [Element.selectFirst?, ← Element.map_snd_placed, List.head?_map, Option.toList_map]

@[simp]
theorem parts_each (element : Element) (path : Path) (leads : path ≠ []) :
    (sites { path, leads } element).map Site.part = (element.select path).map .element := by
  simp only [sites, found, Bool.false_eq_true, if_false, map_of, Element.map_snd_placed]

@[simp]
theorem parts_first (element : Element) (path : Path) (leads : path ≠ []) :
    (sites { path, leads, onlyFirst := true } element).map Site.part =
      (element.selectFirst? path).toList.map .element := by
  simp only [sites, found, Bool.false_eq_true, if_false, if_true, map_of, map_snd_head]

@[simp]
theorem parts_held (element : Element) (path : Path) (leads : path ≠ []) :
    (sites { path, leads, held := true } element).map Site.part =
      (element.select path).map .within := by
  simp only [sites, found, Bool.false_eq_true, if_false, if_true, map_within,
    Element.map_snd_placed]

@[simp]
theorem parts_firstHeld (element : Element) (path : Path) (leads : path ≠ []) :
    (sites { path, leads, onlyFirst := true, held := true } element).map Site.part =
      (element.selectFirst? path).toList.map .within := by
  simp only [sites, found, if_true, map_within, map_snd_head]

end Request

/-- The first child of the first child is the first match two levels below. -/
theorem selectFirst?_star_star {element first inner : Element}
    (firstFound : element.firstChild? = some first)
    (innerFound : first.selectFirst? ["*"] = some inner) :
    element.selectFirst? ["*", "*"] = some inner := by
  obtain ⟨others, children⟩ := List.head?_eq_some_iff.mp firstFound
  obtain ⟨rest, below⟩ := List.head?_eq_some_iff.mp innerFound
  rw [select_star] at below
  simp [Element.selectFirst?, Element.select, Element.answers, children, below]

/-! ### The table -/

namespace Kind

/-- What the rule of a kind asks for, in the order in which it builds it. -/
def requests (kind : Kind) (element : Element) : List Request :=
  match kind with
  | .null | .string | .number | .boolean | .var | .tag => []
  | .field => [{ path := ["base", "*"], onlyFirst := true }]
  | .index =>
    [{ path := ["base", "*"], onlyFirst := true },
      { path := ["expression", "*"], onlyFirst := true }]
  | .operation =>
    if element.select ["left"] = [] then [{ path := ["expression", "*"], onlyFirst := true }]
    else
      [{ path := ["left", "*"], onlyFirst := true }, { path := ["right", "*"], onlyFirst := true }]
  | .parenthesis => [{ path := ["*"], onlyFirst := true }]
  | .list => [{ path := ["item"], held := true }]
  | .dict => [{ path := ["*"], held := true }]
  | .template => [{ path := ["*"] }]
  | .assign =>
    [{ path := ["to", "*"], onlyFirst := true }, { path := ["value", "*"], onlyFirst := true }]
  | .call => [{ path := ["arguments", "*"], held := true }]
  | .conditional =>
    [{ path := ["condition", "*"], onlyFirst := true }, { path := ["then", "*"] },
      { path := ["else", "*"] }]
  | .loop => [{ path := ["condition", "*"], onlyFirst := true }, { path := ["body", "*"] }]
  | .step =>
    match element.firstChild? with
    | none => []
    | some first =>
      if (Kind.ofTag? first.tag).isSome then [{ path := ["*"], onlyFirst := true }]
      else [{ path := ["*", "*"], onlyFirst := true }]
  | .parameter => [{ path := ["default_value"], onlyFirst := true, held := true }]
  | .actionword | .scenario =>
    [{ path := ["tags", "tag"] }, { path := ["parameters", "parameter"] },
      { path := ["steps", "*"] }]
  | .actionwords => [{ path := ["actionword"] }]
  | .scenarios => [{ path := ["scenario"] }]

/-- The sites of an element of a kind. -/
def sites (kind : Kind) (element : Element) : List Site :=
  (kind.requests element).flatMap fun request => request.sites element

/-- The requests of one kind lead to different children. -/
theorem separate_requests (kind : Kind) (element : Element) :
    (kind.requests element).Pairwise Request.Separate := by
  cases kind <;> simp only [requests] <;> (repeat' split) <;>
    simp [Request.Separate]

theorem inside_of_mem_sites {kind : Kind} {element : Element} {site : Site}
    (member : site ∈ kind.sites element) : site.Inside element :=
  Request.inside_of_mem_flatMap member

/-- No site of an element lies inside another one. -/
theorem apart_sites (kind : Kind) (element : Element) :
    (kind.sites element).Pairwise fun first second => first.place.Apart second.place :=
  Request.apart_flatMap (separate_requests kind element) element

/-- The parts at the sites of an element. -/
theorem map_part_sites (kind : Kind) (element : Element) :
    (kind.sites element).map Site.part =
      (kind.requests element).flatMap fun request => (request.sites element).map Site.part :=
  List.map_flatMap

/-- A rule asks for the parts at the sites of its element. -/
theorem asks_sites (kind : Kind) (element : Element) :
    (kind.plan element).Asks ((kind.sites element).map Site.part) := by
  rw [map_part_sites]
  cases kind with
  | null => exact .of_parts _
  | string => exact .of_parts _
  | number =>
    rw [plan]
    cases Literal.number (.source (.element element)) with
    | error cause => exact .fail cause _
    | ok node => exact .of_parts _
  | boolean =>
    rw [plan]
    cases Literal.boolean (.source (.element element)) with
    | error cause => exact .fail cause _
    | ok node => exact .of_parts _
  | var =>
    rw [plan, planVar]
    split
    · exact .fail _ _
    · exact .of_parts _
  | field =>
    have asks := (Plan.Asks.slotAt element ["base", "*"]).map Node.field |>.seq
      (.textAt element ["name"])
    simpa [requests, plan, planField] using asks
  | index =>
    have asks := (Plan.Asks.slotAt element ["base", "*"]).map Node.index |>.seq
      (.slotAt element ["expression", "*"])
    simpa [requests, plan, planIndex] using asks
  | operation =>
    rw [plan, planOperation]
    cases sideFound : element.selectFirst? ["left"] with
    | none =>
      have oneSided := selectFirst?_eq_none_iff.mp sideFound
      have asks := (Plan.Asks.textAt element ["operator"]).map Node.unary |>.seq
        (.slotAt element ["expression", "*"])
      simpa [requests, oneSided] using asks
    | some side =>
      have twoSided := select_ne_nil_of_first sideFound
      have asks := ((Plan.Asks.textAt element ["operator"]).map
        (fun operator left right => Node.binary left operator right)).seq
          (.slotAt element ["left", "*"]) |>.seq (.slotAt element ["right", "*"])
      simpa [requests, twoSided] using asks
  | parenthesis =>
    have asks := (Plan.Asks.slotAt element ["*"]).map Node.parenthesis
    simpa [requests, plan] using asks
  | list =>
    have asks := (Plan.Asks.slots ((element.select ["item"]).map .within)).map Node.list
    simpa [requests, plan, planList] using asks
  | dict =>
    have asks := (Plan.Asks.entriesAt element ["*"] .property).map Node.dict
    simpa [requests, plan] using asks
  | template =>
    have asks := (Plan.Asks.slotsAt element ["*"]).map Node.template
    simpa [requests, plan] using asks
  | assign =>
    have asks := (Plan.Asks.slotAt element ["to", "*"]).map Node.assign |>.seq
      (.slotAt element ["value", "*"])
    simpa [requests, plan] using asks
  | call =>
    have asks := (Plan.Asks.entriesAt element ["arguments", "*"] .argument).map
      (fun arguments name => Node.call name arguments) |>.seq (.textAt element ["actionword"])
    simpa [requests, plan, planCall] using asks
  | conditional =>
    have asks := ((Plan.Asks.slotAt element ["condition", "*"]).map Node.conditional).seq
      (.slotsAt element ["then", "*"]) |>.seq (.slotsAt element ["else", "*"])
    simpa [requests, plan, planConditional] using asks
  | loop =>
    have asks := (Plan.Asks.slotAt element ["condition", "*"]).map Node.loop |>.seq
      (.slotsAt element ["body", "*"])
    simpa [requests, plan] using asks
  | step =>
    rw [plan, planStep, requests]
    cases firstFound : element.firstChild? with
    | none => exact .fail _ _
    | some first =>
      cases known : Kind.ofTag? first.tag with
      | some kind =>
        have asks := (Plan.Asks.slot (.element first)).map (Node.step first.tag)
        have taken : element.selectFirst? ["*"] = some first := by
          rw [Element.selectFirst?, select_star]
          exact firstFound
        simpa [known, taken] using asks
      | none =>
        have asks := (Plan.Asks.slotAt first ["*"]).map (Node.step first.tag)
        cases payloadFound : first.selectFirst? ["*"] with
        | none =>
          have stopped : slotAt first ["*"] = .fail (.missingChild first.tag ["*"]) := by
            rw [slotAt, payloadFound]
          simp only [known, Option.isSome_none, Bool.false_eq_true, if_false, stopped]
          exact (Plan.Asks.fail _ _).map _
        | some payload =>
          simpa [known, selectFirst?_star_star firstFound payloadFound, payloadFound] using asks
  | tag =>
    have asks := (Plan.Asks.textAt element ["key"]).map
      (Node.tag · ((element.selectFirst? ["value"]).map Element.content))
    simpa [requests, plan, planTag] using asks
  | parameter =>
    rw [plan, planParameter]
    cases wrapperFound : element.selectFirst? ["default_value"] with
    | none =>
      have asks := (Plan.Asks.textAt element ["name"]).map (Node.parameter · none)
      simpa [requests, wrapperFound] using asks
    | some wrapper =>
      have asks := (Plan.Asks.textAt element ["name"]).map Node.parameter |>.seq
        (.slot (.within wrapper))
      simpa [requests, wrapperFound] using asks
  | actionword =>
    have asks := (((Plan.Asks.textAt element ["name"]).map Node.actionword).seq
      (.slotsAt element ["tags", "tag"])).seq (.slotsAt element ["parameters", "parameter"]) |>.seq
        (.slotsAt element ["steps", "*"])
    simpa [requests, plan, planActionword, planTags, planParameters, planSteps] using asks
  | scenario =>
    have asks := (((Plan.Asks.textAt element ["name"]).map
      (Node.scenario · (((element.selectFirst? ["description"]).map Element.content).getD ""))).seq
      (.slotsAt element ["tags", "tag"])).seq (.slotsAt element ["parameters", "parameter"]) |>.seq
        (.slotsAt element ["steps", "*"])
    simpa [requests, plan, planScenario, planTags, planParameters, planSteps] using asks
  | actionwords =>
    have asks := (Plan.Asks.slotsAt element ["actionword"]).map Node.actionwords
    simpa [requests, plan] using asks
  | scenarios =>
    have asks := (Plan.Asks.slotsAt element ["scenario"]).map Node.scenarios
    simpa [requests, plan] using asks

end Kind

end ScenarioTree.Build
