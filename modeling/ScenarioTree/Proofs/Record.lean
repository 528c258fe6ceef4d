/-
This file puts failures in their places. Two elements of a document may look the same, so a failure
alone does not say where it arose; here every failure that building an element leaves is given the
place of the element that failed, seen from the element that is built.

Forgetting the places gives back the failures in their order (`map_snd_record`). At every place
stands the element that failed there, and no place has two failures.
-/

import ScenarioTree.Proofs.Outcome
import ScenarioTree.Proofs.Outermost

namespace ScenarioTree.Build

open ScenarioTree.Xml (Element Place under)

/-! ### The sites that are reached -/

/-- The sites of an element; there are none if it is of no kind. -/
def sitesOf (element : Element) : List Site :=
  match Kind.ofTag? element.tag with
  | some kind => kind.sites element
  | none => []

/-- The sites of an element up to the point where its rule fails. -/
def reached (element : Element) : List Site :=
  (sitesOf element).take (planOf element).parts.length

/-- What a project asks for: its first sections of scenarios and of actions. -/
def projectRequests : List Request :=
  [{ path := ["scenarios"], onlyFirst := true }, { path := ["actionwords"], onlyFirst := true }]

/-- The sites of a project. -/
def projectSites (project : Element) : List Site :=
  projectRequests.flatMap fun request => request.sites project

theorem inside_of_mem_sitesOf {element : Element} {site : Site} (member : site ∈ sitesOf element) :
    site.Inside element := by
  rw [sitesOf] at member
  split at member
  · exact Kind.inside_of_mem_sites member
  · cases member

theorem sitesOf_eq {element : Element} {kind : Kind}
    (announced : Kind.ofTag? element.tag = some kind) : sitesOf element = kind.sites element := by
  rw [sitesOf, announced]

/-- What holds of an element as soon as it holds of the elements at its sites holds of all. -/
@[elab_as_elim]
theorem sitesOf_induction {motive : Element → Prop}
    (step : ∀ element, (∀ site ∈ sitesOf element, ∀ found, site.part = .element found →
      motive found) → motive element) (element : Element) : motive element := by
  induction depth : element.height using Nat.strongRecOn generalizing element with
  | ind depth induction =>
    refine step element fun site member found is => ?_
    have lower := (inside_of_mem_sitesOf member).lower
    rw [is] at lower
    exact induction _ (depth ▸ lower) found rfl

theorem apart_sitesOf (element : Element) :
    (sitesOf element).Pairwise fun first second => first.place.Apart second.place := by
  rw [sitesOf]
  split
  · exact Kind.apart_sites _ element
  · exact .nil

theorem inside_of_mem_projectSites {project : Element} {site : Site}
    (member : site ∈ projectSites project) : site.Inside project :=
  Request.inside_of_mem_flatMap member

theorem apart_projectSites (project : Element) :
    (projectSites project).Pairwise fun first second => first.place.Apart second.place :=
  Request.apart_flatMap (by simp [projectRequests, Request.Separate]) project

theorem mem_sitesOf_of_mem_reached {element : Element} {site : Site}
    (member : site ∈ reached element) : site ∈ sitesOf element :=
  List.mem_of_mem_take member

theorem inside_of_mem_reached {element : Element} {site : Site} (member : site ∈ reached element) :
    site.Inside element :=
  inside_of_mem_sitesOf (mem_sitesOf_of_mem_reached member)

theorem apart_reached (element : Element) :
    (reached element).Pairwise fun first second => first.place.Apart second.place :=
  (apart_sitesOf element).sublist (List.take_sublist _ _)

/-- What is built is what stands at the sites that are reached. -/
theorem map_part_reached (element : Element) :
    (reached element).map Site.part = (planOf element).parts := by
  rw [reached, List.map_take, sitesOf]
  cases announced : Kind.ofTag? element.tag with
  | none => simp [planOf, announced, Plan.fail]
  | some kind => exact (List.prefix_iff_eq_take.mp (parts_of_announced announced)).symm

/-- An element that makes a node reaches all of its sites. -/
theorem reached_of_ok {element : Element} {node : Node}
    (built : (build element).result = .ok node) : reached element = sitesOf element := by
  rw [reached, sitesOf]
  rw [build_eq, Outcome.ofRun, carryOut, Plan.run, planOf] at built
  cases announced : Kind.ofTag? element.tag with
  | none => exact List.take_nil
  | some kind =>
    rw [announced] at built
    cases result : (kind.plan element).result with
    | error cause => simp [result, Except.map, Except.mapError] at built
    | ok make =>
      rw [planOf, announced, (kind.asks_sites element).2 make result, List.length_map,
        List.take_length]

/-! ### Failures with their places -/

/-- The failure of an element itself, if it fails. -/
def ownFailure (element : Element) : List (Place × Failure) :=
  match (build element).result with
  | .ok _ => []
  | .error failure => [([], failure)]

/-- The failures that building an element leaves, each with the place of what failed. -/
def record (element : Element) : List (Place × Failure) :=
  (reached element).attach.flatMap (fun ⟨site, _⟩ =>
    match _ : site.part with
    | .element found => under site.place (record found)
    | .vacant holder => [(site.place, ⟨holder, .missingElementChild holder.tag⟩)]) ++
    ownFailure element
termination_by element.height
decreasing_by
  rename_i member part
  have lower := (inside_of_mem_reached member).lower
  rw [part] at lower
  exact lower

/-- The failures that building what stands at a site leaves. -/
def Site.record (site : Site) : List (Place × Failure) :=
  match site.part with
  | .element found => under site.place (Build.record found)
  | .vacant holder => [(site.place, ⟨holder, .missingElementChild holder.tag⟩)]

/-- The record of an element consists of those of its sites and its own failure. -/
theorem record_eq (element : Element) :
    record element = (reached element).flatMap Site.record ++ ownFailure element := by
  rw [record]
  congr 1
  conv_rhs => rw [← List.attach_map_subtype_val (reached element), List.flatMap_map]
  refine List.flatMap_congr fun ⟨site, _⟩ _ => ?_
  rw [Site.record]
  obtain ⟨place, part⟩ := site
  cases part <;> rfl

theorem ownFailure_of_ok {element : Element} {node : Node}
    (built : (build element).result = .ok node) : ownFailure element = [] := by
  rw [ownFailure, built]

theorem ownFailure_of_error {element : Element} {failure : Failure}
    (failed : (build element).result = .error failure) :
    ownFailure element = [([], failure)] := by
  rw [ownFailure, failed]

/-- The failures of an element are those of what it reaches and its own. -/
theorem failures_eq (element : Element) :
    (build element).failures =
      (reached element).flatMap (fun site =>
        (site.part.build fun found => (build found).yield).failures) ++
        (ownFailure element).map Prod.snd := by
  have inner : (build element).inner = (reached element).flatMap fun site =>
      (site.part.build fun found => (build found).yield).failures := by
    rw [build_eq, Outcome.ofRun, carryOut, Plan.run, ← map_part_reached, List.map_map,
      List.flatMap_map]
    rfl
  cases result : (build element).result with
  | ok node =>
    rw [Outcome.failures_of_ok result, ownFailure_of_ok result, inner]
    exact (List.append_nil _).symm
  | error failure =>
    rw [Outcome.failures_of_error result, ownFailure_of_error result, inner]
    rfl

theorem map_snd_under {α : Type} (place : Place) (entries : List (Place × α)) :
    (under place entries).map Prod.snd = entries.map Prod.snd := by
  rw [under, List.map_map]
  rfl

theorem Site.map_snd_record {site : Site}
    (recorded : ∀ found, site.part = .element found →
      (Build.record found).map Prod.snd = (build found).failures) :
    site.record.map Prod.snd = (site.part.build fun found => (build found).yield).failures := by
  obtain ⟨place, part⟩ := site
  cases part with
  | vacant holder => rfl
  | element found => exact (map_snd_under _ _).trans (recorded found rfl)

/-- Without their places these are the failures, in the order in which they arose. -/
theorem map_snd_record (element : Element) :
    (record element).map Prod.snd = (build element).failures := by
  induction element using sitesOf_induction with
  | step element recorded =>
    rw [record_eq, failures_eq, List.map_append, List.map_flatMap]
    congr 1
    refine List.flatMap_congr fun site member => site.map_snd_record ?_
    exact recorded site (mem_sitesOf_of_mem_reached member)

/-! ### Places of failures -/

theorem Site.at?_of_mem_record {site : Site} {element : Element} {entry : Place × Failure}
    (inside : site.Inside element) (member : entry ∈ site.record)
    (stands : ∀ found inner, site.part = .element found → inner ∈ Build.record found →
      found.at? inner.1 = some inner.2.element) :
    element.at? entry.1 = some entry.2.element := by
  obtain ⟨place, part⟩ := site
  cases part with
  | vacant holder =>
    obtain rfl := List.mem_singleton.mp member
    exact inside.found
  | element found =>
    obtain ⟨inner, innerMember, rfl⟩ := List.mem_map.mp member
    rw [Element.at?_append, inside.found]
    exact stands found inner rfl innerMember

/-- What fails stands at the place of its failure. -/
theorem at?_of_mem_record {element : Element} {entry : Place × Failure}
    (member : entry ∈ record element) : element.at? entry.1 = some entry.2.element := by
  induction element using sitesOf_induction generalizing entry with
  | step element stands =>
    rw [record_eq, List.mem_append, List.mem_flatMap] at member
    rcases member with ⟨site, reachedSite, member⟩ | member
    · refine site.at?_of_mem_record (inside_of_mem_reached reachedSite) member ?_
      intro found inner is innerMember
      exact stands site (mem_sitesOf_of_mem_reached reachedSite) found is innerMember
    · rw [ownFailure] at member
      split at member
      · cases member
      · next failure failed =>
        obtain rfl := List.mem_singleton.mp member
        exact congrArg some (defect_of_build_error failed).1.symm

/-- What a site leaves lies at the site or inside it. -/
theorem Site.place_of_mem_record {site : Site} {entry : Place × Failure}
    (member : entry ∈ site.record) : site.place <+: entry.1 := by
  rw [Site.record] at member
  split at member
  · obtain ⟨inner, _, rfl⟩ := List.mem_map.mp member
    exact List.prefix_append _ _
  · obtain rfl := List.mem_singleton.mp member
    exact List.prefix_rfl

theorem below_of_mem_record {element : Element} {entry : Place × Failure}
    (member : entry ∈ (reached element).flatMap Site.record) : entry.1 ≠ [] := by
  obtain ⟨site, reachedSite, member⟩ := List.mem_flatMap.mp member
  intro top
  have inside := site.place_of_mem_record member
  rw [top, List.prefix_nil] at inside
  exact (inside_of_mem_reached reachedSite).below inside

theorem nodup_flatMap_record {sites : List Site}
    (apart : sites.Pairwise fun first second => first.place.Apart second.place)
    (once : ∀ site ∈ sites, ∀ found, site.part = .element found →
      ((record found).map Prod.fst).Nodup) :
    ((sites.flatMap Site.record).map Prod.fst).Nodup := by
  rw [List.Nodup, List.pairwise_map, List.pairwise_flatMap]
  constructor
  · intro site member
    have inner := once site member
    obtain ⟨place, part⟩ := site
    cases part with
    | vacant holder => exact List.pairwise_singleton _ _
    | element found =>
      refine List.pairwise_map.mpr ((List.pairwise_map.mp (inner found rfl)).imp ?_)
      exact fun different same => different (List.append_cancel_left same)
  · refine apart.imp ?_
    intro first second apart entry member other otherMember same
    have inside := first.place_of_mem_record member
    rw [same] at inside
    rcases List.prefix_or_prefix_of_prefix inside (second.place_of_mem_record otherMember)
      with nested | nested
    · exact apart.1 nested
    · exact apart.2 nested

/-- No element fails twice. -/
theorem nodup_record (element : Element) : ((record element).map Prod.fst).Nodup := by
  induction element using sitesOf_induction with
  | step element once =>
    rw [record_eq, List.map_append, List.nodup_append]
    refine ⟨nodup_flatMap_record (apart_reached element) ?_, ?_, ?_⟩
    · exact fun site member => once site (mem_sitesOf_of_mem_reached member)
    · rw [ownFailure]
      split
      · exact .nil
      · exact List.pairwise_singleton _ _
    · intro place member top own
      obtain ⟨entry, entryMember, rfl⟩ := List.mem_map.mp member
      rw [ownFailure] at own
      split at own
      · cases own
      · obtain rfl := List.mem_singleton.mp own
        exact below_of_mem_record entryMember

end ScenarioTree.Build
