/-
This file tells elements apart that look the same. An element that occurs twice in a document is one
value but two elements, and what became of the one need not have become of the other; so wherever it
matters which element is meant, it is given by its place, the way to it from above.

The matches of a path are listed with their places: each of them once, in document order, and at
the place that is given. Places of equally long ways are apart, so no match lies inside another.
Document order is the order of places as lists, so the first element with a tag is the one at the
least place.
-/

import ScenarioTree.Xml.Query

namespace ScenarioTree.Xml

/-! ### Places -/

/-- The way from an element to one in it: which child to take, level by level. -/
abbrev Place := List Nat

/-- Two places are apart when neither lies inside the other. -/
def Place.Apart (first second : Place) : Prop :=
  ¬ first <+: second ∧ ¬ second <+: first

theorem Place.Apart.symm {first second : Place} (apart : first.Apart second) :
    second.Apart first :=
  ⟨apart.2, apart.1⟩

/-- Two places that begin with different children are apart. -/
theorem Place.apart_of_head_ne {first second : Nat} (different : first ≠ second)
    (rest others : Place) : Place.Apart (first :: rest) (second :: others) := by
  constructor
  · intro inside
    exact different (List.cons_prefix_cons.mp inside).1
  · intro inside
    exact different (List.cons_prefix_cons.mp inside).1.symm

/-- What lies inside places that are apart is apart. -/
theorem Place.Apart.extend {first second : Place} (apart : first.Apart second)
    (rest others : Place) : Place.Apart (first ++ rest) (second ++ others) := by
  constructor
  · intro inside
    rcases List.prefix_or_prefix_of_prefix ((List.prefix_append first rest).trans inside)
      (List.prefix_append second others) with nested | nested
    · exact apart.1 nested
    · exact apart.2 nested
  · intro inside
    rcases List.prefix_or_prefix_of_prefix ((List.prefix_append second others).trans inside)
      (List.prefix_append first rest) with nested | nested
    · exact apart.2 nested
    · exact apart.1 nested

/-- Two places of one depth are apart when the one comes before the other. -/
theorem Place.apart_of_lt {first second : Place} (earlier : first < second)
    (level : first.length = second.length) : first.Apart second := by
  constructor
  · intro inside
    exact List.lt_irrefl second (inside.eq_of_length level ▸ earlier)
  · intro inside
    exact List.lt_irrefl second (inside.eq_of_length level.symm ▸ earlier)

namespace Element

/-- The element at a place. -/
def at? (element : Element) : Place → Option Element
  | [] => some element
  | index :: place => element.children[index]?.bind fun child => child.at? place

theorem at?_append (element : Element) (place inner : Place) :
    element.at? (place ++ inner) = (element.at? place).bind fun found => found.at? inner := by
  induction place generalizing element with
  | nil => rfl
  | cons index place induction =>
    rw [List.cons_append, at?, at?, Option.bind_assoc]
    exact congrArg _ (funext induction)

/-! ### Matches with their places -/

/-- The elements that a path leads to, each with its place. -/
def placed (element : Element) : Path → List (Place × Element)
  | [] => [([], element)]
  | step :: path =>
    element.children.zipIdx.flatMap fun entry =>
      if entry.1.answers step then
        (entry.1.placed path).map fun found => (entry.2 :: found.1, found.2)
      else []

/-- A match of a longer path is a match below a child. -/
theorem mem_placed_cons {element found : Element} {step : String} {path : Path} {place : Place} :
    (place, found) ∈ element.placed (step :: path) ↔
      ∃ index child rest, place = index :: rest ∧ element.children[index]? = some child ∧
        child.answers step = true ∧ (rest, found) ∈ child.placed path := by
  simp only [placed, List.mem_flatMap, Prod.exists, List.mem_zipIdx_iff_getElem?]
  constructor
  · rintro ⟨child, index, position, member⟩
    split at member
    · next answers =>
      obtain ⟨⟨rest, other⟩, below, equal⟩ := List.mem_map.mp member
      cases equal
      exact ⟨index, child, rest, rfl, position, answers, below⟩
    · cases member
  · rintro ⟨index, child, rest, rfl, position, answers, member⟩
    refine ⟨child, index, position, ?_⟩
    rw [if_pos answers]
    exact List.mem_map.mpr ⟨(rest, found), member, rfl⟩

/-- Without their places the matches are those that are selected. -/
theorem map_snd_placed (element : Element) (path : Path) :
    (element.placed path).map Prod.snd = element.select path := by
  induction path generalizing element with
  | nil => rfl
  | cons step path induction =>
    have below (start : Nat) (children : List Element) :
        ((children.zipIdx start).flatMap fun entry =>
          if entry.1.answers step then
            (entry.1.placed path).map fun found => (entry.2 :: found.1, found.2)
          else []).map Prod.snd =
        (children.filter (·.answers step)).flatMap fun child => child.select path := by
      induction children generalizing start with
      | nil => rfl
      | cons child rest inner =>
        rw [List.zipIdx_cons, List.flatMap_cons, List.map_append, inner, List.filter_cons]
        split
        · rw [List.flatMap_cons, ← induction child, List.map_map]
          rfl
        · rfl
    exact below 0 element.children

/-- A match is found at its place. -/
theorem at?_of_mem_placed {element found : Element} {path : Path} {place : Place}
    (member : (place, found) ∈ element.placed path) : element.at? place = some found := by
  induction path generalizing element place with
  | nil =>
    cases List.mem_singleton.mp member
    rfl
  | cons step path induction =>
    obtain ⟨index, child, rest, rfl, position, _, below⟩ := mem_placed_cons.mp member
    rw [at?, position]
    exact induction below

/-- The place of a match is as deep as the path is long. -/
theorem length_of_mem_placed {element found : Element} {path : Path} {place : Place}
    (member : (place, found) ∈ element.placed path) : place.length = path.length := by
  induction path generalizing element place with
  | nil =>
    cases List.mem_singleton.mp member
    rfl
  | cons step path induction =>
    obtain ⟨index, child, rest, rfl, _, _, below⟩ := mem_placed_cons.mp member
    rw [List.length_cons, induction below, List.length_cons]

theorem pairwise_zipIdx {α : Type} (values : List α) (start : Nat) :
    (values.zipIdx start).Pairwise fun first second => first.2 < second.2 := by
  induction values generalizing start with
  | nil => exact .nil
  | cons value rest induction =>
    rw [List.zipIdx_cons]
    exact .cons (fun _ member => List.le_snd_of_mem_zipIdx member) (induction (start + 1))

/-- The matches come in document order, each of them once. -/
theorem pairwise_placed (element : Element) (path : Path) :
    (element.placed path).Pairwise fun first second => first.1 < second.1 := by
  induction path generalizing element with
  | nil => exact List.pairwise_singleton _ _
  | cons step path induction =>
    rw [placed, List.pairwise_flatMap]
    constructor
    · intro entry _
      split
      · refine List.pairwise_map.mpr ((induction entry.1).imp fun earlier => ?_)
        exact List.cons_lt_cons_iff.mpr (.inr ⟨rfl, earlier⟩)
      · exact .nil
    · refine (pairwise_zipIdx element.children 0).imp ?_
      intro entry other before first firstMember second secondMember
      split at firstMember
      · split at secondMember
        · obtain ⟨_, _, rfl⟩ := List.mem_map.mp firstMember
          obtain ⟨_, _, rfl⟩ := List.mem_map.mp secondMember
          exact List.cons_lt_cons_iff.mpr (.inl before)
        · cases secondMember
      · cases firstMember

/-- No match of a path lies inside another one. -/
theorem apart_placed (element : Element) (path : Path) :
    (element.placed path).Pairwise fun first second => first.1.Apart second.1 := by
  refine List.Pairwise.imp_of_mem ?_ (pairwise_placed element path)
  intro first second firstMember secondMember earlier
  refine Place.apart_of_lt earlier ?_
  rw [length_of_mem_placed firstMember, length_of_mem_placed secondMember]

/-! ### Heights -/

theorem height_le_of_mem {child : Element} {children : List Element}
    (member : child ∈ children) : child.height ≤ heightOfChildren children := by
  induction children with
  | nil => cases member
  | cons first rest induction =>
    rw [heightOfChildren]
    rcases List.mem_cons.mp member with rfl | below
    · exact Nat.le_max_left _ _
    · exact Nat.le_trans (induction below) (Nat.le_max_right _ _)

theorem height_lt_of_mem_children {element child : Element} (member : child ∈ element.children) :
    child.height < element.height := by
  obtain ⟨name, attributes, text, children, tail⟩ := element
  rw [height]
  exact Nat.lt_succ_of_le (height_le_of_mem member)

/-- Every step of a path leads down. -/
theorem height_of_mem_select {element found : Element} {path : Path}
    (member : found ∈ element.select path) : found.height + path.length ≤ element.height := by
  induction path generalizing element with
  | nil =>
    cases List.mem_singleton.mp member
    exact Nat.le_refl _
  | cons step path induction =>
    obtain ⟨child, childMember, below⟩ := List.mem_flatMap.mp member
    have lower := height_lt_of_mem_children (List.mem_filter.mp childMember).1
    have deeper := induction below
    rw [List.length_cons]
    omega

/-- What holds of an element as soon as it holds of its children holds of all elements. -/
@[elab_as_elim]
theorem induction {motive : Element → Prop}
    (step : ∀ element, (∀ child ∈ element.children, motive child) → motive element)
    (element : Element) : motive element := by
  induction depth : element.height using Nat.strongRecOn generalizing element with
  | ind depth lower =>
    refine step element fun child member => ?_
    exact lower _ (depth ▸ height_lt_of_mem_children member) child rfl

/-! ### The first element with a tag -/

/-- The first element with a tag, in document order: none with the tag stands before it. -/
structure First (root : Element) (tag : String) (found : Element) : Prop where
  tagged : found.tag = tag
  stands : ∃ place, root.at? place = some found ∧
    ∀ earlier < place, ∀ other, root.at? earlier = some other → other.tag ≠ tag

theorem findInChildren?_eq (tag : String) (children : List Element) :
    findInChildren? tag children = children.findSome? (find? tag) := by
  induction children with
  | nil => rfl
  | cons child rest induction =>
    rw [findInChildren?, induction, List.findSome?_cons]
    cases child.find? tag <;> rfl

theorem find?_eq (tag : String) (element : Element) :
    element.find? tag =
      if element.tag = tag then some element else element.children.findSome? (find? tag) := by
  obtain ⟨name, attributes, text, children, tail⟩ := element
  rw [find?, findInChildren?_eq]
  simp only [beq_iff_eq]
  rfl

/-- If nothing is found, nothing in the tree has the tag. -/
theorem tag_ne_of_find?_eq_none {tag : String} {element : Element}
    (absent : element.find? tag = none) (place : Place) {other : Element}
    (stands : element.at? place = some other) : other.tag ≠ tag := by
  induction element using Element.induction generalizing place with
  | step element below =>
    rw [find?_eq] at absent
    split at absent
    · cases absent
    · next different =>
      cases place with
      | nil =>
        cases stands
        exact different
      | cons index place =>
        obtain ⟨child, position, inside⟩ := Option.bind_eq_some_iff.mp stands
        have member := List.mem_of_getElem? position
        exact below child member (List.findSome?_eq_none_iff.mp absent child member) place inside

/-- What is found is the first element with the tag. -/
theorem first_of_find? {tag : String} {element found : Element}
    (search : element.find? tag = some found) : element.First tag found := by
  induction element using Element.induction with
  | step element below =>
    rw [find?_eq] at search
    split at search
    · next tagged =>
      cases search
      exact ⟨tagged, [], rfl, fun earlier before => absurd before (List.not_lt_nil earlier)⟩
    · next different =>
      obtain ⟨others, child, rest, children, inside, passed⟩ :=
        List.findSome?_eq_some_iff.mp search
      obtain ⟨tagged, place, stands, first⟩ := below child (by simp [children]) inside
      refine ⟨tagged, others.length :: place, by simpa [at?, children] using stands, ?_⟩
      intro earlier before other stands
      cases earlier with
      | nil =>
        cases stands
        exact different
      | cons index earlier =>
        obtain ⟨sibling, position, within⟩ := Option.bind_eq_some_iff.mp stands
        rcases List.cons_lt_cons_iff.mp before with sooner | ⟨rfl, sooner⟩
        · rw [children, List.getElem?_append_left sooner] at position
          exact tag_ne_of_find?_eq_none (passed sibling (List.mem_of_getElem? position)) earlier
            within
        · obtain rfl : child = sibling := by simpa [children] using position
          exact first earlier sooner other within

theorem First.unique {root first second : Element} {tag : String} (one : root.First tag first)
    (other : root.First tag second) : first = second := by
  obtain ⟨place, stands, before⟩ := one.stands
  obtain ⟨place', stands', before'⟩ := other.stands
  rcases Std.lt_trichotomy place place' with earlier | rfl | later
  · exact absurd one.tagged (before' place earlier first stands)
  · exact Option.some.inj (stands.symm.trans stands')
  · exact absurd other.tagged (before place' later second stands')

/-- Searching finds the first element with the tag, if there is any. -/
theorem find?_eq_some_iff {tag : String} {element found : Element} :
    element.find? tag = some found ↔ element.First tag found := by
  refine ⟨first_of_find?, fun first => ?_⟩
  cases search : element.find? tag with
  | none =>
    obtain ⟨place, stands, _⟩ := first.stands
    exact absurd first.tagged (tag_ne_of_find?_eq_none search place stands)
  | some other => rw [(first_of_find? search).unique first]

end Element

end ScenarioTree.Xml
