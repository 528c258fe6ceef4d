/-
This file shows that layout never matters. Two trees of the same shape may have any attributes and
any text between their tags: as long as the few elements whose text is read have the same text, they
are built to the same nodes, and what fails fails for the same causes.

Which text is read is a table. A literal or a variable is read as a text itself; of other elements
it is a child with a certain tag that is read as a text. Text gathers everything inside an element,
so a rule that read the text of an element with children would see how these are indented; the table
shows that none does, except where the text is what is asked for.

That two trees differ in layout alone is said place by place. It goes down to children and along
with the table, and so it goes along with building.
-/

import ScenarioTree.Proofs.Alike
import ScenarioTree.Proofs.Image

namespace ScenarioTree.Build

open ScenarioTree.Xml (Descends Element Path Place map_eq_of_forall₂ select_singleton)

/-! ### Texts that are read -/

/-- The tags of elements that are read as a text. -/
def textTags : List String :=
  ["stringliteral", "string", "numericliteral", "numeric", "booleanliteral", "boolean", "var"]

/-- The children that are read as a text, each by its tag behind that of the element around it. -/
def textChildren : List (String × String) :=
  [("field", "name"), ("operation", "operator"), ("call", "actionword"), ("tag", "key"),
    ("tag", "value"), ("parameter", "name"), ("actionword", "name"), ("scenario", "name"),
    ("scenario", "description"), ("project", "name"), ("project", "description")]

/-- The places in a tree at which a text may be read. -/
inductive BearsText (root : Element) : Place → Prop where
  | own {place : Place} {found : Element} (stands : root.at? place = some found)
      (listed : found.tag ∈ textTags) : BearsText root place
  | child {place : Place} {index : Nat} {holder found : Element}
      (around : root.at? place = some holder) (stands : root.at? (place ++ [index]) = some found)
      (listed : (holder.tag, found.tag) ∈ textChildren) : BearsText root (place ++ [index])

/-- Two trees that differ in layout alone: at every place there are elements with the same tag or
none, and where a text may be read it is the same. -/
structure SameButLayout (left right : Element) : Prop where
  shape : ∀ place, (left.at? place).map Element.tag = (right.at? place).map Element.tag
  texts : ∀ place, BearsText left place →
    (left.at? place).map Element.content = (right.at? place).map Element.content

/-! ### Layout from level to level -/

theorem forall₂_iff_getElem? {α : Type} {like : α → α → Prop} {lefts rights : List α} :
    List.Forall₂ like lefts rights ↔ ∀ index : Nat, Option.Rel like lefts[index]? rights[index]? := by
  constructor
  · intro related
    induction related with
    | nil => exact fun index => .none
    | cons first _ induction =>
      intro index
      cases index with
      | zero => exact .some first
      | succ index => exact induction index
  · intro each
    induction lefts generalizing rights with
    | nil =>
      cases rights with
      | nil => exact .nil
      | cons other rights => cases each 0
    | cons value lefts induction =>
      cases rights with
      | nil => cases each 0
      | cons other rights =>
        obtain ⟨first⟩ : Option.Rel like (some value) (some other) := each 0
        exact .cons first (induction fun index => each (index + 1))

theorem at?_child {root child : Element} {index : Nat}
    (position : root.children[index]? = some child) (place : Place) :
    root.at? (index :: place) = child.at? place := by
  rw [Element.at?, position, Option.bind_some]

theorem BearsText.inChild {root child : Element} {index : Nat} {place : Place}
    (position : root.children[index]? = some child) (bears : BearsText child place) :
    BearsText root (index :: place) := by
  cases bears with
  | own stands listed => exact .own ((at?_child position _).trans stands) listed
  | @child outer last holder found around stands listed =>
    exact @BearsText.child root (index :: outer) last holder found
      ((at?_child position _).trans around) ((at?_child position _).trans stands) listed

/-- A place below a child bears text as a place of the child, or the child itself is read by the
element around it. -/
theorem BearsText.cases_cons {root child : Element} {index : Nat} {place : Place}
    (position : root.children[index]? = some child) (bears : BearsText root (index :: place)) :
    BearsText child place ∨ place = [] ∧ (root.tag, child.tag) ∈ textChildren := by
  generalize whole : index :: place = path at bears
  cases bears with
  | own stands listed =>
    subst whole
    exact .inl (.own ((at?_child position place).symm.trans stands) listed)
  | @child outer last holder found around stands listed =>
    cases outer with
    | nil =>
      obtain ⟨rfl, rfl⟩ := List.cons_eq_cons.mp whole
      obtain rfl : root = holder := Option.some.inj around
      obtain rfl : child = found := Option.some.inj ((at?_child position []).symm.trans stands)
      exact .inr ⟨rfl, listed⟩
    | cons first outer =>
      obtain ⟨rfl, rfl⟩ := List.cons_eq_cons.mp whole
      exact .inl (.child ((at?_child position _).symm.trans around)
        ((at?_child position _).symm.trans stands) listed)

/-- What the children of two trees must have in common for the trees to differ in layout alone. -/
def ChildrenSameButLayout (left right : Element) : Prop :=
  List.Forall₂
    (fun child other => SameButLayout child other ∧
      ((left.tag, child.tag) ∈ textChildren → child.content = other.content))
    left.children right.children

theorem SameButLayout.children {left right : Element} (same : SameButLayout left right) :
    ChildrenSameButLayout left right := by
  refine forall₂_iff_getElem?.mpr fun index => ?_
  have shape := same.shape [index]
  cases position : left.children[index]? with
  | none =>
    cases partner : right.children[index]? with
    | none => exact .none
    | some other => simp [Element.at?, position, partner] at shape
  | some child =>
    cases partner : right.children[index]? with
    | none => simp [Element.at?, position, partner] at shape
    | some other =>
      refine .some ⟨⟨fun place => ?_, fun place bears => ?_⟩, fun listed => ?_⟩
      · rw [← at?_child position, ← at?_child partner]
        exact same.shape (index :: place)
      · rw [← at?_child position, ← at?_child partner]
        exact same.texts (index :: place) (bears.inChild position)
      · have bears : BearsText left ([] ++ [index]) := .child rfl (at?_child position []) listed
        have texts := same.texts [index] bears
        rw [at?_child position, at?_child partner] at texts
        exact Option.some.inj texts

/-- Whether two trees differ in layout alone is decided from level to level. -/
theorem sameButLayout_iff {left right : Element} :
    SameButLayout left right ↔
      left.tag = right.tag ∧ (left.tag ∈ textTags → left.content = right.content) ∧
        ChildrenSameButLayout left right := by
  constructor
  · intro same
    refine ⟨Option.some.inj (same.shape []), fun listed => ?_, same.children⟩
    exact Option.some.inj (same.texts [] (.own rfl listed))
  · rintro ⟨tag, own, children⟩
    have pairs := forall₂_iff_getElem?.mp children
    refine ⟨fun place => ?_, fun place bears => ?_⟩
    · cases place with
      | nil => exact congrArg some tag
      | cons index place =>
        have pair := pairs index
        rw [Element.at?, Element.at?]
        generalize left.children[index]? = child, right.children[index]? = other at pair
        cases pair with
        | none => rfl
        | some alike => exact alike.1.shape place
    · cases place with
      | nil =>
        generalize top : ([] : Place) = path at bears
        cases bears with
        | own stands listed =>
          subst top
          obtain rfl := Option.some.inj stands
          exact congrArg some (own listed)
        | child => exact absurd top.symm (by simp)
      | cons index place =>
        have pair := pairs index
        cases position : left.children[index]? with
        | none =>
          cases partner : right.children[index]? with
          | none => rw [Element.at?, Element.at?, position, partner]
          | some other => rw [position, partner] at pair; cases pair
        | some child =>
          cases partner : right.children[index]? with
          | none => rw [position, partner] at pair; cases pair
          | some other =>
            rw [position, partner] at pair
            obtain ⟨same, read⟩ := pair
            rw [at?_child position, at?_child partner]
            rcases bears.cases_cons position with bears | ⟨rfl, listed⟩
            · exact same.texts place bears
            · exact congrArg some (read listed)

/-! ### Layout is not read -/

theorem mem_tags_of_ofTag? {tag : String} {kind : Kind} (announced : Kind.ofTag? tag = some kind) :
    (tag, kind) ∈ Kind.tags := by
  obtain ⟨before, behind, split, _⟩ := List.lookup_eq_some_iff.mp announced
  rw [split]
  simp

/-- The table has every element that is read as a text. -/
theorem mem_textTags {tag : String} {kind : Kind} (announced : Kind.ofTag? tag = some kind)
    (reads : kind.ReadsContent) : tag ∈ textTags := by
  have listed : ∀ entry ∈ Kind.tags, entry.2.ReadsContent → entry.1 ∈ textTags := by decide
  exact listed _ (mem_tags_of_ofTag? announced) reads

/-- The table has every child that is read as a text. -/
theorem exists_mem_textChildren {tag : String} {kind : Kind} {path : Path}
    (announced : Kind.ofTag? tag = some kind) (reads : path ∈ kind.textPaths) :
    ∃ name, path = [name] ∧ (tag, name) ∈ textChildren := by
  have listed : ∀ entry ∈ Kind.tags, ∀ path ∈ entry.2.textPaths,
      ∃ pair ∈ textChildren, pair.1 = entry.1 ∧ path = [pair.2] := by decide
  obtain ⟨⟨holder, name⟩, member, rfl, same⟩ :=
    listed _ (mem_tags_of_ofTag? announced) path reads
  exact ⟨name, same, member⟩

theorem descends_sameButLayout : Descends SameButLayout :=
  ⟨fun same => Option.some.inj (same.shape []), fun same => same.children.imp fun _ _ => And.left⟩

/-- The first child with a tag has the same text, where the table has it. -/
theorem SameButLayout.textOfChild {left right : Element} (same : SameButLayout left right)
    {name : String} (listed : (left.tag, name) ∈ textChildren) :
    (left.selectFirst? [name]).map Element.content =
      (right.selectFirst? [name]).map Element.content := by
  have proper : name ≠ "*" := by
    have named : ∀ pair ∈ textChildren, pair.2 ≠ "*" := by decide
    exact named _ listed
  have answers (child other : Element)
      (related : SameButLayout child other ∧
        ((left.tag, child.tag) ∈ textChildren → child.content = other.content)) :
      child.answers name ↔ other.answers name := by
    rw [Element.answers, Element.answers, descends_sameButLayout.tag related.1]
  have related := List.rel_filter answers same.children
  have named : ∀ child ∈ left.children.filter (·.answers name), child.tag = name := by
    intro child member
    simpa [Element.answers, proper] using (List.mem_filter.mp member).2
  have texts : (left.select [name]).map Element.content =
      (right.select [name]).map Element.content := by
    rw [select_singleton, select_singleton]
    refine map_eq_of_forall₂ ((List.forall₂_and_left _ _).mpr ⟨named, related⟩) ?_
    rintro child other ⟨tagged, _, read⟩
    exact read (tagged ▸ listed)
  rw [Element.selectFirst?, Element.selectFirst?, ← List.head?_map, ← List.head?_map, texts]

/-- That two trees differ in layout alone goes along with everything that building reads. -/
theorem carries_sameButLayout : Carries SameButLayout where
  toDescends := descends_sameButLayout
  content same announced reads :=
    (sameButLayout_iff.mp same).2.1 (mem_textTags announced reads)
  texts same announced path reads := by
    obtain ⟨name, rfl, listed⟩ := exists_mem_textChildren announced reads
    exact same.textOfChild listed
  projectTexts same named path reads := by
    simp only [projectTextPaths, List.mem_cons, List.not_mem_nil, or_false] at reads
    rcases reads with rfl | rfl
    all_goals exact same.textOfChild (named ▸ by decide)

/-- Layout and attributes do not matter. Two trees that differ in them alone are built to the same
node or both fail, in any two sessions, and their failures correspond one by one, with the same
cause, on elements that differ in layout alone; and so it is with the projects that are put
together from them. -/
theorem layout_irrelevant {left right : Element} (same : SameButLayout left right) :
    BuiltAlike SameButLayout left right ∧ AssembledAlike SameButLayout left right :=
  ⟨carries_sameButLayout.builtAlike same, carries_sameButLayout.assembledAlike same⟩

/-- An access to a member whose base cannot be built, without any layout. -/
def compactField : Element :=
  .branch "field" [.branch "base" [.leaf "other" ""], .leaf "name" "n"]

/-- The same access with every tag on a line of its own, and an attribute. -/
def indentedField : Element :=
  ⟨⟨"", "field"⟩, [⟨⟨"", "id"⟩, "1"⟩], .ofText "\n  ",
    [⟨⟨"", "base"⟩, [], .ofText "\n    ", [⟨⟨"", "other"⟩, [], .empty, [], .ofText "\n  "⟩],
        .ofText "\n  "⟩,
      ⟨⟨"", "name"⟩, [], .ofText "n", [], .ofText "\n"⟩],
    .ofText "\n"⟩

theorem sameButLayout_indented : SameButLayout compactField indentedField := by
  refine sameButLayout_iff.mpr ⟨rfl, fun listed => absurd listed (by decide), .cons ⟨?_, ?_⟩
    (.cons ⟨?_, fun _ => ?_⟩ .nil)⟩
  · refine sameButLayout_iff.mpr ⟨rfl, fun listed => absurd listed (by decide),
      .cons ⟨?_, fun listed => absurd listed (by decide)⟩ .nil⟩
    exact sameButLayout_iff.mpr ⟨rfl, fun listed => absurd listed (by decide), .nil⟩
  · exact fun listed => absurd listed (by decide)
  · exact sameButLayout_iff.mpr ⟨rfl, fun listed => absurd listed (by decide), .nil⟩
  · rfl

theorem layout_irrelevant_indented :
    BuiltAlike SameButLayout compactField indentedField ∧
      ((Session.start indentedField true none).build indentedField).1 = .ok (.field none "n") ∧
      (((Session.start indentedField true none).build indentedField).2.failures.map Failure.detail) =
        ["No construction rule for <other>"] :=
  ⟨(layout_irrelevant sameButLayout_indented).1, rfl, rfl⟩

end ScenarioTree.Build
