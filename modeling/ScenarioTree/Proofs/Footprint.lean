/-
This file says what a construction rule reads. It reads the tag of its element, and for a literal or
a variable the text; it follows a few paths to a text, and a few others to the parts that are built.
Two elements that agree on this much have the same plan, up to the parts: the parts correspond one
to one, what is made of them is the same, and so is the cause if nothing can be made
(`plan_alike`).

How far the parts correspond is left open. All that is asked of the relation between them is that it
goes along with tags and down to children, since a rule looks at the tag of a wrapper and into it.
-/

import ScenarioTree.Proofs.Outcome
import Mathlib.Data.List.Forall2

namespace ScenarioTree

open ScenarioTree.Xml (Element Path)

/-! ### Relations that go down -/

namespace Xml

/-- A relation between elements that goes along with tags and down to children. -/
structure Descends (like : Element → Element → Prop) : Prop where
  tag {left right : Element} (related : like left right) : left.tag = right.tag
  children {left right : Element} (related : like left right) :
    List.Forall₂ like left.children right.children

theorem descends_eq : Descends Eq := by
  refine ⟨congrArg Element.tag, ?_⟩
  rintro left _ rfl
  exact List.forall₂_same.mpr fun _ _ => rfl

/-- A path of one step leads to the children that answer it. -/
theorem select_singleton (element : Element) (step : String) :
    element.select [step] = element.children.filter (·.answers step) := by
  simp [Element.select]

/-- The children of an element that have a tag, in order. -/
def childrenTagged (element : Element) (tag : String) : List Element :=
  element.children.filter (·.tag == tag)

/-- A path that begins with a tag leads through the children with that tag. -/
theorem select_cons (element : Element) {tag : String} (proper : tag ≠ "*") (path : Path) :
    element.select (tag :: path) =
      (childrenTagged element tag).flatMap fun child => child.select path := by
  have answers (child : Element) : child.answers tag = (child.tag == tag) := by
    simp [Element.answers, proper]
  rw [Element.select, childrenTagged]
  simp only [answers]

theorem select_tag (element : Element) {tag : String} (proper : tag ≠ "*") :
    element.select [tag] = childrenTagged element tag := by
  rw [select_cons element proper]
  simp only [Element.select, List.flatMap_singleton']

theorem selectFirst?_tag (element : Element) {tag : String} (proper : tag ≠ "*") :
    element.selectFirst? [tag] = (childrenTagged element tag).head? := by
  rw [Element.selectFirst?, select_tag element proper]

/-- What is the same of any two values that correspond is the same all along. -/
theorem map_eq_of_forall₂ {α β : Type} {like : α → α → Prop} {change : α → β} {lefts rights : List α}
    (related : List.Forall₂ like lefts rights)
    (each : ∀ left right, like left right → change left = change right) :
    lefts.map change = rights.map change := by
  rw [← List.forall₂_eq_eq_eq]
  exact List.rel_map each related

theorem rel_head? {α : Type} {like : α → α → Prop} {lefts rights : List α}
    (related : List.Forall₂ like lefts rights) : Option.Rel like lefts.head? rights.head? := by
  cases related with
  | nil => exact .none
  | cons first _ => exact .some first

theorem rel_of_map_eq {α β : Type} {change : α → β} {first second : Option α}
    (same : first.map change = second.map change) :
    Option.Rel (fun value other => change value = change other) first second := by
  cases first with
  | none =>
    cases second with
    | none => exact .none
    | some other => cases same
  | some value =>
    cases second with
    | none => cases same
    | some other => exact .some (Option.some.inj same)

theorem rel_findSome? {like : Element → Element → Prop} {lefts rights : List Element}
    {find : Element → Option Element} (related : List.Forall₂ like lefts rights)
    (each : ∀ child ∈ lefts, ∀ other, like child other →
      Option.Rel like (find child) (find other)) :
    Option.Rel like (lefts.findSome? find) (rights.findSome? find) := by
  induction related with
  | nil => exact .none
  | @cons child other lefts rights first _ induction =>
    have heads := each child List.mem_cons_self other first
    have tails := induction fun next member => each next (List.mem_cons_of_mem _ member)
    rw [List.findSome?_cons, List.findSome?_cons]
    generalize find child = found, find other = partner at heads
    cases heads with
    | none => exact tails
    | some related => exact .some related

namespace Descends

variable {like : Element → Element → Prop} {left right : Element}

/-- The matches of a path correspond one to one. -/
theorem select (descends : Descends like) (related : like left right) (path : Path) :
    List.Forall₂ like (left.select path) (right.select path) := by
  induction path generalizing left right with
  | nil => exact .cons related .nil
  | cons step path induction =>
    have answers (child other : Element) (related : like child other) :
        child.answers step ↔ other.answers step := by
      rw [Element.answers, Element.answers, descends.tag related]
    exact List.rel_flatMap (List.rel_filter answers (descends.children related))
      fun _ _ related => induction related

theorem selectFirst? (descends : Descends like) (related : like left right) (path : Path) :
    Option.Rel like (left.selectFirst? path) (right.selectFirst? path) :=
  rel_head? (descends.select related path)

theorem firstChild? (descends : Descends like) (related : like left right) :
    Option.Rel like left.firstChild? right.firstChild? :=
  rel_head? (descends.children related)

/-- The first elements with a tag are alike. -/
theorem find? (descends : Descends like) (related : like left right) (tag : String) :
    Option.Rel like (left.find? tag) (right.find? tag) := by
  induction left using Element.induction generalizing right with
  | step left below =>
    rw [Element.find?_eq, Element.find?_eq, descends.tag related]
    split
    · exact .some related
    · exact rel_findSome? (descends.children related) fun child member _ related =>
        below child member related

end Descends

end Xml

namespace Build

open ScenarioTree.Xml (Descends map_eq_of_forall₂ rel_head? rel_of_map_eq)

/-! ### Plans that are alike -/

/-- Parts that are alike: two elements that are, or two empty wrappers that are. -/
inductive Part.Alike (like : Element → Element → Prop) : Part → Part → Prop where
  | element {left right : Element} (related : like left right) :
      Alike like (.element left) (.element right)
  | vacant {left right : Element} (related : like left right) :
      Alike like (.vacant left) (.vacant right)

/-- Plans that are alike: their parts are, one by one, and they make the same of them. -/
structure Plan.Alike {α : Type} (like : Element → Element → Prop) (left right : Plan α) : Prop where
  parts : List.Forall₂ (Part.Alike like) left.parts right.parts
  result : left.result = right.result

section

variable {α β : Type} {like : Element → Element → Prop}

theorem Part.Alike.within (descends : Descends like) {left right : Element}
    (related : like left right) : Part.Alike like (Part.within left) (Part.within right) := by
  have firsts := descends.firstChild? related
  rw [Part.within, Part.within]
  generalize left.firstChild? = first, right.firstChild? = other at firsts
  cases firsts with
  | none => exact .vacant related
  | some first => exact .element first

/-- Parts that are alike in that they are equal are the same parts. -/
theorem Part.Alike.eq {left right : Part} (alike : Part.Alike Eq left right) : left = right := by
  cases alike with
  | element same => rw [same]
  | vacant same => rw [same]

namespace Plan.Alike

theorem eq {left right : Plan α} (alike : Plan.Alike Eq left right) : left = right := by
  obtain ⟨parts, result⟩ := left
  obtain ⟨others, outcome⟩ := right
  obtain ⟨alike, rfl : result = outcome⟩ := alike
  have same : parts = others := by
    rw [← List.forall₂_eq_eq_eq]
    exact alike.imp fun _ _ => Part.Alike.eq
  rw [same]

theorem refl_of_nil {plan : Plan α} (none : plan.parts = []) : Plan.Alike like plan plan :=
  ⟨by rw [none]; exact .nil, rfl⟩

theorem slot {left right : Part} (parts : Part.Alike like left right) :
    Plan.Alike like (Plan.slot left) (Plan.slot right) :=
  ⟨.cons parts .nil, rfl⟩

theorem slots {lefts rights : List Part} (parts : List.Forall₂ (Part.Alike like) lefts rights) :
    Plan.Alike like (Plan.slots lefts) (Plan.slots rights) :=
  ⟨parts, rfl⟩

theorem map {left right : Plan α} (alike : Plan.Alike like left right) (change : α → β) :
    Plan.Alike like (change <$> left) (change <$> right) :=
  ⟨alike.parts, congrArg (Except.map (change ∘ ·)) alike.result⟩

theorem seq {first other : Plan (α → β)} {second last : Plan α}
    (firsts : Plan.Alike like first other) (seconds : Plan.Alike like second last) :
    Plan.Alike like (first <*> second) (other <*> last) := by
  obtain ⟨parts, result⟩ := first
  obtain ⟨others, outcome⟩ := other
  obtain ⟨partsAlike, rfl : result = outcome⟩ := firsts
  cases result with
  | error cause => exact ⟨partsAlike, rfl⟩
  | ok change =>
    refine ⟨List.rel_append partsAlike seconds.parts, ?_⟩
    -- the slots are divided where the parts of the first plan end
    have count : parts.length = others.length := partsAlike.length_eq
    show second.result.map _ = last.result.map _
    rw [seconds.result, count]

end Plan.Alike

end

/-! ### What rules ask for -/

section

variable {like : Element → Element → Prop} {left right : Element} {path : Path}

theorem textAt_alike (tag : left.tag = right.tag)
    (texts : (left.selectFirst? path).map Element.content =
      (right.selectFirst? path).map Element.content) :
    Plan.Alike like (textAt left path) (textAt right path) := by
  have firsts := rel_of_map_eq texts
  rw [textAt, textAt, tag]
  generalize left.selectFirst? path = first, right.selectFirst? path = other at firsts
  cases firsts with
  | none => exact .refl_of_nil rfl
  | some same =>
    show Plan.Alike like (.done _) (.done _)
    rw [same]
    exact .refl_of_nil rfl

theorem slotAt_alike (tag : left.tag = right.tag)
    (parts : List.Forall₂ like (left.select path) (right.select path)) :
    Plan.Alike like (slotAt left path) (slotAt right path) := by
  have firsts : Option.Rel like (left.selectFirst? path) (right.selectFirst? path) :=
    rel_head? parts
  rw [slotAt, slotAt, tag]
  generalize left.selectFirst? path = first, right.selectFirst? path = other at firsts
  cases firsts with
  | none => exact .refl_of_nil rfl
  | some related => exact .slot (.element related)

theorem slotsAt_alike (parts : List.Forall₂ like (left.select path) (right.select path)) :
    Plan.Alike like (slotsAt left path) (slotsAt right path) :=
  .slots (List.rel_map (fun _ _ related => .element related) parts)

theorem entriesAt_alike (descends : Descends like)
    (parts : List.Forall₂ like (left.select path) (right.select path))
    (make : String → Slot → Node) :
    Plan.Alike like (entriesAt left path make) (entriesAt right path make) := by
  have within := List.rel_map (fun _ _ related => Part.Alike.within descends related) parts
  have tags := map_eq_of_forall₂ parts fun _ _ related => descends.tag related
  -- entries are named by the tags of their wrappers, which correspond
  have named (wrappers : List Element) :
      List.zipWith (fun wrapper value => some (make wrapper.tag value)) wrappers =
        List.zipWith (fun tag value => some (make tag value)) (wrappers.map Element.tag) := by
    funext values
    rw [List.zipWith_map_left]
  refine ⟨within, ?_⟩
  show Except.ok _ = Except.ok _
  rw [named, named, tags]

end

/-! ### What each rule reads -/

namespace Kind

/-- Whether the rule of a kind reads the text of its element. -/
def ReadsContent (kind : Kind) : Prop :=
  kind ∈ [Kind.string, .number, .boolean, .var]

instance (kind : Kind) : Decidable kind.ReadsContent :=
  inferInstanceAs (Decidable (_ ∈ _))

/-- The paths that the rule of a kind follows to a text. -/
def textPaths : Kind → List Path
  | .field | .parameter | .actionword => [["name"]]
  | .operation => [["operator"]]
  | .call => [["actionword"]]
  | .tag => [["key"], ["value"]]
  | .scenario => [["name"], ["description"]]
  | _ => []

/-- The paths that the rule of a kind follows to its parts. -/
def partPaths : Kind → List Path
  | .field => [["base", "*"]]
  | .index => [["base", "*"], ["expression", "*"]]
  | .operation => [["left", "*"], ["right", "*"], ["expression", "*"]]
  | .parenthesis | .dict | .template | .step => [["*"]]
  | .list => [["item"]]
  | .assign => [["to", "*"], ["value", "*"]]
  | .call => [["arguments", "*"]]
  | .conditional => [["condition", "*"], ["then", "*"], ["else", "*"]]
  | .loop => [["condition", "*"], ["body", "*"]]
  | .parameter => [["default_value"]]
  | .actionword | .scenario => [["tags", "tag"], ["parameters", "parameter"], ["steps", "*"]]
  | .actionwords => [["actionword"]]
  | .scenarios => [["scenario"]]
  | .null | .string | .number | .boolean | .var | .tag => []

/-- Two elements agree on what the rule of a kind reads. Of an operation it also matters whether it
has a left side, even one that holds nothing. -/
structure Agree (kind : Kind) (like : Element → Element → Prop) (left right : Element) : Prop where
  tag : left.tag = right.tag
  content : kind.ReadsContent → left.content = right.content
  texts : ∀ path ∈ kind.textPaths,
    (left.selectFirst? path).map Element.content = (right.selectFirst? path).map Element.content
  parts : ∀ path ∈ kind.partPaths, List.Forall₂ like (left.select path) (right.select path)
  sided : kind = .operation →
    (left.selectFirst? ["left"]).isSome = (right.selectFirst? ["left"]).isSome

variable {like : Element → Element → Prop} {left right : Element}

theorem plan_of_content {kind : Kind} (reads : kind.ReadsContent)
    (content : left.content = right.content) : kind.plan left = kind.plan right := by
  simp only [ReadsContent, List.mem_cons, List.not_mem_nil, or_false] at reads
  rcases reads with rfl | rfl | rfl | rfl
  all_goals
    simp only [plan, planVar, Literal.string, Literal.number, Literal.boolean, TextSource.content,
      content]

/-- A rule that reads the text of its element asks for no parts. -/
theorem parts_of_readsContent {kind : Kind} (reads : kind.ReadsContent) (element : Element) :
    (kind.plan element).parts = [] := by
  have none : (kind.sites element).map Site.part = [] := by
    simp only [ReadsContent, List.mem_cons, List.not_mem_nil, or_false] at reads
    rcases reads with rfl | rfl | rfl | rfl
    all_goals rfl
  exact List.prefix_nil.mp (none ▸ (kind.asks_sites element).1)

/-- The rule of a step looks at its first child and may look into it. -/
theorem planStep_alike (descends : Descends like)
    (parts : List.Forall₂ like (left.select ["*"]) (right.select ["*"])) :
    Plan.Alike like (planStep left) (planStep right) := by
  have firsts : Option.Rel like left.firstChild? right.firstChild? := by
    rw [select_star, select_star] at parts
    exact rel_head? parts
  rw [planStep, planStep]
  generalize left.firstChild? = first, right.firstChild? = other at firsts
  cases firsts with
  | none => exact .refl_of_nil rfl
  | @some payload role related =>
    have tag := descends.tag related
    show Plan.Alike like (if (ofTag? payload.tag).isSome then _ else _)
      (if (ofTag? role.tag).isSome then _ else _)
    rw [tag]
    split
    · exact (Plan.Alike.slot (.element related)).map _
    · exact (slotAt_alike tag (descends.select related ["*"])).map _

/-- A rule reads nothing else: where two elements agree on this much, their plans are alike. -/
theorem plan_alike (descends : Descends like) {kind : Kind} (agree : kind.Agree like left right) :
    Plan.Alike like (kind.plan left) (kind.plan right) := by
  have text (path : Path) (member : path ∈ kind.textPaths) :
      Plan.Alike like (textAt left path) (textAt right path) :=
    textAt_alike agree.tag (agree.texts path member)
  have slot (path : Path) (member : path ∈ kind.partPaths) :
      Plan.Alike like (slotAt left path) (slotAt right path) :=
    slotAt_alike agree.tag (agree.parts path member)
  have slots (path : Path) (member : path ∈ kind.partPaths) :
      Plan.Alike like (slotsAt left path) (slotsAt right path) :=
    slotsAt_alike (agree.parts path member)
  cases kind with
  | null => exact .refl_of_nil rfl
  | string | number | boolean | var =>
    rw [plan_of_content (by decide) (agree.content (by decide))]
    exact .refl_of_nil (parts_of_readsContent (by decide) right)
  | field => exact ((slot ["base", "*"] (by decide)).map _).seq (text ["name"] (by decide))
  | index =>
    exact ((slot ["base", "*"] (by decide)).map _).seq (slot ["expression", "*"] (by decide))
  | operation =>
    have operator := text ["operator"] (by decide)
    rw [plan, plan, planOperation, planOperation, agree.sided rfl]
    split
    · exact ((operator.map _).seq (slot ["left", "*"] (by decide))).seq
        (slot ["right", "*"] (by decide))
    · exact (operator.map _).seq (slot ["expression", "*"] (by decide))
  | parenthesis => exact (slot ["*"] (by decide)).map _
  | list =>
    have items := agree.parts ["item"] (by decide)
    exact (Plan.Alike.slots
      (List.rel_map (fun _ _ related => Part.Alike.within descends related) items)).map _
  | dict => exact (entriesAt_alike descends (agree.parts ["*"] (by decide)) _).map _
  | template => exact (slots ["*"] (by decide)).map _
  | assign => exact ((slot ["to", "*"] (by decide)).map _).seq (slot ["value", "*"] (by decide))
  | call =>
    have arguments := agree.parts ["arguments", "*"] (by decide)
    exact ((entriesAt_alike descends arguments _).map _).seq (text ["actionword"] (by decide))
  | conditional =>
    exact (((slot ["condition", "*"] (by decide)).map _).seq
      (slots ["then", "*"] (by decide))).seq (slots ["else", "*"] (by decide))
  | loop =>
    exact ((slot ["condition", "*"] (by decide)).map _).seq (slots ["body", "*"] (by decide))
  | step => exact planStep_alike descends (agree.parts ["*"] (by decide))
  | tag =>
    rw [plan, plan, planTag, planTag, agree.texts ["value"] (by decide)]
    exact (text ["key"] (by decide)).map _
  | parameter =>
    have firsts : Option.Rel like (left.selectFirst? ["default_value"])
        (right.selectFirst? ["default_value"]) :=
      rel_head? (agree.parts ["default_value"] (by decide))
    have name := text ["name"] (by decide)
    rw [plan, plan, planParameter, planParameter]
    generalize left.selectFirst? ["default_value"] = first,
      right.selectFirst? ["default_value"] = other at firsts
    cases firsts with
    | none => exact name.map _
    | some related => exact (name.map _).seq (.slot (.within descends related))
  | actionword =>
    exact ((((text ["name"] (by decide)).map _).seq (slots ["tags", "tag"] (by decide))).seq
      (slots ["parameters", "parameter"] (by decide))).seq (slots ["steps", "*"] (by decide))
  | scenario =>
    rw [plan, plan, planScenario, planScenario, agree.texts ["description"] (by decide)]
    exact ((((text ["name"] (by decide)).map _).seq (slots ["tags", "tag"] (by decide))).seq
      (slots ["parameters", "parameter"] (by decide))).seq (slots ["steps", "*"] (by decide))
  | actionwords => exact (slots ["actionword"] (by decide)).map _
  | scenarios => exact (slots ["scenario"] (by decide)).map _

end Kind

end Build

end ScenarioTree
