/-
This file shows that a record may be written in any order and in any number of pieces. Fourteen of
the rules follow only paths that begin with a tag of their own, so the order of children with
different tags, and children with other tags, are nothing to them. Most of the children that such
a rule finds are wrappers, of which it sees only what they hold; there it makes no difference either
whether one wrapper holds everything or several hold a piece each, empty ones among them.

What matters of an element is therefore, for each tag that its rule reads, the sequence of its
children with that tag, and for a wrapper the sequence of what these hold. Two elements that agree
on this have the same plan, so they are built to the same; if they fail, their own failures tell
them apart and nothing else does.
-/

import ScenarioTree.Proofs.Footprint
import ScenarioTree.Proofs.Image

namespace ScenarioTree.Build

open ScenarioTree.Xml (Element Path childrenTagged descends_eq select_cons select_singleton
  select_tag selectFirst?_tag)

/-! ### Records -/

/-- The kinds of elements whose children are told apart by their tags. -/
def recordKinds : List Kind :=
  [.field, .index, .operation, .list, .assign, .call, .conditional, .loop, .tag, .parameter,
    .actionword, .scenario, .actionwords, .scenarios]

/-- The tags of wrappers that every rule only looks into. -/
def wrapperTags : List String :=
  ["base", "expression", "left", "right", "to", "arguments", "condition", "then", "else", "body",
    "tags", "parameters", "steps"]

namespace Kind

/-- The tags of the children that the rule of a kind reads. -/
def childTags (kind : Kind) : List String :=
  (kind.textPaths ++ kind.partPaths).filterMap List.head?

/-- Whether the children with a tag are wrappers; the value of an assignment is one, but that of a
tag is a text. -/
def Wraps (kind : Kind) (tag : String) : Prop :=
  tag ∈ wrapperTags ∨ kind = .assign ∧ tag = "value"

instance (kind : Kind) (tag : String) : Decidable (kind.Wraps tag) :=
  inferInstanceAs (Decidable (_ ∨ _))

/-- A record is not read as a text itself. -/
theorem not_readsContent {kind : Kind} (record : kind ∈ recordKinds) : ¬ kind.ReadsContent := by
  have each : ∀ kind ∈ recordKinds, ¬ kind.ReadsContent := by decide
  exact each kind record

/-- A text of a record is that of a child, which is no wrapper. -/
theorem exists_of_mem_textPaths {kind : Kind} (record : kind ∈ recordKinds) {path : Path}
    (reads : path ∈ kind.textPaths) :
    ∃ tag ∈ kind.childTags, path = [tag] ∧ tag ≠ "*" ∧ ¬ kind.Wraps tag := by
  have each : ∀ kind ∈ recordKinds, ∀ path ∈ kind.textPaths,
      ∃ tag ∈ kind.childTags, path = [tag] ∧ tag ≠ "*" ∧ ¬ kind.Wraps tag := by decide
  exact each kind record path reads

/-- A part of a record is a child that is no wrapper, or stands in one. -/
theorem exists_of_mem_partPaths {kind : Kind} (record : kind ∈ recordKinds) {path : Path}
    (reads : path ∈ kind.partPaths) :
    ∃ tag ∈ kind.childTags, tag ≠ "*" ∧
      (path = [tag] ∧ ¬ kind.Wraps tag ∨ ∃ step, path = [tag, step]) := by
  have each : ∀ kind ∈ recordKinds, ∀ path ∈ kind.partPaths,
      ∃ tag ∈ kind.childTags, tag ≠ "*" ∧
        (path = [tag] ∧ ¬ kind.Wraps tag ∨ ∃ step ∈ ["*", "tag", "parameter"], path = [tag, step]) := by
    decide
  obtain ⟨tag, member, proper, shape⟩ := each kind record path reads
  refine ⟨tag, member, proper, shape.imp_right ?_⟩
  rintro ⟨step, _, same⟩
  exact ⟨step, same⟩

end Kind

/-! ### Regrouped children -/

/-- The children that two elements have with a tag say the same to a rule: they are the same, or
they are wrappers, at least one, and a single wrapper holds what all of them hold. -/
inductive Regrouped (kind : Kind) (left right : Element) (tag : String) : Prop where
  | same (children : childrenTagged left tag = childrenTagged right tag)
  | merged {wrapper : Element} (wraps : kind.Wraps tag) (some : childrenTagged left tag ≠ [])
      (single : childrenTagged right tag = [wrapper])
      (held : wrapper.children = (childrenTagged left tag).flatMap Element.children)

section

variable {kind : Kind} {left right : Element} {tag : String}

/-- What is no wrapper stays as it is. -/
theorem Regrouped.children (regrouped : Regrouped kind left right tag) (other : ¬ kind.Wraps tag) :
    childrenTagged left tag = childrenTagged right tag := by
  cases regrouped with
  | same children => exact children
  | merged wraps => exact absurd wraps other

/-- There is such a child after regrouping if there was one before. -/
theorem Regrouped.isSome_head? (regrouped : Regrouped kind left right tag) :
    (childrenTagged left tag).head?.isSome = (childrenTagged right tag).head?.isSome := by
  cases regrouped with
  | same children => rw [children]
  | merged _ some single =>
    obtain ⟨first, rest, split⟩ := List.exists_cons_of_ne_nil some
    rw [split, single]
    rfl

/-- What the wrappers hold is found in the same order. -/
theorem Regrouped.select (regrouped : Regrouped kind left right tag) (proper : tag ≠ "*")
    (step : String) : left.select [tag, step] = right.select [tag, step] := by
  rw [select_cons left proper, select_cons right proper]
  cases regrouped with
  | same children => rw [children]
  | merged _ _ single held =>
    simp only [select_singleton]
    rw [single, List.flatMap_singleton, held, List.filter_flatMap]

theorem Kind.agree_of_regrouped (record : kind ∈ recordKinds) (tag : left.tag = right.tag)
    (regrouped : ∀ tag ∈ kind.childTags, Regrouped kind left right tag) :
    kind.Agree Eq left right where
  tag := tag
  content reads := absurd reads (not_readsContent record)
  texts path reads := by
    obtain ⟨tag, member, rfl, proper, other⟩ := exists_of_mem_textPaths record reads
    rw [selectFirst?_tag left proper, selectFirst?_tag right proper,
      (regrouped tag member).children other]
  parts path reads := by
    obtain ⟨tag, member, proper, ⟨rfl, other⟩ | ⟨step, rfl⟩⟩ := exists_of_mem_partPaths record reads
    · rw [select_tag left proper, select_tag right proper, (regrouped tag member).children other,
        List.forall₂_eq_eq_eq]
    · rw [(regrouped tag member).select proper step, List.forall₂_eq_eq_eq]
  sided operation := by
    subst operation
    have proper : "left" ≠ "*" := by decide
    rw [selectFirst?_tag left proper, selectFirst?_tag right proper]
    exact (regrouped "left" (by decide)).isSome_head?

end

/-! ### Building regrouped records -/

/-- Two elements are built to the same in any two sessions: to the same node, with the same
failures; or they both fail for the same cause, and the failures before their own are the same. -/
def BuiltToSame (left right : Element) : Prop :=
  ∀ session other : Session, ∃ inner : List Failure,
    (∃ node, (session.build left).1 = .ok node ∧ (other.build right).1 = .ok node ∧
      Session.Gained session (session.build left).2 inner ∧
        Session.Gained other (other.build right).2 inner) ∨
    ∃ cause, (session.build left).1 = .error ⟨left, cause⟩ ∧
      (other.build right).1 = .error ⟨right, cause⟩ ∧
        Session.Gained session (session.build left).2 (inner ++ [⟨left, cause⟩]) ∧
          Session.Gained other (other.build right).2 (inner ++ [⟨right, cause⟩])

/-- Elements with the same plan are built to the same. -/
theorem builtToSame_of_planOf {left right : Element} (plans : planOf left = planOf right) :
    BuiltToSame left right := by
  intro session other
  have first := Session.gained_noting session (build left).failures
  have second := Session.gained_noting other (build right).failures
  rw [Session.build_eq, Session.build_eq]
  rw [build_eq, build_eq, plans] at *
  refine ⟨(carryOut (planOf right)).failures, ?_⟩
  generalize carryOut (planOf right) = run at *
  obtain ⟨failures, result⟩ := run
  cases result with
  | ok node => exact .inl ⟨node, rfl, rfl, first, second⟩
  | error cause => exact .inr ⟨cause, rfl, rfl, first, second⟩

/-- Only the sequences of children by their tags matter to a record, and wrappers only for what they
hold. -/
theorem record_regrouped {kind : Kind} {left right : Element}
    (announced : Kind.ofTag? left.tag = some kind) (record : kind ∈ recordKinds)
    (tag : left.tag = right.tag)
    (regrouped : ∀ tag ∈ kind.childTags, Regrouped kind left right tag) :
    BuiltToSame left right := by
  refine builtToSame_of_planOf ?_
  have alike := Kind.plan_alike descends_eq (Kind.agree_of_regrouped record tag regrouped)
  rw [planOf, planOf, ← tag, announced]
  exact alike.eq

/-- A call with its arguments in two sections; one wrapper is empty, and one holds what cannot be
built. -/
def scatteredCall : Element :=
  .branch "call"
    [.branch "arguments" [.branch "first" [.leaf "var" "x"], .branch "second" []],
      .leaf "actionword" "go", .branch "arguments" [.branch "third" [.leaf "other" ""]]]

/-- The same call with one section, which comes behind the name and a remark. -/
def gatheredCall : Element :=
  .branch "call"
    [.leaf "actionword" "go", .leaf "remark" "one section is enough",
      .branch "arguments" [.branch "first" [.leaf "var" "x"], .branch "second" [],
        .branch "third" [.leaf "other" ""]]]

theorem record_regrouped_gathered :
    BuiltToSame scatteredCall gatheredCall ∧
      ((Session.start gatheredCall true none).build gatheredCall).1 =
        .ok (.call "go" [some (.argument "first" (some (.var "x"))),
          some (.argument "second" none), some (.argument "third" none)]) := by
  refine ⟨@record_regrouped .call _ _ rfl (by decide) rfl fun tag member => ?_, rfl⟩
  have tags : Kind.childTags .call = ["actionword", "arguments"] := rfl
  rw [tags] at member
  simp only [List.mem_cons, List.not_mem_nil, or_false] at member
  rcases member with rfl | rfl
  · exact .same rfl
  · exact .merged (by decide) (List.cons_ne_nil _ _) rfl rfl

end ScenarioTree.Build
