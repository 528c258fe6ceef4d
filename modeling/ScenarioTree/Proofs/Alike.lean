/-
This file carries a likeness of two documents through the whole of building. A relation between
elements that goes down to children and along with every text that some rule reads goes along with
building too: elements that are alike are built to the same node, or fail for the same cause, and
the failures that they leave correspond one to one, each of an element to one of an element that is
alike (`build_alike`). The same is true of documents from which projects are put together.

The step is `Kind.plan_alike`: of two elements that are alike, one plan asks for parts that are
alike to those the other asks for. The run is an induction on the depth of building.
-/

import ScenarioTree.Proofs.Assembly
import ScenarioTree.Proofs.Footprint

namespace ScenarioTree.Build

open ScenarioTree.Xml (Descends Element Path map_eq_of_forall₂ rel_of_map_eq)

/-! ### Results that are alike -/

/-- Two results that are alike: values that are, or errors that are. -/
inductive ResultsAlike {ε α : Type} (errors : ε → ε → Prop) (values : α → α → Prop) :
    Except ε α → Except ε α → Prop where
  | ok {left right : α} (alike : values left right) :
      ResultsAlike errors values (.ok left) (.ok right)
  | error {left right : ε} (alike : errors left right) :
      ResultsAlike errors values (.error left) (.error right)

theorem ResultsAlike.bind {ε α β : Type} {errors : ε → ε → Prop} {values : α → α → Prop}
    {others : β → β → Prop} {left right : Except ε α} {next last : α → Except ε β}
    (alike : ResultsAlike errors values left right)
    (behind : ∀ value other, values value other →
      ResultsAlike errors others (next value) (last other)) :
    ResultsAlike errors others (left.bind next) (right.bind last) := by
  cases alike with
  | ok alike => exact behind _ _ alike
  | error alike => exact .error alike

/-- Two failures that are alike: of elements that are, for the same cause. What went wrong is worded
by the cause, which also decides whether it was expected. -/
structure Failure.Alike (like : Element → Element → Prop) (left right : Failure) : Prop where
  element : like left.element right.element
  cause : left.cause = right.cause

theorem Failure.Alike.detail {like : Element → Element → Prop} {left right : Failure}
    (alike : Failure.Alike like left right) : left.detail = right.detail :=
  congrArg Cause.message alike.cause

theorem Failure.Alike.unexpected {like : Element → Element → Prop} {left right : Failure}
    (alike : Failure.Alike like left right) : left.unexpected = right.unexpected :=
  congrArg Cause.unexpected alike.cause

/-- Failures that are alike one by one, so that they tell the same in the same order. -/
structure FailuresAlike (like : Element → Element → Prop) (lefts rights : List Failure) : Prop where
  each : List.Forall₂ (Failure.Alike like) lefts rights
  details : lefts.map Failure.detail = rights.map Failure.detail
  unexpected : lefts.map Failure.unexpected = rights.map Failure.unexpected

theorem failuresAlike {like : Element → Element → Prop} {lefts rights : List Failure}
    (each : List.Forall₂ (Failure.Alike like) lefts rights) : FailuresAlike like lefts rights where
  each := each
  details := map_eq_of_forall₂ each fun _ _ alike => alike.detail
  unexpected := map_eq_of_forall₂ each fun _ _ alike => alike.unexpected

/-- Two yields that are alike: of the same slot, with failures that are alike one by one. -/
structure Yield.Alike (like : Element → Element → Prop) (left right : Yield) : Prop where
  slot : left.slot = right.slot
  failures : List.Forall₂ (Failure.Alike like) left.failures right.failures

/-- Two outcomes that are alike. -/
structure Outcome.Alike (like : Element → Element → Prop) (left right : Outcome) : Prop where
  inner : List.Forall₂ (Failure.Alike like) left.inner right.inner
  result : ResultsAlike (Failure.Alike like) Eq left.result right.result

/-! ### One step -/

section

variable {like : Element → Element → Prop}

theorem Outcome.Alike.yield {left right : Outcome} (alike : Outcome.Alike like left right) :
    Yield.Alike like left.yield right.yield := by
  obtain ⟨inner, result⟩ := left
  obtain ⟨others, outcome⟩ := right
  obtain ⟨failures, results⟩ := alike
  cases results with
  | ok same => exact ⟨congrArg some same, failures⟩
  | error own => exact ⟨rfl, List.rel_append failures (.cons own .nil)⟩

theorem Part.Alike.build {visit : Element → Yield} (descends : Descends like)
    (visits : ∀ left right, like left right → Yield.Alike like (visit left) (visit right))
    {left right : Part} (parts : Part.Alike like left right) :
    Yield.Alike like (left.build visit) (right.build visit) := by
  cases parts with
  | element related => exact visits _ _ related
  | vacant related =>
    refine ⟨rfl, .cons ⟨related, ?_⟩ .nil⟩
    rw [descends.tag related]

/-- Plans that are alike are carried out alike, if what they ask for is built alike. -/
theorem Plan.Alike.run {α : Type} {visit : Element → Yield} (descends : Descends like)
    (visits : ∀ left right, like left right → Yield.Alike like (visit left) (visit right))
    {left right : Plan α} (plans : Plan.Alike like left right) :
    List.Forall₂ (Failure.Alike like) (left.run visit).failures (right.run visit).failures ∧
      (left.run visit).result = (right.run visit).result := by
  have yields : List.Forall₂ (Yield.Alike like) (left.parts.map (Part.build visit))
      (right.parts.map (Part.build visit)) :=
    List.rel_map (fun _ _ parts => parts.build descends visits) plans.parts
  have slots := map_eq_of_forall₂ yields fun _ _ alike => alike.slot
  refine ⟨List.rel_flatMap yields fun _ _ alike => alike.failures, ?_⟩
  rw [Plan.run, Plan.run, slots, plans.result]

end

/-! ### Likeness that reaches every text -/

/-- The paths to the texts of a project. -/
def projectTextPaths : List Path :=
  [["name"], ["description"]]

/-- A relation between elements that goes down to children and along with every text that is read
when they are built. -/
structure Carries (like : Element → Element → Prop) : Prop extends Descends like where
  content {left right : Element} {kind : Kind} (related : like left right)
    (announced : Kind.ofTag? left.tag = some kind) (reads : kind.ReadsContent) :
    left.content = right.content
  texts {left right : Element} {kind : Kind} (related : like left right)
    (announced : Kind.ofTag? left.tag = some kind) :
    ∀ path ∈ kind.textPaths,
      (left.selectFirst? path).map Element.content = (right.selectFirst? path).map Element.content
  projectTexts {left right : Element} (related : like left right) (named : left.tag = "project") :
    ∀ path ∈ projectTextPaths,
      (left.selectFirst? path).map Element.content = (right.selectFirst? path).map Element.content

section

variable {like : Element → Element → Prop} {left right : Element}

theorem Carries.agree (carries : Carries like) (related : like left right) {kind : Kind}
    (announced : Kind.ofTag? left.tag = some kind) : kind.Agree like left right where
  tag := carries.tag related
  content := carries.content related announced
  texts := carries.texts related announced
  parts path _ := carries.select related path
  sided _ := by
    have sides := carries.selectFirst? related ["left"]
    generalize left.selectFirst? ["left"] = side, right.selectFirst? ["left"] = other at sides
    cases sides <;> rfl

/-- Elements that are alike have plans that are. -/
theorem Carries.planOf (carries : Carries like) (related : like left right) :
    Plan.Alike like (Build.planOf left) (Build.planOf right) := by
  rw [Build.planOf, Build.planOf, ← carries.tag related]
  cases announced : Kind.ofTag? left.tag with
  | none => exact .refl_of_nil rfl
  | some kind => exact Kind.plan_alike carries.toDescends (carries.agree related announced)

theorem buildWithin_alike (carries : Carries like) (depth : Nat) (related : like left right) :
    Outcome.Alike like (buildWithin depth left) (buildWithin depth right) := by
  induction depth generalizing left right with
  | zero => exact ⟨.nil, .error ⟨related, by rw [carries.tag related]⟩⟩
  | succ depth induction =>
    obtain ⟨failures, result⟩ := (carries.planOf related).run carries.toDescends
      fun _ _ related => (induction related).yield
    refine ⟨failures, ?_⟩
    rw [buildWithin, buildWithin, Outcome.ofRun, Outcome.ofRun, result]
    cases ((planOf right).run fun part => (buildWithin depth part).yield).result with
    | ok node => exact .ok rfl
    | error cause => exact .error ⟨related, rfl⟩

/-- Elements that are alike are built alike. -/
theorem build_alike (carries : Carries like) (related : like left right) :
    Outcome.Alike like (build left) (build right) := by
  have deep := buildWithin_alike carries (max left.height right.height) related
  rw [build, build,
    buildWithin_eq_of_le (Nat.le_refl left.height) (Nat.le_max_left _ right.height),
    buildWithin_eq_of_le (Nat.le_refl right.height) (Nat.le_max_right left.height _)]
  exact deep

end

/-! ### Building in sessions -/

/-- Two elements are built alike in any two sessions, whatever these have been through and report:
to the same node, or to failures that are alike; and the failures that the sessions gain are alike
one by one. -/
def BuiltAlike (like : Element → Element → Prop) (left right : Element) : Prop :=
  ∀ session other : Session,
    ResultsAlike (Failure.Alike like) Eq (session.build left).1 (other.build right).1 ∧
      ∃ failures others : List Failure,
        Session.Gained session (session.build left).2 failures ∧
          Session.Gained other (other.build right).2 others ∧
            FailuresAlike like failures others

theorem Carries.builtAlike {like : Element → Element → Prop} (carries : Carries like)
    {left right : Element} (related : like left right) : BuiltAlike like left right := by
  intro session other
  have alike := build_alike carries related
  rw [Session.build_eq, Session.build_eq]
  exact ⟨alike.result, (build left).failures, (build right).failures,
    Session.gained_noting session _, Session.gained_noting other _,
    failuresAlike alike.yield.failures⟩

/-! ### Projects -/

/-- Two faults that are alike: no project in either document, or the same section missing in
projects that are alike. -/
inductive StructureFault.Alike (like : Element → Element → Prop) :
    StructureFault → StructureFault → Prop where
  | noProject : Alike like .noProject .noProject
  | noSection {left right : Element} (related : like left right) (missing : String) :
      Alike like (.noSection left missing) (.noSection right missing)

/-- Two sets of sections that are alike. -/
structure Sections.Alike (like : Element → Element → Prop) (left right : Sections) : Prop where
  name : left.name.content = right.name.content
  description : left.description.content = right.description.content
  scenarios : like left.scenarios right.scenarios
  actionwords : like left.actionwords right.actionwords

/-- Two projects that are put together alike: they are the same, and the failures are alike. -/
structure Assembly.Alike (like : Element → Element → Prop) (left right : Assembly) : Prop where
  project : left.project = right.project
  failures : List.Forall₂ (Failure.Alike like) left.failures right.failures

section

variable {like : Element → Element → Prop} {left right : Element}

theorem sectionOf_alike {values : Element → Element → Prop} (related : like left right)
    {name : String}
    (found : Option.Rel values (left.selectFirst? [name]) (right.selectFirst? [name])) :
    ResultsAlike (StructureFault.Alike like) values (sectionOf left name) (sectionOf right name) := by
  rw [sectionOf, sectionOf]
  generalize left.selectFirst? [name] = first, right.selectFirst? [name] = other at found
  cases found with
  | none => exact .error (.noSection related name)
  | some alike => exact .ok alike

/-- The sections of documents that are alike are alike, or the same section is missing. -/
theorem Sections.find_alike (carries : Carries like) (related : like left right) :
    ResultsAlike (StructureFault.Alike like) (Sections.Alike like) (Sections.find left)
      (Sections.find right) := by
  have projects : Option.Rel like (Document.findProject? left) (Document.findProject? right) :=
    carries.find? related "project"
  cases within : Document.findProject? left with
  | none =>
    cases other : Document.findProject? right with
    | none =>
      rw [Sections.find, Sections.find, within, other]
      exact .error .noProject
    | some partner => rw [within, other] at projects; cases projects
  | some project =>
    cases other : Document.findProject? right with
    | none => rw [within, other] at projects; cases projects
    | some partner =>
      rw [within, other] at projects
      obtain ⟨alike⟩ := projects
      have first := Element.first_of_find? within
      rw [Sections.find_eq first, Sections.find_eq (Element.first_of_find? other)]
      have texts := carries.projectTexts alike first.tagged
      -- the sections are looked for one after another
      refine (sectionOf_alike alike (rel_of_map_eq (texts ["name"] (by decide)))).bind ?_
      intro _ _ name
      refine (sectionOf_alike alike (rel_of_map_eq (texts ["description"] (by decide)))).bind ?_
      intro _ _ description
      refine (sectionOf_alike alike (carries.selectFirst? alike ["scenarios"])).bind ?_
      intro _ _ scenarios
      refine (sectionOf_alike alike (carries.selectFirst? alike ["actionwords"])).bind ?_
      intro _ _ actionwords
      exact .ok ⟨name, description, scenarios, actionwords⟩

theorem buildAll_alike (carries : Carries like) {lefts rights : List Element}
    (related : List.Forall₂ like lefts rights) :
    (buildAll lefts).slots = (buildAll rights).slots ∧
      List.Forall₂ (Failure.Alike like) (buildAll lefts).failures (buildAll rights).failures := by
  have outcomes : List.Forall₂ (Outcome.Alike like) (lefts.map build) (rights.map build) :=
    List.rel_map (fun _ _ related => build_alike carries related) related
  exact ⟨map_eq_of_forall₂ outcomes fun _ _ alike => alike.yield.slot,
    List.rel_flatMap outcomes fun _ _ alike => alike.yield.failures⟩

/-- Projects of documents that are alike are put together alike. -/
theorem assemble_alike (carries : Carries like) (related : like left right) :
    ResultsAlike (StructureFault.Alike like) (Assembly.Alike like) (assemble left)
      (assemble right) := by
  refine (Sections.find_alike carries related).bind fun sections others alike => .ok ?_
  obtain ⟨tests, testFailures⟩ :=
    buildAll_alike carries (carries.select alike.scenarios ["scenario"])
  obtain ⟨words, wordFailures⟩ :=
    buildAll_alike carries (carries.select alike.actionwords ["actionword"])
  refine ⟨?_, List.rel_append testFailures wordFailures⟩
  show Project.mk _ _ _ _ = Project.mk _ _ _ _
  rw [alike.name, alike.description]
  exact congrArg₂ (Project.mk _ _) tests words

end

/-- Projects are put together alike from two documents in any two sessions: both times the same
project, or both times none, for faults that are alike; and the failures that are left are alike one
by one. -/
def AssembledAlike (like : Element → Element → Prop) (left right : Element) : Prop :=
  ∀ session other : Session,
    ResultsAlike (StructureFault.Alike like) Eq (session.on left).assemble.1
        (other.on right).assemble.1 ∧
      FailuresAlike like (session.on left).assemble.2.failures
        (other.on right).assemble.2.failures

theorem Carries.assembledAlike {like : Element → Element → Prop} (carries : Carries like)
    {left right : Element} (related : like left right) : AssembledAlike like left right := by
  intro session other
  have alike := assemble_alike carries related
  have onLeft : (session.on left).root = left := rfl
  have onRight : (other.on right).root = right := rfl
  rw [Session.assemble_eq, Session.assemble_eq, onLeft, onRight]
  generalize assemble left = first, assemble right = second at alike
  cases alike with
  | error fault => exact ⟨.error fault, failuresAlike .nil⟩
  | @ok assembly partner assemblies =>
    refine ⟨.ok assemblies.project, failuresAlike ?_⟩
    show List.Forall₂ _ ((session.on left).cleared.noting assembly.failures).failures
      ((other.on right).cleared.noting partner.failures).failures
    rw [Session.noting_failures, Session.noting_failures]
    exact assemblies.failures

end ScenarioTree.Build
