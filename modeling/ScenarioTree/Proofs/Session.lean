/-
This file shows that a session only adds to its memory. Building hands the memory from part to part,
and a failure is noted at the moment it arises; still, what comes out is what building comes to
without any memory, and the memory grows by the failures of that outcome and by nothing else
(`Session.build_eq`). So neither the history of a session nor what it reports can reach a node.

The failures that are kept and those that are reported are two lists of the same events. They start
together, every note adds to both or to the first alone, and both are forgotten together, so at
every point of a run the second is the first without what is not reported.
-/

import ScenarioTree.Build.Session
import ScenarioTree.Proofs.Outcome

namespace ScenarioTree.Build

open ScenarioTree.Xml (Element)

namespace Session

/-! ### Noting failures -/

/-- The session after several failures, noted one after another. -/
def noting (session : Session) (failures : List Failure) : Session :=
  failures.foldl note session

theorem noting_append (session : Session) (first second : List Failure) :
    session.noting (first ++ second) = (session.noting first).noting second :=
  List.foldl_append

theorem noting_verbose (session : Session) (failures : List Failure) :
    (session.noting failures).verbose = session.verbose := by
  induction failures generalizing session with
  | nil => rfl
  | cons failure rest induction => exact induction (session.note failure)

/-- Every failure is kept, behind those from before. -/
theorem noting_failures (session : Session) (failures : List Failure) :
    (session.noting failures).failures = session.failures ++ failures := by
  induction failures generalizing session with
  | nil => exact (List.append_nil _).symm
  | cons failure rest induction =>
    have kept : (session.note failure).failures = session.failures ++ [failure] := rfl
    rw [noting, List.foldl_cons, ← noting, induction, kept, List.append_assoc,
      List.singleton_append]

theorem note_diagnostics (session : Session) (failure : Failure) :
    (session.note failure).diagnostics =
      session.diagnostics ++ [failure].filter (·.reported session.verbose) := by
  rw [note]
  cases asked : failure.reported session.verbose <;> simp [asked]

/-- Of the failures those are reported that the session asks for. -/
theorem noting_diagnostics (session : Session) (failures : List Failure) :
    (session.noting failures).diagnostics =
      session.diagnostics ++ failures.filter (·.reported session.verbose) := by
  induction failures generalizing session with
  | nil => exact (List.append_nil _).symm
  | cons failure rest induction =>
    have asked : (session.note failure).verbose = session.verbose := rfl
    rw [noting, List.foldl_cons, ← noting, induction, note_diagnostics, asked, List.append_assoc,
      ← List.filter_append, List.singleton_append]

/-- The log goes on with the records of the failures, and nothing else changes. -/
theorem noting_eq (session : Session) (failures : List Failure) :
    session.noting failures =
      { session with
        failures := session.failures ++ failures
        diagnostics := session.diagnostics ++ failures.filter (·.reported session.verbose)
        log := session.log ++ failures.flatMap (·.records session.verbose) } := by
  induction failures generalizing session with
  | nil => simp [noting]
  | cons failure rest induction =>
    rw [noting, List.foldl_cons, ← noting, induction, note_diagnostics]
    simp only [note, List.filter_cons, List.filter_nil, List.flatMap_cons, List.append_assoc,
      List.singleton_append]
    split <;> simp

/-! ### Building is building without memory, and noting -/

/-- If building an element is building it without memory and noting its failures, so it is for
parts one after another. -/
theorem buildParts_eq (visit : Session → Element → Except Failure Node × Session)
    (outcome : Element → Outcome)
    (agree : ∀ session element, visit session element =
      ((outcome element).result, session.noting (outcome element).failures))
    (session : Session) (parts : List Part) :
    session.buildParts visit parts =
      ((parts.map (Part.build fun element => (outcome element).yield)).map Yield.slot,
        session.noting
          ((parts.map (Part.build fun element => (outcome element).yield)).flatMap
            Yield.failures)) := by
  induction parts generalizing session with
  | nil => rfl
  | cons part rest induction =>
    cases part with
    | element found =>
      simp only [buildParts, agree, induction, List.map_cons, List.flatMap_cons, noting_append]
      rw [← Outcome.slot_eq_toOption]
      rfl
    | vacant holder =>
      simp only [buildParts, induction, List.map_cons, List.flatMap_cons, noting_append]
      rfl

theorem conclude_eq (session : Session) (element : Element) (run : Run Node) :
    (session.noting run.failures).conclude element run.result =
      ((Outcome.ofRun element run).result,
        session.noting (Outcome.ofRun element run).failures) := by
  obtain ⟨failures, result⟩ := run
  cases result with
  | ok node => rfl
  | error cause =>
    have appended : (Outcome.ofRun element ⟨failures, .error cause⟩).failures =
        failures ++ [⟨element, cause⟩] := rfl
    rw [appended, noting_append]
    rfl

theorem buildWithin_eq (depth : Nat) (session : Session) (element : Element) :
    buildWithin depth session element =
      ((Build.buildWithin depth element).result,
        session.noting (Build.buildWithin depth element).failures) := by
  induction depth generalizing session element with
  | zero => rfl
  | succ depth induction =>
    rw [buildWithin, buildParts_eq _ (Build.buildWithin depth) induction]
    exact conclude_eq session element
      ((planOf element).run fun part => (Build.buildWithin depth part).yield)

/-- Building an element in a session yields what it yields without one, and adds its failures to the
memory. -/
theorem build_eq (session : Session) (element : Element) :
    session.build element =
      ((Build.build element).result, session.noting (Build.build element).failures) :=
  buildWithin_eq element.height session element

theorem node_eq (session : Session) (element : Element) :
    session.node element =
      ((Build.build element).slot, session.noting (Build.build element).failures) := by
  rw [node, build_eq, Outcome.slot_eq_toOption]

theorem nodes_eq (session : Session) (elements : List Element) :
    session.nodes elements =
      ((buildAll elements).slots, session.noting (buildAll elements).failures) := by
  rw [nodes, buildParts_eq _ Build.build build_eq]
  simp only [List.map_map, List.flatMap_map, buildAll]
  rfl

theorem carryOut_eq {α : Type} (session : Session) (plan : Plan α) :
    session.carryOut plan =
      ((Build.carryOut plan).result, session.noting (Build.carryOut plan).failures) := by
  rw [carryOut, buildParts_eq _ Build.build build_eq]
  rfl

theorem assemble_eq (session : Session) :
    session.assemble =
      match Build.assemble session.root with
      | .error fault => (.error fault, session.cleared)
      | .ok assembly =>
        (.ok assembly.project,
          (session.cleared.noting assembly.failures).finished assembly.project) := by
  rw [assemble, Build.assemble]
  cases Sections.find session.root with
  | error fault => rfl
  | ok sections =>
    simp only [nodes_eq, ← noting_append]
    rfl

/-! ### Runs -/

/-- What may be done in a session, its options apart. -/
inductive Operation : Type 1 where
  | build (element : Element)
  | node (element : Element)
  | nodes (elements : List Element)
  | carryOut {α : Type} (plan : Plan α)
  | assemble
  | on (root : Element)

/-- The session after an operation. -/
def after (session : Session) : Operation → Session
  | .build element => (session.build element).2
  | .node element => (session.node element).2
  | .nodes elements => (session.nodes elements).2
  | .carryOut plan => (session.carryOut plan).2
  | .assemble => session.assemble.2
  | .on root => session.on root

/-- The session after a run of operations. -/
def run (session : Session) (operations : List Operation) : Session :=
  operations.foldl after session

/-- The reported failures are those among the failures that the session asks for. -/
def Consistent (session : Session) : Prop :=
  session.diagnostics = session.failures.filter (·.reported session.verbose)

theorem Consistent.noting {session : Session} (consistent : session.Consistent)
    (failures : List Failure) : (session.noting failures).Consistent := by
  rw [Consistent, noting_diagnostics, noting_failures, noting_verbose, List.filter_append,
    ← consistent]

theorem consistent_cleared (session : Session) : session.cleared.Consistent := rfl

theorem Consistent.assemble {session : Session} : session.assemble.2.Consistent := by
  rw [assemble_eq]
  cases Build.assemble session.root with
  | error fault => exact consistent_cleared session
  | ok assembly => exact (consistent_cleared session).noting assembly.failures

/-- One operation keeps the two lists together. -/
theorem Consistent.after {session : Session} (consistent : session.Consistent)
    (operation : Operation) : (session.after operation).Consistent := by
  cases operation with
  | build element =>
    rw [Session.after, build_eq]
    exact consistent.noting _
  | node element =>
    rw [Session.after, node_eq]
    exact consistent.noting _
  | nodes elements =>
    rw [Session.after, nodes_eq]
    exact consistent.noting _
  | carryOut plan =>
    rw [Session.after, carryOut_eq]
    exact consistent.noting _
  | assemble => exact Consistent.assemble
  | on root => exact consistent

theorem Consistent.run {session : Session} (consistent : session.Consistent)
    (operations : List Operation) : (session.run operations).Consistent := by
  induction operations generalizing session with
  | nil => exact consistent
  | cons operation rest induction => exact induction (consistent.after operation)

theorem after_verbose (session : Session) (operation : Operation) :
    (session.after operation).verbose = session.verbose := by
  cases operation with
  | build element => rw [after, build_eq, noting_verbose]
  | node element => rw [after, node_eq, noting_verbose]
  | nodes elements => rw [after, nodes_eq, noting_verbose]
  | carryOut plan => rw [after, carryOut_eq, noting_verbose]
  | assemble =>
    rw [after, assemble_eq]
    cases Build.assemble session.root with
    | error fault => rfl
    | ok assembly => exact noting_verbose session.cleared assembly.failures
  | on root => rfl

theorem run_verbose (session : Session) (operations : List Operation) :
    (session.run operations).verbose = session.verbose := by
  induction operations generalizing session with
  | nil => rfl
  | cons operation rest induction =>
    exact (induction (session.after operation)).trans (after_verbose session operation)

/-! ### What a session remembers does not matter -/

/-- What a session that asks for everything reports, and what any other one does. -/
theorem filter_reported (verbose : Bool) (failures : List Failure) :
    failures.filter (·.reported verbose) =
      if verbose then failures else failures.filter Failure.unexpected := by
  cases verbose with
  | true => simp [Failure.reported]
  | false => simp [Failure.reported]

/-- What the memory of a session gained: some failures, of which those are reported that it asks
for. -/
def Gained (before after : Session) (failures : List Failure) : Prop :=
  after.failures = before.failures ++ failures ∧
    after.diagnostics =
      before.diagnostics ++
        if before.verbose then failures else failures.filter Failure.unexpected

theorem gained_noting (session : Session) (failures : List Failure) :
    Gained session (session.noting failures) failures :=
  ⟨noting_failures session failures, by rw [noting_diagnostics, filter_reported]⟩

/-- In any two sessions an element is built to the same result and leaves the same failures. They
are added to what the session had, and reported as the session asks for it. In a run from the start
the reported failures are therefore the failures without what is not to be reported. -/
theorem build_independent :
    (∀ (left right : Session) (element : Element),
      (left.build element).1 = (right.build element).1 ∧
        ∃ failures : List Failure,
          Gained left (left.build element).2 failures ∧
            Gained right (right.build element).2 failures) ∧
      ∀ (root : Element) (verbose : Bool) (path : Option String) (operations : List Operation),
        ((start root verbose path).run operations).diagnostics =
          ((start root verbose path).run operations).failures.filter fun failure =>
            failure.unexpected || verbose := by
  constructor
  · intro left right element
    rw [build_eq, build_eq]
    exact ⟨rfl, (Build.build element).failures, gained_noting left _, gained_noting right _⟩
  · intro root verbose path operations
    have fresh : (start root verbose path).Consistent := rfl
    have consistent := fresh.run operations
    rw [Consistent, run_verbose] at consistent
    exact consistent

end Session

end ScenarioTree.Build
