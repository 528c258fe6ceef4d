/-
This file shows that the log tells what was reported, and nothing else. The records of a failure are
written at the moment it is noted, in the middle of building whatever is around it; still, the log
of a call reads as if the reports had been gone through afterwards, one after another. A failure
that is not reported leaves no record, because only an unexpected one has a record besides its
report, and those are always reported.

Putting a project together starts the reports anew but goes on with the log, so the records of the
call are told by all the reports that the session has then.
-/

import ScenarioTree.Proofs.Session

namespace ScenarioTree.Build

open ScenarioTree.Xml (Element)

/-! ### The records of a report -/

/-- The records that tell of a failure that was reported: its report, and before it a record of its
own if the failure was not expected. -/
def Failure.trace (failure : Failure) : List Record :=
  (if failure.unexpected then
    [⟨.error, "Unexpected error while building <" ++ failure.element.tag ++ ">"⟩]
  else []) ++ [⟨.debug, failure.report⟩]

/-- What is not reported leaves no records. -/
theorem Failure.records_eq (verbose : Bool) (failure : Failure) :
    failure.records verbose = if failure.reported verbose then failure.trace else [] := by
  rw [records, trace]
  cases asked : failure.reported verbose with
  | true => simp [Record.alarm]
  | false =>
    have expected : failure.unexpected = false := (Bool.or_eq_false_iff.mp asked).1
    simp [expected]

/-- The records of some failures are those of the failures among them that are reported. -/
theorem flatMap_records (verbose : Bool) (failures : List Failure) :
    failures.flatMap (·.records verbose) =
      (failures.filter (·.reported verbose)).flatMap Failure.trace := by
  induction failures with
  | nil => rfl
  | cons failure rest induction =>
    rw [List.flatMap_cons, induction, failure.records_eq, List.filter_cons]
    split
    · rfl
    · exact List.nil_append _

namespace Session

/-! ### The log of a call -/

/-- Failures that are noted are reported as the session asks for it, and the log tells just of
these reports. -/
theorem exists_reported_noting (session : Session) (failures : List Failure) :
    ∃ reported, (session.noting failures).diagnostics = session.diagnostics ++ reported ∧
      (session.noting failures).log = session.log ++ reported.flatMap Failure.trace := by
  refine ⟨failures.filter (·.reported session.verbose), noting_diagnostics session failures, ?_⟩
  rw [noting_eq, flatMap_records]

/-- A project that is put together is summed up behind the records of all reports. -/
theorem log_finished_noting (session : Session) (project : Project) (failures : List Failure) :
    ((session.cleared.noting failures).finished project).log =
      session.log ++ (session.cleared.noting failures).diagnostics.flatMap Failure.trace ++
        [(Assembly.mk project failures).summary] := by
  have kept : (session.cleared.noting failures).failures = failures :=
    noting_failures session.cleared failures
  obtain ⟨reported, shown, told⟩ := exists_reported_noting session.cleared failures
  have anew : (session.cleared.noting failures).diagnostics = reported := shown
  have before : session.cleared.log = session.log := rfl
  rw [finished, kept, anew, told, before]

/-- The log is a faithful trace. Building an element adds the records of the failures that it adds
to the reports, in their order. Putting the project together adds the records of all reports of the
session after it and a summary, which counts what is in the project with its gaps and every failure
whether it was reported or not; if there is no project to be put together, nothing is added. -/
theorem log_tells_reports :
    (∀ (session : Session) (element : Element), ∃ reported,
      (session.build element).2.diagnostics = session.diagnostics ++ reported ∧
        (session.build element).2.log = session.log ++ reported.flatMap Failure.trace) ∧
    ∀ session : Session,
      match session.assemble with
      | (.error _, after) => after.log = session.log
      | (.ok project, after) =>
        after.log = session.log ++ after.diagnostics.flatMap Failure.trace ++
          [⟨.debug, "Built project " ++ Text.quoted project.name ++ ": " ++
            toString project.scenarios.length ++ " scenarios, " ++
            toString project.actionwords.length ++ " actionwords, " ++
            toString after.failures.length ++ " failures"⟩] := by
  constructor
  · intro session element
    rw [build_eq]
    exact exists_reported_noting session (Build.build element).failures
  · intro session
    rw [assemble_eq]
    cases Build.assemble session.root with
    | error fault => rfl
    | ok assembly =>
      have kept : (session.cleared.noting assembly.failures).failures = assembly.failures :=
        noting_failures session.cleared assembly.failures
      simp only [log_finished_noting, Assembly.summary]
      rw [finished, kept]

end Session

end ScenarioTree.Build
