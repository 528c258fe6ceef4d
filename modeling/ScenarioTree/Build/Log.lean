/-
This file words the records that building leaves behind. A failure that is reported leaves one
record with its report, and one before it if it was not expected; a project leaves one more at its
end. What is written is read off the failures alone, so the records tell the same story as they
do.
-/

import ScenarioTree.Build.Project

namespace ScenarioTree.Build

/-- How much a record matters. -/
inductive Level where
  | debug
  | error
  deriving DecidableEq

/-- A line of the log. -/
structure Record where
  level : Level
  message : String
  deriving DecidableEq

/-- The record of an error that was not expected while an element was built. -/
def Record.alarm (element : Xml.Element) : Record :=
  ⟨.error, "Unexpected error while building <" ++ element.tag ++ ">"⟩

/-- The records that a failure leaves. -/
def Failure.records (verbose : Bool) (failure : Failure) : List Record :=
  (if failure.unexpected then [.alarm failure.element] else []) ++
  (if failure.reported verbose then [⟨.debug, failure.report⟩] else [])

/-- The record that a project leaves. Gaps count as scenarios and actions. -/
def Assembly.summary (assembly : Assembly) : Record :=
  ⟨.debug, "Built project " ++ Text.quoted assembly.project.name ++ ": " ++
    toString assembly.project.scenarios.length ++ " scenarios, " ++
    toString assembly.project.actionwords.length ++ " actionwords, " ++
    toString assembly.failures.length ++ " failures"⟩

/-- The records that putting a project together leaves. -/
def Assembly.records (verbose : Bool) (assembly : Assembly) : List Record :=
  assembly.failures.flatMap (·.records verbose) ++ [assembly.summary]

end ScenarioTree.Build
