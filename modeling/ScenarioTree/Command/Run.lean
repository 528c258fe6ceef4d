/-
This file carries out requests. Every command builds the project of its file; they differ in what
they show of it. Options decide about the reports on the standard error stream and about nothing
else.

The options file is read before the project file is looked for, so its problems come first.
-/

import ScenarioTree.Build.Source
import ScenarioTree.Command.Output
import ScenarioTree.Command.Request
import ScenarioTree.Data.Printer
import ScenarioTree.Node.View
import ScenarioTree.Options

namespace ScenarioTree.Command

open ScenarioTree.Build (Assembly Failure)
open ScenarioTree.File (Found Location Unreadable)

/-- Why a request cannot even be answered by an error message. -/
inductive Breakdown where
  | unreadable (reason : Unreadable)
  | noValue (fault : Yaml.Fault)
  deriving DecidableEq

/-- Why a command ends early: an error to show, or a breakdown. -/
inductive Stop where
  | failure (message : String)
  | breakdown (reason : Breakdown)

/-! ### What commands need -/

/-- The options of a choice: what it asks for itself goes before what is in its file. -/
def optionsOf (look : Location → Found) (choice : Choice) : Except Stop Options := do
  let base ←
    match choice.config with
    | none => pure {}
    | some config =>
      (Options.load look config).mapError fun
        | .problem problem => .failure problem.text
        | .unreadable reason => .breakdown (.unreadable reason)
        | .noValue fault => .breakdown (.noValue fault)
  return { base with verbose := choice.verbose.getD base.verbose }

/-- The project of a file. -/
def assembleFile (look : Location → Found) (file : Location) : Except Stop Assembly :=
  if (look file).isThere then
    (Build.parseFile look file).mapError fun
      | .problem problem => .failure problem.text
      | .unreadable reason => .breakdown (.unreadable reason)
  else .error (.failure ("Error: file not found: " ++ file.text))

/-- The reports of some failures. -/
def reports (verbose : Bool) (failures : List Failure) : List Line :=
  (failures.filter (·.reported verbose)).map fun failure =>
    { text := failure.report, highlighted := true }

/-! ### What commands show -/

/-- The line of a scenario or an action in a summary; gaps have none. -/
def summaryLine : Slot → Option String
  | some (.scenario name _ _ _ body) =>
    some ("  scenario " ++ Text.quoted name ++ ": " ++ toString body.length ++ " steps\n")
  | some (.actionword name _ _ body) =>
    some ("  actionword " ++ Text.quoted name ++ ": " ++ toString body.length ++ " steps\n")
  | _ => none

/-- The summary of a project. -/
def summary (project : Project) : String :=
  "Parsed project " ++ Text.quoted project.name ++ ": " ++ toString project.scenarios.length ++
    " scenarios, " ++ toString project.actionwords.length ++ " actionwords.\n" ++
    String.join (project.scenarios.filterMap summaryLine) ++
    String.join (project.actionwords.filterMap summaryLine)

/-- A project as JSON. -/
def dumped (project : Project) : String :=
  project.node.view.print ++ "\n"

/-! ### Commands -/

/-- A command that shows a project and reports the failures. -/
def showing (look : Location → Found) (file : Location) (choice : Choice)
    (shown : Project → String) : Except Stop Output := do
  let options ← optionsOf look choice
  let assembly ← assembleFile look file
  return ⟨0, shown assembly.project, reports options.verbose assembly.failures⟩

/-- The command that fails if anything failed. -/
def checking (look : Location → Found) (file : Location) : Except Stop Output := do
  let assembly ← assembleFile look file
  if assembly.failures.isEmpty then return ⟨0, "OK\n", []⟩
  else
    let count := toString assembly.failures.length
    return ⟨1, "", reports true assembly.failures ++
      [{ text := count ++ " element(s) could not be built." }]⟩

/-- A request carried out up to where it stops. -/
def Request.attempt (look : Location → Found) : Request → Except Stop Output
  | .version => .ok ⟨0, programName ++ " " ++ programVersion ++ "\n", []⟩
  | .parse file choice => showing look file choice summary
  | .check file => checking look file
  | .dump file choice => showing look file choice dumped

/-- A request carried out. -/
def Request.run (look : Location → Found) (request : Request) : Except Breakdown Output :=
  match request.attempt look with
  | .ok output => .ok output
  | .error (.failure message) => .ok (.failure message)
  | .error (.breakdown reason) => .error reason

/-- The locations that a request may look at. -/
def Request.locations : Request → List Location
  | .version => []
  | .parse file choice | .dump file choice => choice.config.toList ++ [file]
  | .check file => [file]

end ScenarioTree.Command
