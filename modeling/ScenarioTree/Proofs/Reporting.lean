/-
This file separates what options decide from what they do not. A command that shows a project takes
a level of reporting from its arguments, or else from a file of options; nothing but the reports
depends on it. So beside the same command without options only the standard error stream can differ,
and there only in which of the failures are listed.

The file of options is read before the project is looked for. If it is at fault, that is all the
command says, whatever the arguments ask for and whether there is a project or not.
-/

import ScenarioTree.Proofs.Overlong
import ScenarioTree.Proofs.Validation

namespace ScenarioTree.Command

open ScenarioTree.Build (Assembly Failure Session exists_of_bind_ok)
open ScenarioTree.File (Found Location)

/-! ### Commands that show a project -/

/-- A command that shows a project. -/
inductive Display where
  | parse
  | dump

namespace Display

/-- The name of the command. -/
def name : Display → String
  | parse => "parse"
  | dump => "dump"

/-- The request of the command. -/
def request : Display → Location → Choice → Request
  | parse => .parse
  | dump => .dump

/-- How the command shows a project. -/
def shown : Display → Project → String
  | parse => summary
  | dump => dumped

/-- The argument for a level of reporting. -/
def flag : Option Bool → List String
  | none => []
  | some true => ["--verbose"]
  | some false => ["--quiet"]

/-- The arguments for a file of options. -/
def configured : Option String → List String
  | none => []
  | some config => ["--config", config]

/-- The arguments of a command for a file. The dashes keep a file from being taken for an option. -/
def arguments (display : Display) (verbose : Option Bool) (config : Option String)
    (file : String) : List String :=
  display.name :: (flag verbose ++ (configured config ++ ["--", file]))

/-- The request that the arguments make. -/
def asked (display : Display) (verbose : Option Bool) (config : Option String)
    (file : String) : Request :=
  display.request (.ofText file) ⟨verbose, config.map .ofText⟩

theorem leading_name (display : Display) (rest : List String) :
    leading false (display.name :: rest) = some (false, display.name :: rest) := by
  cases display <;> simp [leading, isOption, name]

/-- The arguments are understood. -/
theorem ofArguments_arguments (display : Display) (verbose : Option Bool) (config : Option String)
    (file : String) :
    Request.ofArguments (display.arguments verbose config file) =
      some (display.asked verbose config file) := by
  rw [Request.ofArguments, arguments, leading_name]
  cases display
  all_goals
    rcases verbose with _ | _ | _
    all_goals cases config <;> rfl

theorem attempt_request (display : Display) (look : Location → Found) (file : Location)
    (choice : Choice) :
    (display.request file choice).attempt look = showing look file choice display.shown := by
  cases display <;> rfl

end Display

/-! ### Options and their sources -/

/-- The options that a command starts from: those of a file, or the defaults. -/
def startingOptions (look : Location → Found) :
    Option Location → Except Options.Obstacle Options
  | none => .ok {}
  | some config => Options.load look config

/-- How a command ends that cannot have its options. -/
def stopOf : Options.Obstacle → Stop
  | .problem problem => .failure problem.text
  | .unreadable reason => .breakdown (.unreadable reason)
  | .noValue fault => .breakdown (.noValue fault)

variable {look : Location → Found} {verbose : Option Bool} {config : Option Location}

theorem optionsOf_of_obstacle {obstacle : Options.Obstacle}
    (refused : startingOptions look config = .error obstacle) :
    optionsOf look ⟨verbose, config⟩ = .error (stopOf obstacle) := by
  cases config with
  | none => cases refused
  | some config =>
    have refused : Options.load look config = .error obstacle := refused
    simp only [optionsOf, refused]
    cases obstacle <;> rfl

/-- An argument goes before the file. -/
theorem optionsOf_of_options {options : Options}
    (given : startingOptions look config = .ok options) :
    optionsOf look ⟨verbose, config⟩ = .ok { verbose := verbose.getD options.verbose } := by
  cases config with
  | none =>
    obtain rfl := Except.ok.inj given
    rfl
  | some config =>
    have given : Options.load look config = .ok options := given
    simp only [optionsOf, given]
    rfl

/-- Whatever is a problem of an options file is called one. -/
theorem kind_of_problem {problem : Problem}
    (refused : startingOptions look config = .error (.problem problem)) :
    problem.kind = .options ∧ problem.path = config.map Location.text := by
  cases config with
  | none => cases refused
  | some config => exact Options.kind_of_load refused

/-! ### Commands beside themselves without options -/

section

variable (display : Display) (file : Location)

/-- Without its options a command comes to their fault, whatever else it is asked. -/
theorem run_of_obstacle {obstacle : Options.Obstacle}
    (refused : startingOptions look config = .error obstacle) :
    (display.request file ⟨verbose, config⟩).run look = ending (.error (stopOf obstacle)) := by
  rw [run_eq, display.attempt_request, showing, optionsOf_of_obstacle refused]
  rfl

/-- With its options a command comes to what its file is and to the reports that they ask for. -/
theorem run_of_options {options : Options} (given : startingOptions look config = .ok options) :
    (display.request file ⟨verbose, config⟩).run look =
      ending ((assembleFile look file).map fun assembly =>
        ⟨0, display.shown assembly.project,
          reports (verbose.getD options.verbose) assembly.failures⟩) := by
  rw [run_eq, display.attempt_request, showing, optionsOf_of_options given]
  cases assembleFile look file <;> rfl

/-- A command without options. -/
theorem run_alone :
    (display.request file {}).run look =
      ending ((assembleFile look file).map fun assembly =>
        ⟨0, display.shown assembly.project, reports false assembly.failures⟩) :=
  @run_of_options look none none display file {} rfl

end

/-- The line of a failure. -/
def failureLine (failure : Failure) : Line where
  text := failure.report
  highlighted := true

/-- A command that differs from another one in its reports only. Where the other one breaks off or
fails, it does the same; where it succeeds, the exit code and what is shown are the same, and the
failures of a session on the document are listed, either all of them or the unexpected ones. -/
structure SameButReports (look : Location → Found) (file : Location) (verbose : Bool)
    (alone chosen : Except Breakdown Output) : Prop where
  broken : ∀ reason, alone = .error reason → chosen = .error reason
  failed : ∀ output, alone = .ok output → output.exit ≠ 0 → chosen = .ok output
  succeeded : ∀ output, alone = .ok output → output.exit = 0 →
    ∃ source root, (look file).text = .ok source ∧
      Document.load source (some file.text) = .ok root ∧
      ∃ project after,
        (Session.start root verbose (some file.text)).assemble = (.ok project, after) ∧
        after.diagnostics =
          (if verbose then after.failures else after.failures.filter Failure.unexpected) ∧
        chosen = .ok ⟨0, output.stdout, after.diagnostics.map failureLine⟩

theorem sameButReports (display : Display) (file : Location) {options : Options}
    (given : startingOptions look config = .ok options) :
    SameButReports look file (verbose.getD options.verbose) ((display.request file {}).run look)
      ((display.request file ⟨verbose, config⟩).run look) := by
  rw [run_of_options display file given, run_alone]
  cases assembled : assembleFile look file with
  | error stop =>
    cases stop with
    | failure message =>
      constructor
      · rintro reason ⟨⟩
      · rintro output ⟨⟩ _
        rfl
      · rintro output ⟨⟩ success
        cases success
    | breakdown reason =>
      constructor
      · rintro other ⟨⟩
        rfl
      · rintro output ⟨⟩
      · rintro output ⟨⟩
  | ok assembly =>
    constructor
    · rintro reason ⟨⟩
    · rintro output ⟨⟩ failure
      exact absurd rfl failure
    · rintro output ⟨⟩ _
      obtain ⟨source, root, found, loaded, built⟩ := exists_of_assembleFile assembled
      have reported := Session.filter_reported (verbose.getD options.verbose) assembly.failures
      refine ⟨source, root, found, loaded, _, _, Session.assemble_of_ok built, reported, ?_⟩
      rfl

/-- Options decide about reports only. The arguments of a command make a request; the file of
options, if one is named, is read first. If it is at fault, the command fails with nothing but that
problem; if it cannot be read, or read as values, the command breaks off. Otherwise the level of
reporting is what the arguments ask for, or else what the file says, or else quiet, and the command
is the one without options but for the failures it lists. -/
theorem options_decide_reports (display : Display) (verbose : Option Bool)
    (config : Option String) (file : String) :
    Request.ofArguments (display.arguments verbose config file) =
        some (display.asked verbose config file) ∧
      Request.ofArguments (display.arguments none none file) =
        some (display.asked none none file) ∧
      ∀ look : Location → Found,
        match startingOptions look (config.map .ofText) with
        | .error (.problem problem) =>
          problem.kind = .options ∧ problem.path = config.map (Location.text ∘ .ofText) ∧
            (display.asked verbose config file).run look = .ok ⟨1, "", [{ text := problem.text }]⟩
        | .error (.unreadable reason) =>
          (display.asked verbose config file).run look = .error (.unreadable reason)
        | .error (.noValue fault) =>
          (display.asked verbose config file).run look = .error (.noValue fault)
        | .ok options =>
          SameButReports look (.ofText file) (verbose.getD options.verbose)
            ((display.asked none none file).run look)
            ((display.asked verbose config file).run look) := by
  refine ⟨display.ofArguments_arguments .., display.ofArguments_arguments .., fun look => ?_⟩
  cases given : startingOptions look (config.map .ofText) with
  | ok options => exact sameButReports display _ given
  | error obstacle =>
    have ends := @run_of_obstacle look verbose _ display (.ofText file) _ given
    cases obstacle with
    | problem problem =>
      obtain ⟨kind, path⟩ := kind_of_problem given
      exact ⟨kind, path.trans (Option.map_map ..), ends⟩
    | unreadable reason => exact ends
    | noValue fault => exact ends

/-- Without options a command looks at no other file. -/
theorem run_alone_congr {other : Location → Found} (display : Display) {file : Location}
    (same : look file = other file) :
    (display.request file {}).run look = (display.request file {}).run other := by
  rw [run_alone, run_alone, assembleFile, assembleFile, Build.parseFile, Build.parseFile, same]

/-- A file of options that is no text breaks a command off that would succeed without it, and that
is no problem of the options. -/
theorem unreadable_options_break_off :
    ∃ look : Location → Found,
      look (.ofText "options.yaml") = .bytes ⟨#[0xFF]⟩ ∧
        (∀ problem, Options.load look (.ofText "options.yaml") ≠ .error (.problem problem)) ∧
        (Display.parse.asked none none "project.xml").run look = .ok bareOutput ∧
        ∀ verbose output,
          (Display.parse.asked verbose (some "options.yaml") "project.xml").run look ≠
            .ok output := by
  let look : Location → Found := fun location =>
    if location = .ofText "options.yaml" then .bytes ⟨#[0xFF]⟩ else bareFile location
  have stored : look (.ofText "options.yaml") = .bytes ⟨#[0xFF]⟩ := if_pos rfl
  have other : Location.ofText "project.xml" ≠ .ofText "options.yaml" := by decide
  have project : look (.ofText "project.xml") = bareFile (.ofText "project.xml") := if_neg other
  have undecoded : String.fromUTF8? ⟨#[0xFF]⟩ = none := by decide
  have refused : Options.load look (.ofText "options.yaml") =
      .error (.unreadable .notUnicode) := by
    simp only [Options.load, stored, Found.isThere, Found.text, undecoded, if_true]
  refine ⟨look, stored, fun problem same => ?_, ?_, fun verbose output same => ?_⟩
  · rw [refused] at same
    cases same
  · exact (run_alone_congr .parse project).trans (run_bareFile _)
  · have broken := @run_of_obstacle look verbose (some (.ofText "options.yaml")) .parse
      (.ofText "project.xml") _ refused
    rw [Display.asked] at same
    cases broken.symm.trans same

end ScenarioTree.Command
