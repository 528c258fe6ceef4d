/-
This file compares the three commands on one file. They build the same project with different
choices of what is reported, so they stop at the same files with the same words. Where there is a
project, two of them show it; the third shows the reports that the others give on request, and
counts them.

What the third command says can also be seen in the data that is dumped. It passes a project exactly
if nothing failed, and then only values and defaults that are missing are null.
-/

import ScenarioTree.Command.Run
import ScenarioTree.Proofs.Assembly
import ScenarioTree.Proofs.Hole

namespace ScenarioTree.Command

open ScenarioTree.Build (Assembly Failure Session)
open ScenarioTree.File (Found Location Unreadable)

/-! ### Lines without colours -/

theorem afterColour?_eq_none {character : Char} {rest : List Char}
    (plain : character ≠ colourMark) : afterColour? (character :: rest) = none := by
  rw [afterColour?.eq_def]
  split
  · next same =>
    obtain ⟨rfl, -⟩ := List.cons.inj same
    rw [if_neg (by simpa using plain)]
  · rfl

/-- Where no colour begins, nothing is taken out. -/
theorem withoutColours_eq_self {characters : List Char} (plain : colourMark ∉ characters)
    (rounds : Nat) : withoutColours rounds characters = characters := by
  induction characters generalizing rounds with
  | nil => cases rounds <;> rfl
  | cons character rest induction =>
    rw [List.mem_cons, not_or] at plain
    cases rounds with
    | zero => rfl
    | succ rounds =>
      rw [withoutColours, afterColour?_eq_none (Ne.symm plain.1)]
      exact congrArg _ (induction plain.2 rounds)

/-- The line with the number of elements that failed. -/
def countLine (count : Nat) : Line where
  text := toString count ++ " element(s) could not be built."

theorem colourMark_not_mem_countLine (count : Nat) :
    colourMark ∉ (countLine count).text.toList := by
  have digits : (toString count).toList = Nat.toDigits 10 count := Nat.toList_repr
  rw [countLine, String.toList_append, digits, List.mem_append, not_or]
  refine ⟨fun member => ?_, by decide⟩
  have digit := Nat.isDigit_of_mem_toDigits (by decide) (by decide) member
  exact absurd digit (by decide)

/-- The number of failures is written as it is. -/
theorem write_countLine (colour : Bool) (count : Nat) :
    (countLine count).write colour = toString count ++ " element(s) could not be built.\n" := by
  have text : (countLine count).text ++ "\n" =
      toString count ++ " element(s) could not be built.\n" := String.append_assoc ..
  rw [Line.write, withoutColours_eq_self (colourMark_not_mem_countLine count), String.ofList_toList]
  cases colour <;> exact text

/-! ### Commands without a file of options -/

/-- A choice of what is reported, and no file of options. -/
def Choice.only (verbose : Option Bool) : Choice :=
  { verbose := verbose }

/-- What a command comes to that may stop early. -/
def ending : Except Stop Output → Except Breakdown Output
  | .ok output => .ok output
  | .error (.failure message) => .ok (.failure message)
  | .error (.breakdown reason) => .error reason

theorem run_eq (look : Location → Found) (request : Request) :
    request.run look = ending (request.attempt look) := by
  rw [Request.run]
  cases request.attempt look with
  | ok output => rfl
  | error stop => cases stop <;> rfl

/-- A command that shows a project has no other way to stop than building it. -/
theorem showing_eq (look : Location → Found) (file : Location) (verbose : Option Bool)
    (shown : Project → String) :
    showing look file (.only verbose) shown =
      (assembleFile look file).map fun assembly =>
        ⟨0, shown assembly.project, reports (verbose.getD false) assembly.failures⟩ := by
  have options : optionsOf look (.only verbose) = .ok { verbose := verbose.getD false } := rfl
  rw [showing, options]
  cases assembleFile look file <;> rfl

/-- What the command that checks a project says about it. -/
def verdict (failures : List Failure) : Output :=
  if failures = [] then ⟨0, "OK\n", []⟩
  else ⟨1, "", reports true failures ++ [countLine failures.length]⟩

theorem checking_eq (look : Location → Found) (file : Location) :
    checking look file =
      (assembleFile look file).map fun assembly => verdict assembly.failures := by
  rw [checking]
  cases assembleFile look file with
  | error stop => rfl
  | ok assembly =>
    obtain ⟨project, failures⟩ := assembly
    cases failures <;> rfl

/-! ### All commands on one file -/

/-- What the commands come to on one file, two of them with a choice of what is reported. -/
structure Answers where
  parse : Option Bool → Except Breakdown Output
  dump : Option Bool → Except Breakdown Output
  check : Except Breakdown Output

/-- What the commands come to on a file. -/
def answers (look : Location → Found) (file : Location) : Answers where
  parse verbose := (Request.parse file (.only verbose)).run look
  dump verbose := (Request.dump file (.only verbose)).run look
  check := (Request.check file).run look

section

variable (look : Location → Found) (file : Location) (verbose : Option Bool)

theorem answers_parse :
    (answers look file).parse verbose =
      ending ((assembleFile look file).map fun assembly =>
        ⟨0, summary assembly.project, reports (verbose.getD false) assembly.failures⟩) :=
  (run_eq ..).trans (congrArg ending (showing_eq ..))

theorem answers_dump :
    (answers look file).dump verbose =
      ending ((assembleFile look file).map fun assembly =>
        ⟨0, dumped assembly.project, reports (verbose.getD false) assembly.failures⟩) :=
  (run_eq ..).trans (congrArg ending (showing_eq ..))

theorem answers_check :
    (answers look file).check =
      ending ((assembleFile look file).map fun assembly => verdict assembly.failures) :=
  (run_eq ..).trans (congrArg ending (checking_eq ..))

end

namespace Answers

/-- All commands come to the same. -/
structure Same (answers : Answers) (last : Except Breakdown Output) : Prop where
  parse : ∀ verbose, answers.parse verbose = last
  dump : ∀ verbose, answers.dump verbose = last
  check : answers.check = last

/-- The commands agree about a project and about the failures that building it left. Two commands
show the project with the same reports. The third passes it exactly if nothing failed; then there is
nothing to report, and no null in the data but for values and defaults that are missing. Otherwise
the third command fails with the reports of the others and their number, and the data has a null in
a field for nodes. -/
structure Agree (answers : Answers) (project : Project) (failures : List Failure) : Prop where
  shown : ∀ verbose, ∃ reported,
    answers.parse verbose = .ok ⟨0, summary project, reported⟩ ∧
      answers.dump verbose = .ok ⟨0, project.node.view.print ++ "\n", reported⟩
  passes : answers.check = .ok ⟨0, "OK\n", []⟩ ↔ failures = []
  complete : failures = [] →
    answers.parse (some true) = .ok ⟨0, summary project, []⟩ ∧
      ∀ hole ∈ project.node.holes, hole ∈ [("Tag", "value"), ("Parameter", "default")]
  fails : failures ≠ [] → ∃ parsed checked,
    answers.parse (some true) = .ok parsed ∧ answers.check = .ok checked ∧
      checked.exit = 1 ∧ checked.stdout = "" ∧ parsed.stderr.length = failures.length ∧
      (∀ colour, checked.errorText colour = parsed.errorText colour ++
        (toString failures.length ++ " element(s) could not be built.\n")) ∧
      ∃ hole ∈ project.node.holes, hole ∈ Node.nodeFields

/-- Where no project can be built, all commands stop at the same point. -/
theorem same_of_stop {look : Location → Found} {file : Location} {stop : Stop}
    (stopped : assembleFile look file = .error stop) :
    (answers look file).Same (ending (.error stop)) where
  parse verbose := by
    rw [answers_parse, stopped]
    rfl
  dump verbose := by
    rw [answers_dump, stopped]
    rfl
  check := by
    rw [answers_check, stopped]
    rfl

theorem length_reports_true (failures : List Failure) :
    (reports true failures).length = failures.length := by
  have all : failures.filter (·.reported true) = failures :=
    List.filter_eq_self.mpr fun failure _ => Bool.or_true failure.unexpected
  rw [reports, all, List.length_map]

/-- Where a project was built, the commands agree about it. -/
theorem agree_of_assembled {look : Location → Found} {file : Location} {assembly : Assembly}
    (assembled : assembleFile look file = .ok assembly)
    (shows : Build.Shows assembly.project.node.holes assembly.failures) :
    (answers look file).Agree assembly.project assembly.failures := by
  have parsed (verbose : Option Bool) : (answers look file).parse verbose =
      .ok ⟨0, summary assembly.project, reports (verbose.getD false) assembly.failures⟩ := by
    rw [answers_parse, assembled]
    rfl
  have checked : (answers look file).check = .ok (verdict assembly.failures) := by
    rw [answers_check, assembled]
    rfl
  constructor
  case shown =>
    intro verbose
    refine ⟨_, parsed verbose, ?_⟩
    rw [answers_dump, assembled]
    rfl
  case passes =>
    rw [checked, verdict]
    split <;> simp_all
  case complete =>
    intro none
    refine ⟨?_, shows.complete none⟩
    rw [parsed, none]
    rfl
  case fails =>
    intro some
    refine ⟨_, _, parsed _, checked, ?_⟩
    rw [verdict, if_neg some]
    refine ⟨rfl, rfl, length_reports_true _, fun colour => ?_, shows.missing some⟩
    rw [Output.errorText, List.map_append, String.join_append, List.map_singleton,
      write_countLine]
    rfl

/-- What is found on the way from a source to its project. -/
theorem exists_of_parse_ok {source : String} {path : Option String} {assembly : Assembly}
    (parsed : Build.parse source path = .ok assembly) :
    ∃ root, Document.load source path = .ok root ∧ Build.assemble root = .ok assembly := by
  obtain ⟨root, loaded, parsed⟩ := Build.exists_of_bind_ok parsed
  refine ⟨root, loaded, ?_⟩
  cases assembled : Build.assemble root with
  | error fault =>
    rw [assembled] at parsed
    cases parsed
  | ok other =>
    rw [assembled] at parsed
    cases parsed
    rfl

/-- The commands on a text. -/
theorem same_or_agree_on_text {look : Location → Found} {file : Location} {source : String}
    (there : (look file).isThere) (readable : (look file).text = .ok source) :
    match Build.parse source (some file.text) with
    | .error problem => (answers look file).Same (.ok (.failure problem.text))
    | .ok _ =>
      ∃ root, Document.load source (some file.text) = .ok root ∧ ∀ verbose, ∃ project after,
        (Session.start root verbose (some file.text)).assemble = (.ok project, after) ∧
          (answers look file).Agree project after.failures := by
  cases parsed : Build.parse source (some file.text) with
  | error problem =>
    have stopped : assembleFile look file = .error (.failure problem.text) := by
      rw [assembleFile, if_pos there, Build.parseFile, readable]
      simp only [parsed]
      rfl
    exact same_of_stop stopped
  | ok assembly =>
    have built : assembleFile look file = .ok assembly := by
      rw [assembleFile, if_pos there, Build.parseFile, readable]
      simp only [parsed]
      rfl
    obtain ⟨root, loaded, assembled⟩ := exists_of_parse_ok parsed
    refine ⟨root, loaded, fun verbose => ⟨_, _, Session.assemble_of_ok assembled, ?_⟩⟩
    exact agree_of_assembled built (Build.Assembly.shows_failures assembled)

/-- What cannot be read as a text breaks all commands off. -/
theorem same_of_unreadable {look : Location → Found} {file : Location} {reason : Unreadable}
    (there : (look file).isThere) (unreadable : (look file).text = .error reason) :
    (answers look file).Same (.error (.unreadable reason)) := by
  have stopped : assembleFile look file = .error (.breakdown (.unreadable reason)) := by
    rw [assembleFile, if_pos there, Build.parseFile, unreadable]
    rfl
  exact same_of_stop stopped

theorem same_of_absent {look : Location → Found} {file : Location}
    (absent : (look file).isThere = false) :
    (answers look file).Same (.ok (.failure ("Error: file not found: " ++ file.text))) := by
  have stopped : assembleFile look file =
      .error (.failure ("Error: file not found: " ++ file.text)) := by
    rw [assembleFile, absent]
    rfl
  exact same_of_stop stopped

/-- The three commands on any file. A file that is not there, and one from which no project can be
built, is refused by all of them in the same words; about any other they agree, and about the
failures of a session on its document. What is no text breaks all of them off. -/
theorem commands_agree (look : Location → Found) (file : Location) :
    match look file with
    | .missing | .behindFile =>
      (answers look file).Same (.ok (.failure ("Error: file not found: " ++ file.text)))
    | .directory => (answers look file).Same (.error (.unreadable .directory))
    | .bytes content =>
      match String.fromUTF8? content with
      | none => (answers look file).Same (.error (.unreadable .notUnicode))
      | some text =>
        let source := String.ofList (Text.unifyNewlines text.toList)
        match Build.parse source (some file.text) with
        | .error problem => (answers look file).Same (.ok (.failure problem.text))
        | .ok _ =>
          ∃ root, Document.load source (some file.text) = .ok root ∧ ∀ verbose, ∃ project after,
            (Session.start root verbose (some file.text)).assemble = (.ok project, after) ∧
              (answers look file).Agree project after.failures := by
  cases found : look file with
  | missing | behindFile => exact same_of_absent (congrArg Found.isThere found)
  | directory => exact same_of_unreadable (congrArg Found.isThere found) (congrArg Found.text found)
  | bytes content =>
    have there : (look file).isThere := congrArg Found.isThere found
    have read := congrArg Found.text found
    rw [Found.text] at read
    cases decoded : String.fromUTF8? content with
    | none =>
      rw [decoded] at read
      simpa only [decoded] using same_of_unreadable there read
    | some text =>
      rw [decoded] at read
      simpa only [decoded] using same_or_agree_on_text there read

/-- A file that is no text is there and is refused as no document, but no command answers. -/
theorem not_every_file_is_answered :
    ∃ (look : Location → Found) (file : Location),
      look file = .bytes ⟨#[0xFF]⟩ ∧ (look file).isThere ∧
        (∀ problem, Build.parseFile look file ≠ .error (.problem problem)) ∧
        ∀ verbose output, (answers look file).parse verbose ≠ .ok output ∧
          (answers look file).dump verbose ≠ .ok output ∧
          (answers look file).check ≠ .ok output := by
  let look : Location → Found := fun _ => .bytes ⟨#[0xFF]⟩
  let file : Location := .ofText "project.xml"
  have undecoded : String.fromUTF8? ⟨#[0xFF]⟩ = none := by decide
  have unreadable : (look file).text = .error .notUnicode := by
    simp only [look, Found.text, undecoded]
  have broken := same_of_unreadable rfl unreadable
  refine ⟨look, file, rfl, rfl, ?_, fun verbose output => ⟨?_, ?_, ?_⟩⟩
  · rw [Build.parseFile, unreadable]
    rintro problem ⟨⟩
  · rw [broken.parse]
    rintro ⟨⟩
  · rw [broken.dump]
    rintro ⟨⟩
  · rw [broken.check]
    rintro ⟨⟩

end Answers

end ScenarioTree.Command
