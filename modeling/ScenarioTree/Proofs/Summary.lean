/-
This file shows that the summary of a project says what is in its document and can be read in one
way only. An overview holds what is told: the name of the project, how many scenarios and actions
there are, failed ones included, and the name and the number of steps of each that is built. The
elements of the document decide it, and the summary is its text.

Every line of an overview begins with a name in quotes and a number. Quoted names have no line
breaks, so the text has just the lines that it was put together from, and a line gives its name and
its numbers back. The word in front keeps scenarios and actions apart.
-/

import ScenarioTree.Proofs.Quoted
import ScenarioTree.Proofs.Reporting
import ScenarioTree.Proofs.Selection
import ScenarioTree.Proofs.Surroundings

namespace ScenarioTree

/-! ### Lines of a text -/

namespace Text

variable (separator : Char)

theorem pieces_of_not_mem {characters : List Char} (apart : separator ∉ characters) :
    pieces separator characters = [characters] := by
  induction characters with
  | nil => rfl
  | cons first rest induction =>
    rw [List.mem_cons, not_or] at apart
    have other : ¬ (first == separator) = true := fun same => apart.1 (beq_iff_eq.mp same).symm
    rw [pieces, if_neg other, induction apart.2]

/-- Lines are the pieces of a text in which each of them is ended; nothing is left behind. -/
theorem pieces_flatMap {lines : List (List Char)} (apart : ∀ line ∈ lines, separator ∉ line) :
    pieces separator (lines.flatMap fun line => line ++ [separator]) = lines ++ [[]] := by
  induction lines with
  | nil => rfl
  | cons first rest induction =>
    obtain ⟨firstApart, apart⟩ := List.forall_mem_cons.mp apart
    rw [List.flatMap_cons, List.append_assoc, List.singleton_append, pieces_append,
      pieces_of_not_mem separator firstApart, induction apart, List.singleton_append,
      List.cons_append]

end Text

namespace Command

open ScenarioTree.Build (Assembly OwnSections Sections build_ok_iff madeOf_of_assemble slotOf
  slotOf_eq_some_iff)
open ScenarioTree.File (Found Location)
open ScenarioTree.Number (Ends isDigit span_append)
open ScenarioTree.Text (Plain plain_append)
open ScenarioTree.Xml (Element childrenTagged select_cons selectFirst?_tag)

/-! ### Overviews -/

/-- The name of a scenario or an action and the number of its steps. -/
structure Tally where
  name : String
  steps : Nat

/-- What a summary tells: about the project, and about each scenario and action that is built. -/
structure Overview where
  name : String
  scenarioCount : Nat
  actionwordCount : Nat
  scenarios : List Tally
  actionwords : List Tally

/-- What every line begins with: some words, a name in quotes and a number. -/
def opening (words name : String) (count : Nat) : String :=
  words ++ Text.quoted name ++ ": " ++ toString count

/-- The line of a scenario or an action. -/
def Tally.line (words : String) (tally : Tally) : String :=
  opening words tally.name tally.steps ++ " steps"

namespace Overview

/-- The line of the project. -/
def header (overview : Overview) : String :=
  opening "Parsed project " overview.name overview.scenarioCount ++ " scenarios, " ++
    toString overview.actionwordCount ++ " actionwords."

/-- The lines of an overview. -/
def lines (overview : Overview) : List String :=
  overview.header :: (overview.scenarios.map (Tally.line "  scenario ") ++
    overview.actionwords.map (Tally.line "  actionword "))

/-- The text of an overview. -/
def text (overview : Overview) : String :=
  String.join (overview.lines.map (· ++ "\n"))

end Overview

/-! ### Reading an overview -/

/-- The number that some characters begin with, and what follows it. -/
def readCount (characters : List Char) : Nat × List Char :=
  (Number.digitsValue (characters.takeWhile isDigit), characters.dropWhile isDigit)

/-- The name and the number that a line begins with, and what follows them. -/
def readOpening? (words : String) (line : List Char) : Option ((String × Nat) × List Char) := do
  let rest ← line.dropPrefix? words.toList
  let (name, rest) ← Text.unquote? rest
  let rest ← rest.dropPrefix? ": ".toList
  let (count, rest) := readCount rest
  return ((name, count), rest)

/-- The tally of a line that begins with some words. -/
def Tally.read? (words : String) (line : List Char) : Option Tally :=
  (readOpening? words line).map fun ((name, steps), _) => ⟨name, steps⟩

/-- The overview of a text. -/
def Overview.read? (text : String) : Option Overview :=
  match Text.pieces '\n' text.toList with
  | [] => none
  | header :: lines => do
    let ((name, scenarioCount), rest) ← readOpening? "Parsed project " header
    let rest ← rest.dropPrefix? " scenarios, ".toList
    return {
      name, scenarioCount
      actionwordCount := (readCount rest).1
      scenarios := lines.filterMap (Tally.read? "  scenario ")
      actionwords := lines.filterMap (Tally.read? "  actionword ") }

theorem toList_toString (count : Nat) : (toString count).toList = Nat.toDigits 10 count :=
  Nat.toList_repr

theorem readCount_append (count : Nat) {rest : List Char} (ends : Ends isDigit rest) :
    readCount ((toString count).toList ++ rest) = (count, rest) := by
  have split := @span_append isDigit (Nat.toDigits 10 count) rest
    (fun _ => Number.isDigit_of_mem_toDigits) ends
  rw [readCount, toList_toString, split.1, split.2, Number.digitsValue_toDigits]

theorem dropPrefix?_append (start rest : List Char) :
    (start ++ rest).dropPrefix? start = some rest :=
  List.dropPrefix?_append_of_beq _ (beq_self_eq_true start)

/-- The name and the number of a line are found again. -/
theorem readOpening?_opening (words name : String) (count : Nat) {rest : List Char}
    (ends : Ends isDigit rest) :
    readOpening? words ((opening words name count).toList ++ rest) =
      some ((name, count), rest) := by
  have split : (opening words name count).toList ++ rest = words.toList ++
      ((Text.quoted name).toList ++ (": ".toList ++ ((toString count).toList ++ rest))) := by
    simp only [opening, String.toList_append, List.append_assoc]
  rw [split, readOpening?, dropPrefix?_append]
  simp only [Option.bind_eq_bind, Option.bind_some, Text.unquote?_quoted, dropPrefix?_append,
    readCount_append count ends]
  rfl

namespace Tally

theorem read?_line (words : String) (tally : Tally) :
    read? words (tally.line words).toList = some tally := by
  have ends : Ends isDigit " steps".toList := .inr ⟨_, _, rfl, rfl⟩
  rw [read?, line, String.toList_append, readOpening?_opening words _ _ ends]
  rfl

theorem filterMap_read?_line (words : String) (tallies : List Tally) :
    ((tallies.map (line words)).map String.toList).filterMap (read? words) = tallies := by
  induction tallies with
  | nil => rfl
  | cons first rest induction =>
    simp only [List.map_cons, List.filterMap_cons, read?_line, induction]

/-- Lines that begin with other words give no tallies. -/
theorem filterMap_read?_other {words others : String}
    (apart : ∀ rest, (others.toList ++ rest).dropPrefix? words.toList = none)
    (tallies : List Tally) :
    ((tallies.map (line others)).map String.toList).filterMap (read? words) = [] := by
  induction tallies with
  | nil => rfl
  | cons first rest induction =>
    have missed : read? words (first.line others).toList = none := by
      simp only [read?, readOpening?, line, opening, String.toList_append, List.append_assoc, apart]
      rfl
    simp only [List.map_cons, List.filterMap_cons, missed, induction]

end Tally

/-! ### Lines are plain -/

theorem plain_toString (count : Nat) : Plain (toString count).toList := by
  intro character member
  rw [toList_toString] at member
  have digit := Number.isDigit_of_mem_toDigits member
  rw [isDigit, Bool.and_eq_true, decide_eq_true_iff, decide_eq_true_iff] at digit
  have lower : 48 ≤ character.toNat := digit.1
  have upper : character.toNat ≤ 57 := digit.2
  exact Text.isPrintable_of_ascii (by omega) (by omega)

theorem plain_opening {words : String} (plain : Plain words.toList) (name : String) (count : Nat) :
    Plain (opening words name count).toList := by
  simp only [opening, String.toList_append, plain_append]
  exact ⟨⟨⟨plain, Text.plain_quoted name⟩, by decide⟩, plain_toString count⟩

theorem Tally.plain_line {words : String} (plain : Plain words.toList) (tally : Tally) :
    Plain (tally.line words).toList := by
  rw [line, String.toList_append, plain_append]
  exact ⟨plain_opening plain _ _, by decide⟩

namespace Overview

theorem plain_header (overview : Overview) : Plain overview.header.toList := by
  simp only [header, String.toList_append, plain_append]
  exact ⟨⟨⟨plain_opening (by decide) _ _, by decide⟩, plain_toString _⟩, by decide⟩

/-- Nothing but printable characters is in the lines of an overview. -/
theorem plain_of_mem_lines {overview : Overview} {line : String}
    (member : line ∈ overview.lines) : Plain line.toList := by
  rw [lines, List.mem_cons, List.mem_append, List.mem_map, List.mem_map] at member
  rcases member with rfl | ⟨tally, _, rfl⟩ | ⟨tally, _, rfl⟩
  · exact overview.plain_header
  · exact tally.plain_line (by decide)
  · exact tally.plain_line (by decide)

theorem ended_header (overview : Overview) :
    "Parsed project " ++ Text.quoted overview.name ++ ": " ++ toString overview.scenarioCount ++
      " scenarios, " ++ toString overview.actionwordCount ++ " actionwords.\n" =
        overview.header ++ "\n" :=
  (@String.append_assoc
    (opening "Parsed project " overview.name overview.scenarioCount ++ " scenarios, " ++
      toString overview.actionwordCount) " actionwords." "\n").symm

/-- The text of an overview is its header and the lines of what is built. -/
theorem text_eq (overview : Overview) :
    overview.text = overview.header ++ "\n" ++
      String.join ((overview.scenarios.map (Tally.line "  scenario ")).map (· ++ "\n")) ++
      String.join ((overview.actionwords.map (Tally.line "  actionword ")).map (· ++ "\n")) := by
  rw [text, lines, List.map_cons, List.map_append, String.join_cons, String.join_append,
    ← String.append_assoc]

theorem toList_text (overview : Overview) :
    overview.text.toList =
      (overview.lines.map String.toList).flatMap fun line => line ++ ['\n'] := by
  rw [text, String.toList_join, List.flatMap_map, List.flatMap_map]
  simp only [String.toList_append]
  rfl

/-- The text of an overview is cut into its lines. -/
theorem pieces_text (overview : Overview) :
    Text.pieces '\n' overview.text.toList = overview.lines.map String.toList ++ [[]] := by
  have apart : ∀ line ∈ overview.lines.map String.toList, '\n' ∉ line := by
    intro line member
    obtain ⟨own, among, rfl⟩ := List.mem_map.mp member
    exact (plain_of_mem_lines among).not_mem List.mem_cons_self
  rw [toList_text, Text.pieces_flatMap _ apart]

/-- No colour is in the text of an overview. -/
theorem colourMark_not_mem_text (overview : Overview) : colourMark ∉ overview.text.toList := by
  intro member
  rw [toList_text, List.mem_flatMap] at member
  obtain ⟨characters, listed, member⟩ := member
  obtain ⟨line, among, rfl⟩ := List.mem_map.mp listed
  rcases List.mem_append.mp member with inside | last
  · exact absurd (plain_of_mem_lines among _ inside) (by decide)
  · exact absurd (List.mem_singleton.mp last) (by decide)

/-- An overview is found again in its text. -/
theorem read?_text (overview : Overview) : read? overview.text = some overview := by
  have between : Ends isDigit
      (" scenarios, ".toList ++ ((toString overview.actionwordCount).toList ++
        " actionwords.".toList)) := .inr ⟨_, _, rfl, rfl⟩
  have behind : Ends isDigit " actionwords.".toList := .inr ⟨_, _, rfl, rfl⟩
  have header : overview.header.toList =
      (opening "Parsed project " overview.name overview.scenarioCount).toList ++
        (" scenarios, ".toList ++ ((toString overview.actionwordCount).toList ++
          " actionwords.".toList)) := by
    simp only [Overview.header, String.toList_append, List.append_assoc]
  -- each reader finds its own lines only, and nothing in the empty piece at the end
  have noTests := @Tally.filterMap_read?_other "  scenario " "  actionword " (fun _ => rfl)
    overview.actionwords
  have noWords := @Tally.filterMap_read?_other "  actionword " "  scenario " (fun _ => rfl)
    overview.scenarios
  have nothing (words : String) (some : [].dropPrefix? words.toList = none) :
      [[]].filterMap (Tally.read? words) = [] := by
    simp only [List.filterMap_cons, Tally.read?, readOpening?, some]
    rfl
  rw [read?, pieces_text, lines, List.map_cons, List.cons_append]
  simp only [header, readOpening?_opening _ _ _ between, Option.bind_eq_bind, Option.bind_some,
    dropPrefix?_append, readCount_append _ behind, List.map_append, List.filterMap_append,
    Tally.filterMap_read?_line, noTests, noWords, nothing "  scenario " rfl,
    nothing "  actionword " rfl, List.append_nil, List.nil_append]
  rfl

theorem text_injective : Function.Injective text := by
  intro first second same
  have found := read?_text first
  rw [same, read?_text] at found
  exact (Option.some.inj found).symm

/-- An overview that its text shows. Cut into lines, the text is the lines of the overview with
nothing behind them; no character in them is unprintable or breaks a line, and none is taken for a
colour. The overview can be read from it. -/
structure Legible (overview : Overview) : Prop where
  cut : Text.pieces '\n' overview.text.toList = overview.lines.map String.toList ++ [[]]
  plain : ∀ line ∈ overview.lines, Plain line.toList ∧
    ∀ character ∈ Text.lineBreaks, character ∉ line.toList
  uncoloured : ∀ rounds, withoutColours rounds overview.text.toList = overview.text.toList
  found : read? overview.text = some overview

theorem legible (overview : Overview) : overview.Legible where
  cut := overview.pieces_text
  plain _ member :=
    ⟨plain_of_mem_lines member, fun _ => (plain_of_mem_lines member).not_mem⟩
  uncoloured := withoutColours_eq_self overview.colourMark_not_mem_text
  found := overview.read?_text

end Overview

/-! ### Overviews of documents -/

/-- Whether an element is built. -/
def isBuilt (element : Element) : Bool :=
  (slotOf element).isSome

/-- The tally of an element: the text of the first child with a name, and the number of elements
directly in the children with steps. -/
inductive Tallied (element : Element) : Tally → Prop where
  | intro {name : Element} (named : (childrenTagged element "name").head? = some name) :
      Tallied element
        ⟨name.content, ((childrenTagged element "steps").flatMap Element.children).length⟩

/-- The overview of the sections of a project. All scenarios and actions are counted; those that are
built are listed in their order. -/
structure Told (sections : Sections) (overview : Overview) : Prop where
  name : overview.name = sections.name.content
  scenarioCount : overview.scenarioCount = (childrenTagged sections.scenarios "scenario").length
  actionwordCount :
    overview.actionwordCount = (childrenTagged sections.actionwords "actionword").length
  scenarios : List.Forall₂ Tallied
    ((childrenTagged sections.scenarios "scenario").filter isBuilt) overview.scenarios
  actionwords : List.Forall₂ Tallied
    ((childrenTagged sections.actionwords "actionword").filter isBuilt) overview.actionwords

theorem rightUnique_tallied : Relator.RightUnique Tallied := by
  intro element first second told again
  cases told with
  | intro named =>
    cases again with
    | intro same => rw [Option.some.inj (named.symm.trans same)]

/-- The sections decide what is told of them. -/
theorem Told.unique {sections : Sections} {first second : Overview} (told : Told sections first)
    (again : Told sections second) : first = second := by
  have tallies {elements : List Element} {some others : List Tally}
      (related : List.Forall₂ Tallied elements some)
      (same : List.Forall₂ Tallied elements others) : some = others :=
    List.right_unique_forall₂' rightUnique_tallied related same
  cases first
  cases second
  rw [Overview.mk.injEq]
  exact ⟨told.name.trans again.name.symm, told.scenarioCount.trans again.scenarioCount.symm,
    told.actionwordCount.trans again.actionwordCount.symm, tallies told.scenarios again.scenarios,
    tallies told.actionwords again.actionwords⟩

theorem length_steps (element : Element) :
    ((element.select ["steps", "*"]).map slotOf).length =
      ((childrenTagged element "steps").flatMap Element.children).length := by
  rw [List.length_map, select_cons _ (by decide)]
  simp only [Build.select_star]

theorem ended_line (words name : String) (count : Nat) :
    words ++ Text.quoted name ++ ": " ++ toString count ++ " steps\n" =
      Tally.line words ⟨name, count⟩ ++ "\n" :=
  (@String.append_assoc (opening words name count) " steps" "\n").symm

/-- A line with the name of an element and its steps is the line of its tally. -/
theorem exists_tally {element name : Element}
    (nameFound : element.selectFirst? ["name"] = some name) (words : String) :
    ∃ tally, Tallied element tally ∧
      some (words ++ Text.quoted name.content ++ ": " ++
        toString ((element.select ["steps", "*"]).map slotOf).length ++ " steps\n") =
          some (tally.line words ++ "\n") := by
  rw [selectFirst?_tag _ (by decide)] at nameFound
  refine ⟨_, .intro nameFound, ?_⟩
  rw [length_steps, ended_line]

theorem summaryLine_of_scenario {element : Element} (tagged : element.tag = "scenario")
    {node : Node} (built : slotOf element = some node) :
    ∃ tally, Tallied element tally ∧
      summaryLine (some node) = some (tally.line "  scenario " ++ "\n") := by
  obtain ⟨kind, announced, made⟩ := build_ok_iff.mp (slotOf_eq_some_iff.mp built)
  rw [tagged] at announced
  cases announced
  cases made with
  | scenario nameFound => exact exists_tally nameFound _

theorem summaryLine_of_actionword {element : Element} (tagged : element.tag = "actionword")
    {node : Node} (built : slotOf element = some node) :
    ∃ tally, Tallied element tally ∧
      summaryLine (some node) = some (tally.line "  actionword " ++ "\n") := by
  obtain ⟨kind, announced, made⟩ := build_ok_iff.mp (slotOf_eq_some_iff.mp built)
  rw [tagged] at announced
  cases announced
  cases made with
  | actionword nameFound => exact exists_tally nameFound _

/-- The lines of elements are those of the tallies of what is built. -/
theorem exists_tallies {words : String} {elements : List Element}
    (each : ∀ element ∈ elements, ∀ node, slotOf element = some node →
      ∃ tally, Tallied element tally ∧ summaryLine (some node) = some (tally.line words ++ "\n")) :
    ∃ tallies, List.Forall₂ Tallied (elements.filter isBuilt) tallies ∧
      (elements.map slotOf).filterMap summaryLine =
        (tallies.map (Tally.line words)).map (· ++ "\n") := by
  induction elements with
  | nil => exact ⟨[], .nil, rfl⟩
  | cons first rest induction =>
    obtain ⟨firstEach, each⟩ := List.forall_mem_cons.mp each
    obtain ⟨tallies, related, lines⟩ := induction each
    rw [List.filter_cons, List.map_cons, isBuilt]
    -- a gap has no line, and what left it no tally
    cases built : slotOf first with
    | none => exact ⟨tallies, related, lines⟩
    | some node =>
      obtain ⟨tally, told, line⟩ := firstEach node built
      refine ⟨tally :: tallies, .cons told related, ?_⟩
      rw [List.filterMap_cons, line]
      exact congrArg _ lines

/-- A summary is a header and the lines of what is built. -/
theorem summary_eq (project : Project) :
    summary project =
      "Parsed project " ++ Text.quoted project.name ++ ": " ++ toString project.scenarios.length ++
        " scenarios, " ++ toString project.actionwords.length ++ " actionwords.\n" ++
        String.join (project.scenarios.filterMap summaryLine) ++
        String.join (project.actionwords.filterMap summaryLine) := rfl

theorem tag_of_mem_childrenTagged {parent element : Element} {tag : String}
    (member : element ∈ childrenTagged parent tag) : element.tag = tag :=
  beq_iff_eq.mp (List.mem_filter.mp member).2

/-- What is told of a project is the text of an overview of its sections. -/
theorem exists_told (sections : Sections) :
    ∃ overview, Told sections overview ∧
      summary (sections.project ((childrenTagged sections.scenarios "scenario").map slotOf)
        ((childrenTagged sections.actionwords "actionword").map slotOf)) = overview.text := by
  obtain ⟨tests, testsTold, testLines⟩ := exists_tallies fun _ member _ =>
    summaryLine_of_scenario (@tag_of_mem_childrenTagged sections.scenarios _ "scenario" member)
  obtain ⟨words, wordsTold, wordLines⟩ := exists_tallies fun _ member _ =>
    summaryLine_of_actionword
      (@tag_of_mem_childrenTagged sections.actionwords _ "actionword" member)
  refine ⟨⟨sections.name.content, _, _, tests, words⟩, ⟨rfl, rfl, rfl, testsTold, wordsTold⟩, ?_⟩
  rw [summary_eq, Overview.text_eq, ← Overview.ended_header]
  simp only [Sections.project, testLines, wordLines, List.length_map]

theorem Told.length_lines {sections : Sections} {overview : Overview}
    (told : Told sections overview) :
    overview.lines.length =
      1 + ((childrenTagged sections.scenarios "scenario").filter isBuilt).length +
        ((childrenTagged sections.actionwords "actionword").filter isBuilt).length := by
  rw [Overview.lines, List.length_cons, List.length_append, List.length_map, List.length_map,
    told.scenarios.length_eq, told.actionwords.length_eq]
  omega

/-! ### The summary of a document -/

variable {look : Location → Found} {file : Location} {root : Element} {assembly : Assembly}

theorem assembleFile_of_assemble (loaded : Build.loadFile look file = .ok root)
    (assembled : Build.assemble root = .ok assembly) :
    assembleFile look file = .ok assembly := by
  have there : (look file).isThere := by
    rw [Build.loadFile] at loaded
    split at loaded
    · cases loaded
    · next readable => exact Found.isThere_of_text readable
  rw [assembleFile, if_pos there, Build.parseFile_eq, loaded]
  show Except.mapError _ (Except.mapError _ (Build.assemble root)) = _
  rw [assembled]
  rfl

/-- A project is put together from the sections of its element. -/
theorem exists_sections {project : Element} (first : root.First "project" project)
    (assembled : Build.assemble root = .ok assembly) :
    ∃ sections, OwnSections project sections ∧ assembly.project =
      sections.project ((childrenTagged sections.scenarios "scenario").map slotOf)
        ((childrenTagged sections.actionwords "actionword").map slotOf) := by
  have made := madeOf_of_assemble first assembled
  generalize assembly.project = shown, assembly.failures = failures at made
  cases made with
  | sections own => exact ⟨_, own, rfl⟩

/-- The summary of a document is unambiguous and complete. Every overview can be read from its text
line by line, and no two overviews have the same text. If a document has a project, its own sections
decide an overview; the overview has one line for the project and one for each scenario and each
action that is built, and its text is what the command shows, whatever the options are. -/
theorem summary_unambiguous (loaded : Build.loadFile look file = .ok root)
    (assembled : Build.assemble root = .ok assembly) :
    (∀ overview : Overview, overview.Legible) ∧ Function.Injective Overview.text ∧
      ∃ (project : Element) (sections : Sections) (overview : Overview),
        root.First "project" project ∧ OwnSections project sections ∧ Told sections overview ∧
          (∀ other, Told sections other → other = overview) ∧
          overview.lines.length =
            1 + ((childrenTagged sections.scenarios "scenario").filter isBuilt).length +
              ((childrenTagged sections.actionwords "actionword").filter isBuilt).length ∧
          ∀ (choice : Choice) (options : Options),
            startingOptions look choice.config = .ok options →
              (Request.parse file choice).run look = .ok ⟨0, overview.text,
                reports (choice.verbose.getD options.verbose) assembly.failures⟩ := by
  refine ⟨Overview.legible, Overview.text_injective, ?_⟩
  obtain ⟨_, found, _⟩ := Build.exists_of_bind_ok assembled
  obtain ⟨project, within, _⟩ := Build.Sections.find_ok found
  have first := Element.first_of_find? within
  obtain ⟨sections, own, shown⟩ := exists_sections first assembled
  obtain ⟨overview, told, same⟩ := exists_told sections
  refine ⟨project, sections, overview, first, own, told, fun _ again => again.unique told,
    told.length_lines, fun choice options given => ?_⟩
  have done := @run_of_options look choice.verbose choice.config .parse file options given
  rw [assembleFile_of_assemble loaded assembled] at done
  rw [← same, ← shown]
  exact done

/-- A text with names that need quotes. One scenario has no name, and one step is of no kind. -/
def awkwardSource : String :=
  "<project><name>&#10;</name><description/><scenarios><scenario/><scenario><name>'</name>" ++
    "<steps><x/></steps></scenario></scenarios><actionwords/></project>"

/-- The sections of the project in that file. -/
def awkwardSections : Sections :=
  ⟨.leaf "name" "\n", .leaf "description" "",
    .branch "scenarios" [.branch "scenario" [],
      .branch "scenario" [.leaf "name" "'", .branch "steps" [.branch "x" []]]],
    .branch "actionwords" []⟩

/-- The project in that file. -/
def awkward : Element :=
  .branch "project" [awkwardSections.name, awkwardSections.description, awkwardSections.scenarios,
    awkwardSections.actionwords]

/-- A file with that text. -/
def awkwardFile : Location → Found :=
  fun _ => .bytes awkwardSource.toUTF8

set_option maxRecDepth 2000 in
theorem load_awkwardSource (path : Option String) :
    Document.load awkwardSource path = .ok awkward := by
  rfl

theorem loadFile_awkwardFile (file : Location) : Build.loadFile awkwardFile file = .ok awkward := by
  have free : '\r' ∉ awkwardSource.toList := by decide +kernel
  rw [Build.loadFile, awkwardFile, File.text_bytes_toUTF8, Xml.unifyText,
    Text.unifyNewlines_of_free free, String.ofList_toList]
  simp only [load_awkwardSource]
  rfl

/-- What is told of that file. -/
def awkwardOverview : Overview :=
  ⟨"\n", 2, 0, [⟨"'", 1⟩], []⟩

theorem told_awkward : Told awkwardSections awkwardOverview where
  name := by simp [awkwardSections, awkwardOverview]
  scenarioCount := rfl
  actionwordCount := rfl
  scenarios := by
    let scenario : Element :=
      .branch "scenario" [.leaf "name" "'", .branch "steps" [.branch "x" []]]
    have built : (childrenTagged awkwardSections.scenarios "scenario").filter isBuilt =
        [scenario] := rfl
    have tallied : Tallied scenario ⟨(Element.leaf "name" "'").content, 1⟩ := .intro rfl
    rw [Element.content_leaf] at tallied
    rw [built]
    exact .cons tallied .nil
  actionwords := .nil

theorem summary_unambiguous_awkward :
    Build.loadFile awkwardFile (.ofText "project.xml") = .ok awkward ∧
      awkwardOverview.text = "Parsed project '\\n': 2 scenarios, 0 actionwords.\n" ++
        "  scenario \"'\": 1 steps\n" ∧
      Overview.read? awkwardOverview.text = some awkwardOverview ∧
      (Request.parse (.ofText "project.xml") {}).run awkwardFile =
        .ok ⟨0, awkwardOverview.text, []⟩ := by
  obtain ⟨legible, _, project, sections, overview, first, own, told, unique, _, shown⟩ :=
    @summary_unambiguous awkwardFile (.ofText "project.xml") awkward _ (loadFile_awkwardFile _) rfl
  obtain rfl := (Element.first_self rfl).unique first
  obtain ⟨name, description, scenarios, actionwords⟩ := sections
  obtain rfl := Option.some.inj own.name
  obtain rfl := Option.some.inj own.description
  obtain rfl := Option.some.inj own.scenarios
  obtain rfl := Option.some.inj own.actionwords
  obtain rfl := unique _ told_awkward
  exact ⟨loadFile_awkwardFile _, rfl, (legible _).found, shown {} {} rfl⟩

end Command

end ScenarioTree
