/-
This file shows that input is reported as a defect only where a run of digits is too long to be
read. All other causes of failure are expected ones, so the question is which failures there are:
every failure arises at a part that is visited, either an element whose own rule fails or a wrapper
that holds no element, and what is visited does not depend on what has failed. A wrapper is never
read, so a wrapper of digits that happens to have the tag of a number fails for an expected cause.

Without reports of what is expected, therefore, nothing is reported exactly when no such run of
digits is built.
-/

import ScenarioTree.Proofs.Agreement
import ScenarioTree.Proofs.Containment
import ScenarioTree.Proofs.Declared
import ScenarioTree.Proofs.Note
import ScenarioTree.Proofs.Numeral
import ScenarioTree.Proofs.Spelling

namespace ScenarioTree

open ScenarioTree.Xml (Element)

/-! ### Runs of digits -/

namespace Number

/-- What stands before the digits of an integer: a sign or nothing. -/
def signs : List (List Char) := [[], ['+'], ['-']]

theorem exists_sign_of_splitSign {characters digits : List Char} {negative : Bool}
    (split : splitSign characters = (negative, digits)) :
    ∃ sign ∈ signs, characters = sign ++ digits := by
  rw [splitSign.eq_def] at split
  split at split
  · cases split
    exact ⟨['-'], by simp [signs], rfl⟩
  · cases split
    exact ⟨['+'], by simp [signs], rfl⟩
  · cases split
    exact ⟨[], by simp [signs], rfl⟩

theorem exists_splitSign {sign digits : List Char} (member : sign ∈ signs)
    (all : ∀ digit ∈ digits, isDigit digit) :
    ∃ negative, splitSign (sign ++ digits) = (negative, digits) := by
  simp only [signs, List.mem_cons, List.not_mem_nil, or_false] at member
  rcases member with rfl | rfl | rfl
  · -- the first digit is no sign
    rw [List.nil_append, splitSign.eq_def]
    split
    · exact absurd (all '-' List.mem_cons_self) (by decide)
    · exact absurd (all '+' List.mem_cons_self) (by decide)
    · exact ⟨false, rfl⟩
  · exact ⟨false, rfl⟩
  · exact ⟨true, rfl⟩

/-- The integers as they are written: digits, perhaps with a sign. -/
theorem exists_integerDigits?_iff {characters digits : List Char} :
    (∃ negative, integerDigits? characters = some (negative, digits)) ↔
      digits ≠ [] ∧ (∀ digit ∈ digits, isDigit digit) ∧
        ∃ sign ∈ signs, characters = sign ++ digits := by
  constructor
  · rintro ⟨negative, found⟩
    have all := digits_of_integerDigits? found
    rw [integerDigits?] at found
    cases known : splitSign characters with | mk minus rest =>
    rw [known] at found
    simp only at found
    split at found
    · cases found
    · next kept =>
      cases found
      refine ⟨fun none => ?_, all, exists_sign_of_splitSign known⟩
      simp [none] at kept
  · rintro ⟨some, all, sign, member, rfl⟩
    obtain ⟨negative, split⟩ := exists_splitSign member all
    refine ⟨negative, ?_⟩
    rw [integerDigits?, split]
    simp [some, List.all_eq_true.mpr all]

/-- The only texts that are refused for their length are runs of too many digits. -/
theorem ofCharacters_tooLong_iff {characters : List Char} :
    (∃ count, ofCharacters characters = .error (.tooLong count)) ↔
      ∃ digits, (∃ negative, integerDigits? characters = some (negative, digits)) ∧
        digitLimit < digits.length := by
  rw [ofCharacters]
  cases found : integerDigits? characters with
  | none =>
    constructor
    · rintro ⟨count, refused⟩
      simp only at refused
      split at refused
      · cases refused
      · split at refused <;> cases refused
    · rintro ⟨_, ⟨_, absent⟩, _⟩
      cases absent
  | some written =>
    obtain ⟨negative, digits⟩ := written
    simp only
    constructor
    · rintro ⟨count, refused⟩
      split at refused
      · next long => exact ⟨digits, ⟨negative, rfl⟩, long⟩
      · cases refused
    · rintro ⟨_, ⟨_, same⟩, long⟩
      cases same
      exact ⟨digits.length, if_pos long⟩

end Number

namespace Build

/-- A number with too many digits to be read: zeros that lead count, a sign does not. -/
structure Overlong (element : Element) : Prop where
  named : element.tag = "numericliteral" ∨ element.tag = "numeric"
  written : ∃ sign digits, (sign = [] ∨ sign = ['+'] ∨ sign = ['-']) ∧
    Text.trim element.content.toList = sign ++ digits ∧
    (∀ digit ∈ digits, '0' ≤ digit ∧ digit ≤ '9') ∧ 4300 < digits.length

theorem ofTag?_number_iff {tag : String} :
    Kind.ofTag? tag = some .number ↔ tag = "numericliteral" ∨ tag = "numeric" := by
  constructor
  · intro announced
    obtain ⟨before, behind, split, -⟩ := List.lookup_eq_some_iff.mp announced
    have member : (tag, Kind.number) ∈ Kind.tags := by
      rw [split]
      exact List.mem_append_right before List.mem_cons_self
    simpa [Kind.tags] using member
  · rintro (rfl | rfl) <;> rfl

/-- In terms of the rule: an element that is read as a number and refused for its length. -/
theorem overlong_iff {element : Element} :
    Overlong element ↔ Kind.ofTag? element.tag = some .number ∧
      ∃ count, Number.ofText element.content = .error (.tooLong count) := by
  have digit (character : Char) :
      Number.isDigit character = true ↔ '0' ≤ character ∧ character ≤ '9' := by
    rw [Number.isDigit, Bool.and_eq_true, decide_eq_true_iff, decide_eq_true_iff]
  rw [ofTag?_number_iff]
  simp only [Number.ofText, Number.ofCharacters_tooLong_iff, Number.exists_integerDigits?_iff,
    Number.signs, List.mem_cons, List.not_mem_nil, or_false, digit, Number.digitLimit]
  constructor
  · rintro ⟨named, sign, digits, member, written, all, long⟩
    refine ⟨named, digits, ⟨fun none => ?_, all, sign, member, written⟩, long⟩
    simp [none] at long
  · rintro ⟨named, digits, ⟨-, all, sign, member, written⟩, long⟩
    exact ⟨named, sign, digits, member, written, all, long⟩

/-- A number that is written with ones only. -/
def repunit (count : Nat) : Element :=
  ⟨⟨"", "numeric"⟩, [], .ofText (String.ofList (List.replicate count '1')), [], .empty⟩

theorem overlong_repunit {count : Nat} (long : 4300 < count) : Overlong (repunit count) := by
  have content : (repunit count).content.toList = List.replicate count '1' := by
    simp [repunit, Element.content, Element.contentOfChildren, Xml.Run.content, Xml.Run.ofText]
  have visible : ∀ character ∈ List.replicate count '1', Text.isBlank character = false := by
    intro character member
    obtain rfl := List.eq_of_mem_replicate member
    rfl
  refine ⟨.inr rfl, [], List.replicate count '1', .inl rfl, ?_, fun digit member => ?_, ?_⟩
  · rw [content, Text.trim_of_visible visible, List.nil_append]
  · obtain rfl := List.eq_of_mem_replicate member
    decide
  · rw [List.length_replicate]
    exact long

/-! ### Defects that are not expected -/

theorem unexpected_iff {cause : Cause} :
    cause.unexpected = true ↔ ∃ count, cause = .tooLong count := by
  cases cause <;> simp [Cause.unexpected, Cause.kind?]

/-- Of the defects of an element only its length is not expected. -/
theorem Defect.unexpected_iff {element : Element} {cause : Cause} (defect : Defect element cause) :
    cause.unexpected = true ↔ Overlong element := by
  rw [Build.unexpected_iff, overlong_iff]
  constructor
  · rintro ⟨count, rfl⟩
    generalize named : Cause.tooLong count = cause at defect
    cases defect with
    | @number refusal announced refused =>
      cases refusal with
      | tooLong count => exact ⟨announced, count, refused⟩
      | _ => cases named
    | _ => cases named
  · rintro ⟨announced, count, refused⟩
    cases defect with
    | @number refusal _ other =>
      obtain rfl := Except.error.inj (refused.symm.trans other)
      exact ⟨count, rfl⟩
    | child known required _ =>
      -- a number requires no child
      obtain rfl := Option.some.inj (announced.symm.trans known)
      cases required
    | kind known | boolean known | name known | payload known | role known =>
      rw [announced] at known
      cases known

/-- What an element lacks is never what an empty wrapper is reported for. -/
theorem Defect.ne_missingElementChild {element : Element} {cause : Cause}
    (defect : Defect element cause) (tag : String) : cause ≠ .missingElementChild tag := by
  cases defect with
  | @number refusal => cases refusal <;> exact Cause.noConfusion
  | _ => exact Cause.noConfusion

/-- An overlong number is a defect of its element. -/
theorem Overlong.exists_defect {element : Element} (overlong : Overlong element) :
    ∃ cause, Defect element cause := by
  obtain ⟨announced, count, refused⟩ := overlong_iff.mp overlong
  exact ⟨_, .number announced refused⟩

/-! ### Where failures arise -/

/-- The failures that are left where a part is built. -/
def Part.failures (part : Part) : List Failure :=
  (part.build fun found => (Build.build found).yield).failures

/-- The failure of a part itself: of an element, if it fails, and of a wrapper that holds none. -/
inductive Part.FailsWith : Part → Failure → Prop where
  | element {found : Element} {failure : Failure}
    (failed : (Build.build found).result = .error failure) :
    (Part.element found).FailsWith failure
  | vacant (holder : Element) :
    (Part.vacant holder).FailsWith ⟨holder, .missingElementChild holder.tag⟩

/-- An element leaves the failures of the parts that its rule asks for, and its own. -/
theorem failures_eq_parts (element : Element) :
    (build element).failures =
      (planOf element).parts.flatMap Part.failures ++ (ownFailure element).map Prod.snd := by
  rw [failures_eq, ← map_part_reached, List.flatMap_map]
  rfl

/-- A failure of an element that is visited arose at a part that is visited. -/
theorem exists_visited_of_mem {starts : List Element} {failure : Failure} (element : Element)
    (visited : Visited starts (.element element)) (member : failure ∈ (build element).failures) :
    ∃ part, Visited starts part ∧ part.FailsWith failure := by
  induction element using sitesOf_induction with
  | step element inner =>
    rw [failures_eq_parts] at member
    rcases List.mem_append.mp member with member | own
    · obtain ⟨part, asked, member⟩ := List.mem_flatMap.mp member
      have partVisited := visited.part asked
      cases part with
      | vacant holder =>
        obtain rfl := List.mem_singleton.mp member
        exact ⟨_, partVisited, .vacant holder⟩
      | element found =>
        rw [← map_part_reached] at asked
        obtain ⟨site, reached, is⟩ := List.mem_map.mp asked
        exact inner site (mem_sitesOf_of_mem_reached reached) found is partVisited member
    · refine ⟨_, visited, .element ?_⟩
      cases result : (build element).result with
      | ok node =>
        rw [ownFailure_of_ok result] at own
        cases own
      | error found =>
        rw [ownFailure_of_error result] at own
        obtain rfl := List.mem_singleton.mp own
        rfl

/-- The failures of a part that is visited are among those of the elements at the start. -/
theorem Visited.mem_failures {starts : List Element} {part : Part} (visited : Visited starts part)
    {failure : Failure} (member : failure ∈ part.failures) :
    failure ∈ (buildAll starts).failures := by
  induction visited with
  | @start element found =>
    exact List.mem_flatMap.mpr ⟨build element, List.mem_map_of_mem found, member⟩
  | @part element part _ asked induction =>
    refine induction ?_
    have inside : failure ∈ (planOf element).parts.flatMap Part.failures :=
      List.mem_flatMap.mpr ⟨part, asked, member⟩
    show failure ∈ (build element).failures
    rw [failures_eq_parts]
    exact List.mem_append_left _ inside

/-- The failures that are left are those of the parts that are visited. -/
theorem mem_failures_buildAll_iff {starts : List Element} {failure : Failure} :
    failure ∈ (buildAll starts).failures ↔
      ∃ part, Visited starts part ∧ part.FailsWith failure := by
  constructor
  · intro member
    obtain ⟨outcome, found, member⟩ := List.mem_flatMap.mp member
    obtain ⟨element, start, rfl⟩ := List.mem_map.mp found
    exact exists_visited_of_mem element (.start start) member
  · rintro ⟨part, visited, fails⟩
    refine visited.mem_failures ?_
    cases fails with
    | vacant holder => exact List.mem_singleton.mpr rfl
    | @element found failure failed =>
      show failure ∈ (build found).failures
      rw [Outcome.failures_of_error failed]
      exact List.mem_append_right _ (List.mem_singleton.mpr rfl)

/-! ### Failures that are not expected -/

/-- A failure is not expected exactly when its element is an overlong number, unless that is a
wrapper which is reported because it holds no element. -/
def Failure.Explained (failure : Failure) : Prop :=
  failure.unexpected = true ↔ Overlong failure.element ∧
    failure.cause ≠ .missingElementChild failure.element.tag

theorem Part.FailsWith.explained {part : Part} {failure : Failure}
    (fails : part.FailsWith failure) : failure.Explained := by
  rw [Failure.Explained, Failure.unexpected]
  cases fails with
  | vacant holder =>
    constructor
    · intro unexpected
      cases unexpected
    · rintro ⟨-, other⟩
      exact absurd rfl other
  | element failed =>
    obtain ⟨rfl, defect⟩ := defect_of_build_error failed
    rw [defect.unexpected_iff]
    exact ⟨fun overlong => ⟨overlong, defect.ne_missingElementChild _⟩, And.left⟩

theorem explained_of_mem {starts : List Element} {failure : Failure}
    (member : failure ∈ (buildAll starts).failures) : failure.Explained := by
  obtain ⟨part, _, fails⟩ := mem_failures_buildAll_iff.mp member
  exact fails.explained

/-- Whether none of the elements that are built on the way is an overlong number. -/
def Readable (starts : List Element) : Prop :=
  ∀ element, Visited starts (.element element) → ¬ Overlong element

/-- All failures are expected exactly when no overlong number is built. -/
theorem filter_unexpected_eq_nil_iff {starts : List Element} :
    (buildAll starts).failures.filter Failure.unexpected = [] ↔ Readable starts := by
  rw [List.filter_eq_nil_iff]
  constructor
  · intro expected element visited overlong
    obtain ⟨failure, failed⟩ := build_error_iff.mpr overlong.exists_defect
    have member := mem_failures_buildAll_iff.mpr ⟨_, visited, .element failed⟩
    obtain ⟨-, defect⟩ := defect_of_build_error failed
    exact expected failure member (defect.unexpected_iff.mpr overlong)
  · intro readable failure member unexpected
    obtain ⟨part, visited, fails⟩ := mem_failures_buildAll_iff.mp member
    cases fails with
    | vacant holder => cases unexpected
    | element failed =>
      obtain ⟨-, defect⟩ := defect_of_build_error failed
      exact readable _ visited (defect.unexpected_iff.mp unexpected)

theorem failures_buildAll_singleton (element : Element) :
    (buildAll [element]).failures = (build element).failures := by
  simp [buildAll]

/-- A project leaves the failures of the elements that are built for it. -/
theorem failures_of_assemble {root : Element} {assembly : Assembly}
    (assembled : assemble root = .ok assembly) :
    assembly.failures = (buildAll (projectElements root)).failures := by
  obtain ⟨sections, found, made⟩ := exists_of_bind_ok assembled
  cases made
  simp [projectElements, found, buildAll]

/-! ### Runs of a session -/

namespace Session

/-- Whether what an operation builds is built by the rules of its own tags. -/
def Operation.ByRule : Operation → Prop
  | .carryOut _ => False
  | _ => True

/-- All failures of a session are explained. -/
def Explained (session : Session) : Prop :=
  ∀ failure ∈ session.failures, failure.Explained

theorem Explained.noting {session : Session} (explained : session.Explained)
    (starts : List Element) : (session.noting (buildAll starts).failures).Explained := by
  intro failure member
  rw [noting_failures] at member
  rcases List.mem_append.mp member with member | member
  · exact explained failure member
  · exact explained_of_mem member

theorem explained_assemble (session : Session) : session.assemble.2.Explained := by
  intro failure member
  cases found : Sections.find session.root with
  | error fault =>
    rw [assemble_of_error found] at member
    cases member
  | ok sections =>
    obtain ⟨assembly, assembled⟩ := assembled_of_find found
    rw [assemble_of_ok assembled, failures_of_assemble assembled] at member
    exact explained_of_mem member

/-- One operation leaves only explained failures. -/
theorem Explained.after {session : Session} (explained : session.Explained)
    {operation : Operation} (byRule : operation.ByRule) : (session.after operation).Explained := by
  cases operation with
  | build element =>
    rw [Session.after, build_eq, ← failures_buildAll_singleton]
    exact explained.noting [element]
  | node element =>
    rw [Session.after, node_eq, ← failures_buildAll_singleton]
    exact explained.noting [element]
  | nodes elements =>
    rw [Session.after, nodes_eq]
    exact explained.noting elements
  | carryOut plan => exact byRule.elim
  | assemble => exact explained_assemble session
  | on root => exact explained

theorem Explained.run {session : Session} (explained : session.Explained)
    {operations : List Operation} (byRule : ∀ operation ∈ operations, operation.ByRule) :
    (session.run operations).Explained := by
  induction operations generalizing session with
  | nil => exact explained
  | cons operation rest induction =>
    exact induction (explained.after (byRule operation List.mem_cons_self))
      fun other member => byRule other (List.mem_cons_of_mem _ member)

/-! ### Reports of a quiet session -/

theorem diagnostics_quiet_noting {session : Session} (quiet : session.verbose = false)
    (starts : List Element) :
    (session.noting (buildAll starts).failures).diagnostics = session.diagnostics ↔
      Readable starts := by
  rw [noting_diagnostics, quiet, filter_reported, if_neg Bool.false_ne_true,
    List.append_right_eq_self, filter_unexpected_eq_nil_iff]

theorem diagnostics_quiet_assemble {session : Session} (quiet : session.verbose = false) :
    session.assemble.2.diagnostics = [] ↔ Readable (projectElements session.root) := by
  cases found : Sections.find session.root with
  | error fault =>
    have nothing : projectElements session.root = [] := by rw [projectElements, found]
    rw [assemble_of_error found, nothing]
    exact ⟨fun _ => filter_unexpected_eq_nil_iff.mp rfl, fun _ => rfl⟩
  | ok sections =>
    obtain ⟨assembly, assembled⟩ := assembled_of_find found
    rw [assemble_of_ok assembled, failures_of_assemble assembled, quiet, filter_reported,
      if_neg Bool.false_ne_true, filter_unexpected_eq_nil_iff]

end Session

end Build

/-! ### Commands -/

namespace Command

open ScenarioTree.Build
open ScenarioTree.File (Found Location)

/-- Nothing is written to the standard error stream exactly if there is no line for it. -/
theorem errorText_eq_empty_iff (colour : Bool) (output : Output) :
    output.errorText colour = "" ↔ output.stderr = [] := by
  rw [Output.errorText]
  cases output.stderr with
  | nil => simp
  | cons line rest => simp [Line.write]

theorem reports_eq_nil_iff (verbose : Bool) (failures : List Failure) :
    reports verbose failures = [] ↔ failures.filter (·.reported verbose) = [] := by
  rw [reports, List.map_eq_nil_iff]

/-- A request to show the project of a file, with a choice of options that leaves out the reports of
what is expected. -/
inductive Quiet (look : Location → Found) (file : Location) : Request → Prop where
  | parse {choice : Choice} {options : Options} (chosen : optionsOf look choice = .ok options)
    (quiet : options.verbose = false) : Quiet look file (.parse file choice)
  | dump {choice : Choice} {options : Options} (chosen : optionsOf look choice = .ok options)
    (quiet : options.verbose = false) : Quiet look file (.dump file choice)

/-- The project of a file is that of its text. -/
theorem exists_of_assembleFile {look : Location → Found} {file : Location} {assembly : Assembly}
    (assembled : assembleFile look file = .ok assembly) :
    ∃ source root, (look file).text = .ok source ∧
      Document.load source (some file.text) = .ok root ∧ Build.assemble root = .ok assembly := by
  rw [assembleFile] at assembled
  split at assembled
  · have parsed := Xml.ok_of_mapError assembled
    rw [parseFile] at parsed
    split at parsed
    · cases parsed
    · next source read =>
      obtain ⟨root, loaded, assembled⟩ :=
        Answers.exists_of_parse_ok (Xml.ok_of_mapError parsed)
      exact ⟨source, root, read, loaded, assembled⟩
  · cases assembled

/-- What a command shows a project with. -/
theorem showing_ok {look : Location → Found} {file : Location} {choice : Choice}
    {options : Options} {shown : Project → String} {output : Output}
    (chosen : optionsOf look choice = .ok options)
    (done : showing look file choice shown = .ok output) :
    ∃ assembly, assembleFile look file = .ok assembly ∧
      output.stderr = reports options.verbose assembly.failures := by
  rw [showing] at done
  obtain ⟨other, found, done⟩ := exists_of_bind_ok done
  obtain rfl := Except.ok.inj (chosen.symm.trans found)
  obtain ⟨assembly, assembled, done⟩ := exists_of_bind_ok done
  cases done
  exact ⟨assembly, assembled, rfl⟩

/-- A command that stops early does not succeed. -/
theorem attempt_of_run {look : Location → Found} {request : Request} {output : Output}
    (done : request.run look = .ok output) (success : output.exit = 0) :
    request.attempt look = .ok output := by
  rw [Request.run] at done
  split at done
  · next found attempted => rw [attempted, Except.ok.inj done]
  · obtain rfl := Except.ok.inj done
    cases success
  · cases done

theorem Quiet.exists_assembly {look : Location → Found} {file : Location} {request : Request}
    (quiet : Quiet look file request) {output : Output} (done : request.run look = .ok output)
    (success : output.exit = 0) :
    ∃ assembly, assembleFile look file = .ok assembly ∧
      output.stderr = reports false assembly.failures := by
  have attempted := attempt_of_run done success
  cases quiet with
  | parse chosen quiet => exact quiet ▸ showing_ok chosen attempted
  | dump chosen quiet => exact quiet ▸ showing_ok chosen attempted

/-- Only overlong numbers are reported as defects. A failure of a session is not expected exactly
when its element is an overlong number, and not a wrapper that is reported because it holds no
element. So a session that reports only such failures reports nothing exactly when no overlong
number is among the elements that it builds, and likewise a command that shows a project without
other reports writes nothing to the standard error stream. -/
theorem unexpected_iff_overlong :
    (∀ (root : Element) (verbose : Bool) (path : Option String)
      (operations : List Session.Operation), (∀ operation ∈ operations, operation.ByRule) →
        ∀ failure ∈ ((Session.start root verbose path).run operations).failures,
          (failure.unexpected = true ↔ Overlong failure.element ∧
            failure.cause ≠ .missingElementChild failure.element.tag)) ∧
    (∀ (session : Session) (element : Element),
      ((session.reporting false).build element).2.diagnostics = session.diagnostics ↔
        Readable [element]) ∧
    (∀ session : Session, (session.reporting false).assemble.2.diagnostics = [] ↔
      Readable (projectElements session.root)) ∧
    ∀ (look : Location → Found) (file : Location) (request : Request) (output : Output),
      Quiet look file request → request.run look = .ok output → output.exit = 0 →
        ∃ source root, (look file).text = .ok source ∧
          Document.load source (some file.text) = .ok root ∧
            ∀ colour, output.errorText colour = "" ↔ Readable (projectElements root) := by
  refine ⟨?_, ?_, ?_, ?_⟩
  · intro root verbose path operations byRule
    have fresh : (Session.start root verbose path).Explained :=
      fun _ member => absurd member List.not_mem_nil
    exact fresh.run byRule
  · intro session element
    rw [Session.build_eq, ← failures_buildAll_singleton]
    exact @Session.diagnostics_quiet_noting (session.reporting false) rfl [element]
  · intro session
    exact @Session.diagnostics_quiet_assemble (session.reporting false) rfl
  · intro look file request output quiet done success
    obtain ⟨assembly, assembled, shown⟩ := quiet.exists_assembly done success
    obtain ⟨source, root, read, loaded, assembled⟩ := exists_of_assembleFile assembled
    refine ⟨source, root, read, loaded, fun colour => ?_⟩
    rw [errorText_eq_empty_iff, shown, reports_eq_nil_iff, failures_of_assemble assembled,
      Session.filter_reported, if_neg Bool.false_ne_true, filter_unexpected_eq_nil_iff]

/-- A file with the least text that is a project. -/
def bareFile : Location → Found :=
  fun _ => .bytes "<project><name/><description/><scenarios/><actionwords/></project>".toUTF8

/-- The project in that file. -/
def bare : Element :=
  ⟨⟨"", "project"⟩, [], .empty,
    ["name", "description", "scenarios", "actionwords"].map fun name =>
      ⟨⟨"", name⟩, [], .empty, [], .empty⟩, .empty⟩

theorem text_bareFile (file : Location) :
    (bareFile file).text =
      .ok "<project><name/><description/><scenarios/><actionwords/></project>" := by
  have free :
      '\r' ∉ "<project><name/><description/><scenarios/><actionwords/></project>".toList := by
    decide
  rw [bareFile, File.text_bytes_toUTF8, Xml.unifyText, Text.unifyNewlines_of_free free,
    String.ofList_toList]

theorem load_bareFile (path : Option String) :
    Document.load "<project><name/><description/><scenarios/><actionwords/></project>" path =
      .ok bare := rfl

/-- What is written about that file. -/
def bareOutput : Output :=
  ⟨0, "Parsed project '': 0 scenarios, 0 actionwords.\n", []⟩

theorem run_bareFile (file : Location) :
    (Request.parse file {}).run bareFile = .ok bareOutput := by
  have built : assembleFile bareFile file = .ok ⟨⟨"", "", [], []⟩, []⟩ := by
    rw [assembleFile, if_pos (by rfl), Build.parseFile, text_bareFile]
    simp only [Build.parse, load_bareFile]
    rfl
  rw [Request.run, Request.attempt, showing]
  rw [(rfl : optionsOf bareFile {} = .ok {})]
  simp only [built]
  rfl

/-- A session that builds an overlong number has a failure of it that is no empty wrapper. -/
theorem exists_failure_of_overlong {element : Element} (overlong : Overlong element) :
    ∃ failure ∈ ((Session.start element false none).run [.build element]).failures,
      Overlong failure.element ∧ failure.cause ≠ .missingElementChild failure.element.tag := by
  obtain ⟨failure, failed⟩ := build_error_iff.mpr overlong.exists_defect
  obtain ⟨rfl, defect⟩ := defect_of_build_error failed
  refine ⟨failure, ?_, overlong, defect.ne_missingElementChild _⟩
  show failure ∈ ((Session.start failure.element false none).build failure.element).2.failures
  rw [Session.build_eq, Session.noting_failures, Outcome.failures_of_error failed]
  exact List.mem_append_right _ (List.mem_append_right _ (List.mem_singleton.mpr rfl))

/-- An overlong number that is built is reported as a defect, and an empty project without any. -/
theorem unexpected_iff_overlong_repunit :
    (∃ failure ∈ ((Session.start (repunit 4301) false none).run [.build (repunit 4301)]).failures,
      failure.unexpected = true) ∧
    (Request.parse (.ofText "project.xml") {}).run bareFile = .ok bareOutput ∧
      bareOutput.exit = 0 ∧ bareOutput.errorText false = "" := by
  obtain ⟨told, _, _, shown⟩ := unexpected_iff_overlong
  constructor
  · have byRule : ∀ operation ∈ [Session.Operation.build (repunit 4301)], operation.ByRule := by
      simp [Session.Operation.ByRule]
    obtain ⟨failure, member, wrong⟩ :=
      exists_failure_of_overlong (overlong_repunit (by decide : 4300 < 4301))
    exact ⟨failure, member, (told _ false none _ byRule failure member).mpr wrong⟩
  · have done := run_bareFile (.ofText "project.xml")
    obtain ⟨source, root, found, loaded, quiet⟩ :=
      shown bareFile _ _ bareOutput (.parse rfl rfl) done rfl
    obtain rfl := Except.ok.inj (found.symm.trans (text_bareFile _))
    obtain rfl := Except.ok.inj (loaded.symm.trans (load_bareFile _))
    exact ⟨done, rfl, (quiet false).mpr (filter_unexpected_eq_nil_iff.mp rfl)⟩

/-- A dictionary with one entry. -/
def dictOf (entry : Element) : Element :=
  ⟨⟨"", "dict"⟩, [], .empty, [entry], .empty⟩

theorem failures_dictOf_vacant (name : Xml.Name) (attributes : List Xml.Attribute)
    (text tail : Xml.Run) :
    (build (dictOf ⟨name, attributes, text, [], tail⟩)).failures =
      [⟨⟨name, attributes, text, [], tail⟩,
        .missingElementChild (Element.tag ⟨name, attributes, text, [], tail⟩)⟩] := rfl

/-- A wrapper that has the tag of a number is not read as one, however long its digits are: it is
reported, as can be expected, because it holds no element. -/
theorem overlong_wrapper_is_expected :
    ∃ failure ∈ ((Session.start (dictOf (repunit 4301)) false none).build
        (dictOf (repunit 4301))).2.failures,
      Overlong failure.element ∧ failure.unexpected = false := by
  refine ⟨⟨repunit 4301, .missingElementChild "numeric"⟩, ?_, overlong_repunit (by decide), rfl⟩
  rw [Session.build_eq, Session.noting_failures, repunit, failures_dictOf_vacant]
  exact List.mem_append_right _ (List.mem_singleton.mpr rfl)

end Command

end ScenarioTree
