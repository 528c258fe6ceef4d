/-
This file shows that a document which is cut off inside its root is never accepted. Where the root
ends is told by the outline of the document alone: at the character with which the first tag is
closed. There is one such place in every document that can be loaded. Before it, a reader has an
outline that is not behind the root, so it is in the prolog or in the content, and in both the end
of the source is a fault.

Line ends do not interfere. Cutting between the two characters of a line end gives a spelling of the
same line end, and the one character that a cut may leave differently spelled changes the place of
a fault and not whether there is one.
-/

import Mathlib.Data.List.Induction
import ScenarioTree.Proofs.Agreement
import ScenarioTree.Proofs.Outline

namespace ScenarioTree

/-! ### Beginnings of texts -/

namespace Text

/-- One more character adds itself, or a line feed, or nothing if it completes a line end. -/
theorem unifyNewlines_concat (characters : List Char) (last : Char) :
    unifyNewlines (characters ++ [last]) = unifyNewlines characters ∨
      ∃ added, (added = '\n' ∨ added = last) ∧
        unifyNewlines (characters ++ [last]) = unifyNewlines characters ++ [added] := by
  -- what is added behind the rest is added behind a line end or another character before it
  have behind {first : Char} {rest : List Char}
      (added : unifyNewlines (rest ++ [last]) = unifyNewlines rest ∨
        ∃ added, (added = '\n' ∨ added = last) ∧
          unifyNewlines (rest ++ [last]) = unifyNewlines rest ++ [added]) :
      first :: unifyNewlines (rest ++ [last]) = first :: unifyNewlines rest ∨
        ∃ added, (added = '\n' ∨ added = last) ∧
          first :: unifyNewlines (rest ++ [last]) = first :: unifyNewlines rest ++ [added] := by
    rcases added with same | ⟨added, known, longer⟩
    · exact .inl (congrArg _ same)
    · exact .inr ⟨added, known, congrArg _ longer⟩
  induction characters using unifyNewlines.induct with
  | case1 =>
    by_cases returned : last = '\r'
    · subst returned
      exact .inr ⟨'\n', .inl rfl, rfl⟩
    · exact .inr ⟨last, .inr rfl, unifyNewlines_cons returned []⟩
  | case2 rest induction => exact behind induction
  | case3 rest other induction =>
    by_cases completes : (rest ++ [last]).head? = some '\n'
    · cases rest with
      | nil =>
        obtain rfl := Option.some.inj completes
        exact .inl rfl
      | cons second more =>
        obtain rfl := Option.some.inj completes
        exact (other more rfl).elim
    · rw [List.cons_append, unifyNewlines_return completes, unifyNewlines_alone other]
      exact behind induction
  | case4 character rest _ other induction =>
    rw [List.cons_append, unifyNewlines_cons other, unifyNewlines_cons other]
    exact behind induction

theorem unifyNewlines_prefix {shorter longer : List Char} (begins : shorter <+: longer) :
    unifyNewlines shorter <+: unifyNewlines longer := by
  obtain ⟨more, rfl⟩ := begins
  induction more using List.reverseRecOn with
  | nil => exact ⟨[], by rw [List.append_nil, List.append_nil]⟩
  | append_singleton more last induction =>
    rw [← List.append_assoc]
    refine induction.trans ?_
    rcases unifyNewlines_concat (shorter ++ more) last with same | ⟨added, _, longer⟩
    · exact ⟨[], by rw [List.append_nil, same]⟩
    · exact ⟨[added], longer.symm⟩

end Text

namespace Xml

open Text (unifyNewlines)

/-! ### The end of the root -/

/-- Whether some characters hold the whole root. -/
def ClosesRoot (characters : List Char) : Prop :=
  Outline.ofCharacters (unifyNewlines characters) = some .behind

instance : DecidablePred ClosesRoot := fun characters =>
  inferInstanceAs (Decidable (Outline.ofCharacters (unifyNewlines characters) = some .behind))

/-- Some characters up to the end of the root: the last one closes it. -/
structure EndsRoot (body : List Char) : Prop where
  closes : ClosesRoot body
  fresh : ¬ ClosesRoot body.dropLast

theorem ClosesRoot.of_prefix {shorter longer : List Char} (closes : ClosesRoot shorter)
    (begins : shorter <+: longer) : ClosesRoot longer := by
  obtain ⟨more, longer⟩ := Text.unifyNewlines_prefix begins
  rw [ClosesRoot, ← longer]
  exact Outline.ofCharacters_append_of_behind closes more

theorem not_closesRoot_nil : ¬ ClosesRoot [] := by decide

/-- What is cut off before the last character is a beginning of what stands before it. -/
theorem prefix_dropLast {cut body : List Char} (begins : cut <+: body) (proper : cut ≠ body) :
    cut <+: body.dropLast := by
  obtain ⟨more, rfl⟩ := begins
  cases more using List.reverseRecOn with
  | nil => exact absurd (List.append_nil cut).symm proper
  | append_singleton more last =>
    rw [← List.append_assoc, List.dropLast_concat]
    exact List.prefix_append cut more

theorem EndsRoot.not_closesRoot {body cut : List Char} (ends : EndsRoot body)
    (begins : cut <+: body) (proper : cut ≠ body) : ¬ ClosesRoot cut :=
  fun closes => ends.fresh (closes.of_prefix (prefix_dropLast begins proper))

/-- There is one end of the root. -/
theorem existsUnique_endsRoot {characters : List Char} (closes : ClosesRoot characters) :
    ∃! body, body <+: characters ∧ EndsRoot body := by
  have some : ∃ body, body <+: characters ∧ EndsRoot body := by
    induction characters using List.reverseRecOn with
    | nil => exact absurd closes not_closesRoot_nil
    | append_singleton before last induction =>
      by_cases early : ClosesRoot before
      · obtain ⟨body, begins, ends⟩ := induction early
        exact ⟨body, begins.trans (List.prefix_append before [last]), ends⟩
      · refine ⟨before ++ [last], List.prefix_rfl, closes, ?_⟩
        rwa [List.dropLast_concat]
  obtain ⟨body, begins, ends⟩ := some
  refine ⟨body, ⟨begins, ends⟩, fun other ⟨otherBegins, otherEnds⟩ => ?_⟩
  by_contra distinct
  rcases List.prefix_or_prefix_of_prefix begins otherBegins with inside | inside
  · exact otherEnds.not_closesRoot inside (Ne.symm distinct) ends.closes
  · exact ends.not_closesRoot inside distinct otherEnds.closes

/-- The root ends with a closing bracket, before which it is not closed. -/
theorem EndsRoot.exists_concat {body : List Char} (ends : EndsRoot body) :
    ∃ before, body = before ++ ['>'] ∧ ¬ ClosesRoot before ∧
      unifyNewlines body = unifyNewlines before ++ ['>'] := by
  obtain ⟨closes, fresh⟩ := ends
  cases body using List.reverseRecOn with
  | nil => exact absurd closes not_closesRoot_nil
  | append_singleton before last =>
    rw [List.dropLast_concat] at fresh
    rcases Text.unifyNewlines_concat before last with same | ⟨added, known, longer⟩
    · rw [ClosesRoot, same] at closes
      exact absurd closes fresh
    · rw [ClosesRoot, longer] at closes
      obtain ⟨outline, reached, stepped⟩ := Outline.exists_of_concat_behind closes
      have unclosed : outline ≠ .behind := by
        rintro rfl
        exact fresh reached
      obtain rfl := Outline.eq_of_step_behind unclosed stepped
      rcases known with other | rfl
      · cases other
      · exact ⟨before, rfl, fresh, longer⟩

/-! ### Readers that finish -/

namespace Reader

/-- Behind the root are the readers that have left it. -/
theorem exists_epilog_of_outline {reader : Reader} (regular : reader.Regular)
    (behind : reader.outline = .behind) : ∃ pending root, reader.stage = .epilog pending root := by
  obtain ⟨stage, start, here⟩ := reader
  cases stage with
  | prolog pending state => cases behind
  | content declared scan =>
    have unfinished : scan.content.root = none := regular.1
    simp [outline, Scan.outline, Content.nesting, unfinished] at behind
  | epilog pending root => exact ⟨pending, root, rfl⟩

theorem stage_ne_of_stepProlog {keep : Bool} {here : Position} {character : Char} {limit : Nat}
    {before : Doctype.Pending} {state : Doctype.State} {start : Position} {next : Reader}
    (done : stepProlog keep here character limit before state start = .ok next)
    (pending : Doctype.Pending) (root : Element) : next.stage ≠ .epilog pending root := by
  induction limit generalizing before state start with
  | zero => cases done
  | succ limit induction =>
    rw [stepProlog] at done
    split at done
    · obtain rfl := Except.ok.inj done
      rintro ⟨⟩
    · cases done
    · split at done
      · obtain ⟨_, _, done⟩ := exists_of_bind done
        obtain rfl := Except.ok.inj done
        rintro ⟨⟩
      · cases done
    · obtain ⟨_, _, done⟩ := exists_of_bind done
      obtain rfl := Except.ok.inj done
      rintro ⟨⟩
    · obtain ⟨_, _, done⟩ := exists_of_bind done
      exact induction done

/-- A reader that comes behind the root is between two marks there. -/
theorem exists_epilog_of_step {keep : Bool} {reader next : Reader} {character : Char}
    (regular : next.Regular) (before : reader.outline ≠ .behind)
    (stepped : reader.step keep character = .ok next) (behind : next.outline = .behind) :
    ∃ root start here, next = ⟨.epilog .idle root, start, here⟩ := by
  obtain ⟨pending, root, reached⟩ := exists_epilog_of_outline regular behind
  obtain ⟨stage, start, here⟩ := reader
  cases stage with
  | prolog other state => exact absurd reached (stage_ne_of_stepProlog stepped pending root)
  | content declared scan =>
    obtain ⟨scan, _, stepped⟩ := exists_of_bind stepped
    split at stepped
    · obtain rfl := Except.ok.inj stepped
      exact ⟨_, _, _, rfl⟩
    · obtain rfl := Except.ok.inj stepped
      cases reached
  | epilog other root => exact absurd rfl before

/-- The root stays as it is when more is read behind it. -/
theorem epilog_step {keep : Bool} {root : Element} {reader next : Reader}
    (before : ∃ pending, reader.stage = .epilog pending root) {character : Char}
    (stepped : reader.step keep character = .ok next) :
    ∃ pending, next.stage = .epilog pending root := by
  obtain ⟨stage, start, here⟩ := reader
  obtain ⟨pending, rfl⟩ := before
  simp only [step, stepEpilog] at stepped
  repeat' split at stepped
  all_goals
    cases stepped
    try exact ⟨_, rfl⟩

theorem root_of_foldlM {keep : Bool} {pending : Doctype.Pending} {found root : Element}
    {start here : Position} {characters : List Char} {last : Reader}
    (ran : characters.foldlM (step keep) ⟨.epilog pending found, start, here⟩ = .ok last)
    {source : List Char} (finished : last.finish source = .ok root) : root = found := by
  have started : ∃ before, (⟨.epilog pending found, start, here⟩ : Reader).stage =
      .epilog before found := ⟨pending, rfl⟩
  have ended := foldlM_keeps
    (fun reader : Reader => ∃ before, reader.stage = .epilog before found)
    (fun _ _ _ _ before stepped => epilog_step before stepped) started ran
  obtain ⟨stage, start, here⟩ := last
  obtain ⟨pending, rfl⟩ := ended
  simp only [finish] at finished
  split at finished
  · exact (Except.ok.inj finished).symm
  · cases finished
  · cases finished

/-- A reader that may end here is behind the root. -/
theorem outline_of_finish {reader : Reader} {source : List Char} {root : Element}
    (finished : reader.finish source = .ok root) : reader.outline = .behind := by
  obtain ⟨stage, start, here⟩ := reader
  cases stage with
  | prolog pending state =>
    simp only [finish] at finished
    split at finished
    · cases finished
    · cases finished
    · obtain ⟨_, _, finished⟩ := exists_of_bind finished
      cases finished
  | content declared scan => cases finished
  | epilog pending root => rfl

end Reader

/-- A source that can be read can be read in the one spelling. -/
theorem exists_reach_of_read {source : String} {root : Element}
    (done : read false source = .ok root) :
    ∃ reader, Reader.reach false (unifyNewlines source.toList) = .ok reader ∧
      reader.finish (unifyNewlines source.toList) = .ok root := by
  have unified := read_unifyText_of_ok done
  rw [read_eq, toList_unifyText, Text.unifyInner_unifyNewlines] at unified
  exact exists_of_bind unified

/-- A source that can be read holds its root. -/
theorem closesRoot_of_read {source : String} {root : Element}
    (done : read false source = .ok root) : ClosesRoot source.toList := by
  obtain ⟨reader, reached, finished⟩ := exists_reach_of_read done
  rw [ClosesRoot, Reader.outline_of_reach reached, Reader.outline_of_finish finished]

/-- What ends with the root can be read, and holds the whole tree. -/
theorem read_of_endsRoot {source : String} {root : Element} (done : read false source = .ok root)
    {body : List Char} (begins : body <+: source.toList) (ends : EndsRoot body) :
    read false (String.ofList body) = .ok root := by
  obtain ⟨last, reached, finished⟩ := exists_reach_of_read done
  obtain ⟨before, rfl, unclosed, spelled⟩ := ends.exists_concat
  obtain ⟨more, whole⟩ := Text.unifyNewlines_prefix begins
  rw [← whole, Reader.reach_append] at reached
  case behind => simp [spelled]
  obtain ⟨reader, reached, ran⟩ := exists_of_bind reached
  have behind : reader.outline = .behind :=
    Option.some.inj ((Reader.outline_of_reach reached).symm.trans ends.closes)
  have regular := Reader.regular_of_reach reached
  have inner : Text.unifyInner (before ++ ['>']) = unifyNewlines (before ++ ['>']) :=
    Text.unifyInner_eq (by simp)
  have same := reached
  rw [spelled, Reader.reach_concat false _ (by decide)] at same
  obtain ⟨earlier, reachedEarlier, stepped⟩ := exists_of_bind same
  have outlined := Reader.outline_of_reach reachedEarlier
  have stillOpen : earlier.outline ≠ .behind := by
    intro closed
    rw [closed] at outlined
    exact unclosed outlined
  obtain ⟨found, start, here, rfl⟩ :=
    Reader.exists_epilog_of_step regular stillOpen stepped behind
  obtain rfl := Reader.root_of_foldlM ran finished
  rw [read_eq, String.toList_ofList, inner, reached]
  rfl

/-- The spelling of line ends does not matter to where the root ends. -/
theorem closesRoot_unifyText {text : String} :
    ClosesRoot (unifyText text).toList ↔ ClosesRoot text.toList := by
  rw [ClosesRoot, ClosesRoot, toList_unifyText, Text.unifyNewlines_unifyNewlines]

end Xml

/-! ### Sources, files and commands -/

namespace Command

open Build (Obstacle loadFile parse parseFile)
open Document (load malformed)
open File (Found Location)
open Xml (ClosesRoot EndsRoot Fault)

/-- A source that does not hold its root cannot be loaded. -/
theorem exists_fault_of_not_closesRoot {text : String} (cut : ¬ ClosesRoot text.toList)
    (path : Option String) : ∃ fault, load text path = .error (malformed path fault) := by
  cases done : Xml.read false text with
  | ok root => exact absurd (Xml.closesRoot_of_read done) cut
  | error fault =>
    refine ⟨fault, ?_⟩
    rw [Build.load_eq, done]
    rfl

/-- A text that is refused as a document, also in a file, and by all commands in the same words. -/
structure Malformed (text : String) : Prop where
  source : ∀ path, ∃ fault, load text path = .error (malformed path fault) ∧
    parse text path = .error (malformed path fault)
  file : ∀ look file, look file = Found.bytes text.toUTF8 →
    ∃ fault, let problem := malformed (some file.text) fault
      loadFile look file = .error (.problem problem) ∧
        parseFile look file = .error (.problem problem) ∧
        (answers look file).Same (.ok (.failure problem.text))

theorem malformed_of_not_closesRoot {text : String} (cut : ¬ ClosesRoot text.toList) :
    Malformed text where
  source path := by
    obtain ⟨fault, failed⟩ := exists_fault_of_not_closesRoot cut path
    exact ⟨fault, failed, Build.parse_of_load_error failed⟩
  file look file stored := by
    have cutToo : ¬ ClosesRoot (Xml.unifyText text).toList :=
      fun closes => cut (Xml.closesRoot_unifyText.mp closes)
    obtain ⟨fault, failed⟩ := exists_fault_of_not_closesRoot cutToo (some file.text)
    obtain ⟨loaded, parsed⟩ := Build.file_eq stored
    rw [Build.parse_of_load_error failed] at parsed
    rw [failed] at loaded
    refine ⟨fault, loaded, parsed, ?_⟩
    have stopped : assembleFile look file =
        .error (.failure (malformed (some file.text) fault).text) := by
      rw [assembleFile, stored, if_pos (by rfl), parsed]
      rfl
    exact Answers.same_of_stop stopped

/-- The requests that need the project of a file. -/
inductive Request.Needs (file : Location) : Request → Prop where
  | parse (choice : Choice) : Needs file (.parse file choice)
  | dump (choice : Choice) : Needs file (.dump file choice)
  | check : Needs file (.check file)

/-- Where no project can be built, requests that need it stop before they show anything. -/
theorem Request.Needs.exists_stop {look : Location → Found} {file : Location} {stop : Stop}
    (stopped : assembleFile look file = .error stop) {request : Request}
    (needs : request.Needs file) : ∃ stop, request.attempt look = .error stop := by
  have shown (choice : Choice) (shown : Project → String) :
      ∃ stop, showing look file choice shown = .error stop := by
    rw [showing]
    cases optionsOf look choice with
    | error early => exact ⟨early, rfl⟩
    | ok options =>
      rw [stopped]
      exact ⟨stop, rfl⟩
  cases needs with
  | parse choice => exact shown choice summary
  | dump choice => exact shown choice dumped
  | check =>
    refine ⟨stop, ?_⟩
    rw [Request.attempt, checking, stopped]
    rfl

theorem exists_stop_of_parseFile {look : Location → Found} {file : Location}
    {obstacle : Obstacle} (failed : parseFile look file = .error obstacle) :
    ∃ stop, assembleFile look file = .error stop := by
  rw [assembleFile, failed]
  split
  · exact ⟨_, rfl⟩
  · exact ⟨_, rfl⟩

/-- What is no text is not read. -/
theorem file_of_undecoded {look : Location → Found} {file : Location} {content : ByteArray}
    (stored : look file = .bytes content) (undecoded : String.fromUTF8? content = none) :
    loadFile look file = .error (.unreadable .notUnicode) ∧
      parseFile look file = .error (.unreadable .notUnicode) := by
  have unread : (look file).text = .error .notUnicode := by
    rw [stored, Found.text, undecoded]
  constructor
  · rw [loadFile, unread]
  · rw [parseFile, unread]

theorem toByteArray_of_fromUTF8? {content : ByteArray} {text : String}
    (decoded : String.fromUTF8? content = some text) : text.toByteArray = content := by
  rw [String.fromUTF8?] at decoded
  split at decoded
  · obtain rfl := Option.some.inj decoded
    rfl
  · cases decoded

/-- The beginning of the bytes of a text is the beginning of the text, or no text at all. -/
theorem prefix_of_bytes {body : List Char} {content more : ByteArray} {text : String}
    (bytes : content ++ more = (String.ofList body).toUTF8) (proper : more ≠ .empty)
    (decoded : String.fromUTF8? content = some text) :
    text.toList <+: body ∧ text.toList ≠ body := by
  obtain rfl := toByteArray_of_fromUTF8? decoded
  rw [String.toUTF8_eq_toByteArray, String.toByteArray_ofList, ← String.utf8Encode_toList] at bytes
  refine ⟨List.isPrefix_of_utf8Encode_append_eq_utf8Encode more bytes, fun whole => proper ?_⟩
  rw [whole] at bytes
  have size := congrArg ByteArray.size bytes
  rw [ByteArray.size_append, Nat.add_eq_left] at size
  exact ByteArray.size_eq_zero_iff.mp size

/-- A truncated document is never accepted. The root of a document that can be loaded ends at one
place, with a closing bracket, and what ends with it can be loaded to the same tree. What ends
before that bracket is refused as malformed by everything that reads documents, in a text or in a
file, and a file whose bytes end earlier has no project, even if they end in the middle of a
character. -/
theorem truncated_never_accepted {source : String} {path : Option String} {root : Xml.Element}
    (loaded : load source path = .ok root) :
    (∃! body, body <+: source.toList ∧ EndsRoot body) ∧
    ∀ body, body <+: source.toList → EndsRoot body →
      body.getLast? = some '>' ∧ load (String.ofList body) path = .ok root ∧
      (∀ cut, cut <+: source.toList → cut.length < body.length → Malformed (String.ofList cut)) ∧
      ∀ content more : ByteArray, content ++ more = (String.ofList body).toUTF8 → more ≠ .empty →
        ∀ look file, look file = Found.bytes content →
          (∃ obstacle, loadFile look file = .error obstacle ∧
            parseFile look file = .error obstacle) ∧
          ∀ request : Request, request.Needs file → ∃ stop, request.attempt look = .error stop := by
  have read : Xml.read false source = .ok root := Xml.ok_of_mapError loaded
  refine ⟨Xml.existsUnique_endsRoot (Xml.closesRoot_of_read read), fun body begins ends =>
    ⟨?_, ?_, ?_, ?_⟩⟩
  · obtain ⟨before, rfl, -⟩ := ends.exists_concat
    exact List.getLast?_concat
  · rw [Build.load_eq, Xml.read_of_endsRoot read begins ends]
    rfl
  · intro cut cutBegins shorter
    have inside : cut <+: body := List.prefix_of_prefix_length_le cutBegins begins shorter.le
    have proper : cut ≠ body := by
      rintro rfl
      exact absurd shorter (lt_irrefl _)
    apply malformed_of_not_closesRoot
    rw [String.toList_ofList]
    exact ends.not_closesRoot inside proper
  · intro content more bytes proper look file stored
    have failed : ∃ obstacle, loadFile look file = .error obstacle ∧
        parseFile look file = .error obstacle := by
      cases decoded : String.fromUTF8? content with
      | none => exact ⟨_, file_of_undecoded stored decoded⟩
      | some text =>
        obtain ⟨inside, shorter⟩ := prefix_of_bytes bytes proper decoded
        obtain rfl := toByteArray_of_fromUTF8? decoded
        have refused := malformed_of_not_closesRoot (ends.not_closesRoot inside shorter)
        obtain ⟨fault, loaded, parsed, _⟩ := refused.file look file stored
        exact ⟨_, loaded, parsed⟩
    have ⟨obstacle, _, parsed⟩ := failed
    obtain ⟨stop, stopped⟩ := exists_stop_of_parseFile parsed
    exact ⟨failed, fun request needs => needs.exists_stop stopped⟩

/-- The end tag of a root that is written in a comment does not end the root. -/
theorem truncated_never_accepted_comment :
    load "<a><!--</a>--><b/></a>\n" none =
        .ok ⟨⟨"", "a"⟩, [], .empty, [⟨⟨"", "b"⟩, [], .empty, [], .empty⟩], .empty⟩ ∧
      EndsRoot "<a><!--</a>--><b/></a>".toList ∧ Malformed "<a><!--</a>" := by
  have loaded : load "<a><!--</a>--><b/></a>\n" none =
      .ok ⟨⟨"", "a"⟩, [], .empty, [⟨⟨"", "b"⟩, [], .empty, [], .empty⟩], .empty⟩ := rfl
  have ends : EndsRoot "<a><!--</a>--><b/></a>".toList := ⟨by decide, by decide⟩
  obtain ⟨-, ended⟩ := truncated_never_accepted loaded
  obtain ⟨-, -, refused, -⟩ := ended _ (by decide) ends
  refine ⟨loaded, ends, ?_⟩
  simpa using refused "<a><!--</a>".toList (by decide) (by decide)

end Command

end ScenarioTree
