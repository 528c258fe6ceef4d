/-
This file shows that the style of line ends cannot be seen in a document. A source is brought to one
spelling before it is read, save for a carriage return at its very end, so two spellings of a source
can differ in one character at most, which is the last. The question is therefore what a reader
comes to at a carriage return and at a line feed when nothing follows, and the answer is the same at
every point but two. In the text of an element, or in a section of character data, its fault stands
before the carriage return and behind the line feed. In the name of a section it is the bytes that
were written which decide whether the name is cut off or wrong.

A file is read with one spelling of line ends. So it is loaded and built like the text that it
holds, up to the place of that fault.
-/

import ScenarioTree.Build.Source
import ScenarioTree.Proofs.LineEnd

namespace ScenarioTree

namespace File

theorem fromUTF8?_toUTF8 (text : String) : String.fromUTF8? text.toUTF8 = some text :=
  dif_pos text.isValidUTF8

/-- The text of a file that holds the bytes of a text, in one spelling. -/
theorem text_bytes_toUTF8 (text : String) :
    (Found.bytes text.toUTF8).text = .ok (Xml.unifyText text) := by
  simp only [Found.text, fromUTF8?_toUTF8]
  rfl

end File

namespace Xml

open Text (unifyNewlines)

/-! ### Characters of the content -/

/-- Characters change nothing but what waits for its run. -/
theorem foldlM_addToken_characters {setting : Content.Setting} {opened : List String} {floor : Nat}
    {replace : Content.Replacement} {start : Position} (characters : List Char)
    (content : Content) :
    (characters.map Token.character).foldlM
        (Content.addToken setting opened floor replace start) content =
      .ok (characters.foldl Content.push content) := by
  induction characters generalizing content with
  | nil => rfl
  | cons character rest induction => exact induction (content.push character)

theorem root_foldl_push (characters : List Char) (content : Content) :
    (characters.foldl Content.push content).root = content.root := by
  induction characters generalizing content with
  | nil => rfl
  | cons character rest induction => exact induction (content.push character)

namespace Reader

/-! ### Readers -/

/-- A reader in the text of an element, or in a section of character data, at a place. -/
def AtText (reader : Reader) (place : Position) : Prop :=
  ∃ declared scan, reader.stage = .content declared scan ∧ scan.lexeme.takesLineEnds = true ∧
    scan.here = place

/-- A reader in the name of a section that began at a place. -/
def InSectionName (reader : Reader) (start : Position) (seen : List Char) : Prop :=
  ∃ declared scan, reader.stage = .content declared scan ∧ scan.lexeme = .sectionName seen ∧
    scan.start = start

/-- While content is read the root is open and no name of a section is complete, and the quotes of
literals are no line ends. -/
def Regular (reader : Reader) : Prop :=
  match reader.stage with
  | .prolog pending _ | .epilog pending _ => pending.Regular
  | .content _ scan => scan.content.root = none ∧ scan.lexeme.Short

/-- The character after an angle bracket leaves the tree as it is. -/
theorem content_of_angle {setting : Content.Setting} {start here : Position} {content : Content}
    {character : Char} {scan : Scan}
    (advanced : Scan.advance setting ⟨.angle, start, here, content⟩ character = .ok scan) :
    scan.content = content := by
  rw [Scan.advance, Scan.step] at advanced
  split at advanced
  · cases advanced
  · next lexeme tokens stepped =>
    obtain rfl := Lexeme.tokens_of_angle stepped
    obtain rfl := Except.ok.inj advanced
    rfl

theorem short_of_advance {setting : Content.Setting} {scan next : Scan} {character : Char}
    (advanced : scan.advance setting character = .ok next) : next.lexeme.Short := by
  rw [Scan.advance, Scan.step] at advanced
  split at advanced
  · cases advanced
  · next stepped =>
    obtain ⟨_, _, advanced⟩ := exists_of_bind advanced
    obtain rfl := Except.ok.inj advanced
    exact Lexeme.short_step stepped

theorem regular_stepProlog {keep : Bool} {here : Position} {character : Char} {limit : Nat}
    {pending : Doctype.Pending} {state : Doctype.State} {start : Position} {next : Reader}
    (regular : pending.Regular)
    (done : stepProlog keep here character limit pending state start = .ok next) :
    next.Regular := by
  induction limit generalizing pending state start with
  | zero => cases done
  | succ limit induction =>
    rw [stepProlog] at done
    have outcome := Doctype.Pending.step_regular regular here character
    split at done
    · next more =>
      rw [more] at outcome
      obtain rfl := Except.ok.inj done
      exact outcome
    · cases done
    · split at done
      · obtain ⟨scan, advanced, done⟩ := exists_of_bind done
        obtain rfl := Except.ok.inj done
        exact ⟨congrArg Content.root (content_of_angle advanced), short_of_advance advanced⟩
      · cases done
    · obtain ⟨_, _, done⟩ := exists_of_bind done
      obtain rfl := Except.ok.inj done
      exact True.intro
    · next mark rest position found =>
      rw [found] at outcome
      obtain ⟨next, _, done⟩ := exists_of_bind done
      exact induction outcome done

/-- One more character keeps a reader regular. -/
theorem Regular.step {keep : Bool} {reader next : Reader} (regular : reader.Regular)
    {character : Char} (done : reader.step keep character = .ok next) : next.Regular := by
  obtain ⟨stage, start, here⟩ := reader
  cases stage with
  | prolog pending state => exact regular_stepProlog regular done
  | content declared scan =>
    obtain ⟨scan, advanced, done⟩ := exists_of_bind done
    split at done
    · obtain rfl := Except.ok.inj done
      exact True.intro
    · next unfinished =>
      obtain rfl := Except.ok.inj done
      exact ⟨unfinished, short_of_advance advanced⟩
  | epilog pending root =>
    have outcome := Doctype.Pending.step_regular regular here character
    simp only [Reader.step, stepEpilog] at done
    split at done
    · next more =>
      rw [more] at outcome
      obtain rfl := Except.ok.inj done
      exact outcome
    · cases done
    · split at done
      · obtain rfl := Except.ok.inj done
        exact True.intro
      · cases done
    · cases done

/-! ### The end of a source -/

/-- The fault of a source that ends in the name of a section. -/
def cutFault (start : Position) (seen source : List Char) : Fault :=
  match Lexeme.cutSectionName? start seen (Text.joinedReturns seen.length source.reverse) with
  | some place => ⟨.invalidToken, place⟩
  | none => ⟨.unclosedToken, start⟩

theorem cutFault_of_some {start place : Position} {seen source : List Char}
    (wrong : Lexeme.cutSectionName? start seen (Text.joinedReturns seen.length source.reverse) =
      some place) : cutFault start seen source = ⟨.invalidToken, place⟩ := by
  rw [cutFault, wrong]

theorem cutFault_of_none {start : Position} {seen source : List Char}
    (short : Lexeme.cutSectionName? start seen (Text.joinedReturns seen.length source.reverse) =
      none) : cutFault start seen source = ⟨.unclosedToken, start⟩ := by
  rw [cutFault, short]

/-- Where no line end has two characters, a name that is cut off is not looked at. -/
theorem cutFault_of_free {seen source : List Char} (short : (Lexeme.sectionName seen).Short)
    (free : '\r' ∉ source) (start : Position) :
    cutFault start seen source = ⟨.unclosedToken, start⟩ := by
  refine cutFault_of_none ?_
  rw [Text.joinedReturns_of_free (by simpa using free), Lexeme.cutSectionName?]
  exact if_pos short

theorem finish_of_inSectionName {reader : Reader} {start : Position} {seen : List Char}
    (inName : reader.InSectionName start seen) (source : List Char) :
    reader.finish source = .error (cutFault start seen source) := by
  obtain ⟨stage, began, here⟩ := reader
  obtain ⟨declared, ⟨lexeme, start, place, content⟩, rfl, rfl, rfl⟩ := inName
  rfl

/-- In a source without line ends of two characters the name is cut off. -/
theorem finish_of_free {reader : Reader} (regular : reader.Regular) {start : Position}
    {seen source : List Char} (inName : reader.InSectionName start seen) (free : '\r' ∉ source) :
    reader.finish source = .error ⟨.unclosedToken, start⟩ := by
  rw [finish_of_inSectionName inName, cutFault_of_free _ free]
  obtain ⟨stage, began, here⟩ := reader
  obtain ⟨declared, scan, rfl, named, _⟩ := inName
  exact named ▸ regular.2

theorem lastFault_eq_endFault {scan : Scan} (other : scan.lexeme.sectionName? = none)
    (source : List Char) : scan.lastFault source = scan.endFault := by
  rw [Scan.lastFault]
  split
  · next seen named =>
    rw [named] at other
    cases other
  · rfl

/-- How the source was written matters in the name of a section only. -/
theorem finish_eq {reader : Reader} (outside : ∀ start seen, ¬ reader.InSectionName start seen)
    (source other : List Char) : reader.finish source = reader.finish other := by
  obtain ⟨stage, began, here⟩ := reader
  cases stage with
  | prolog pending state | epilog pending root => rfl
  | content declared scan =>
    have unnamed : scan.lexeme.sectionName? = none := by
      cases found : scan.lexeme with
      | sectionName seen => exact (outside scan.start seen ⟨declared, scan, rfl, found, rfl⟩).elim
      | _ => rfl
    simp only [finish, lastFault_eq_endFault unnamed]

/-! ### Line ends at the end -/

/-- What a reader comes to when one more character ends the source. -/
def endingWith (keep : Bool) (source : List Char) (reader : Reader) (character : Char) :
    Except Fault Element := do
  (← reader.step keep character).finish source

theorem endingWith_prolog (keep : Bool) (here : Position) (limit : Nat)
    {pending : Doctype.Pending} (regular : pending.Regular) (state : Doctype.State)
    (start : Position) (source other : List Char) :
    (stepProlog keep here '\r' limit pending state start >>= finish source) =
      (stepProlog keep here '\n' limit pending state start >>= finish other) := by
  induction limit generalizing pending state start with
  | zero => rfl
  | succ limit induction =>
    have outcome := Doctype.Pending.step_regular regular here '\n'
    rcases Doctype.Pending.step_endsLine regular here with ⟨settling, settled, alike⟩ | longer
    · simp only [stepProlog, alike _ .carriageReturn, alike _ .lineFeed, after_return]
      rw [alike _ .lineFeed] at outcome
      cases settling with
      | more pending => exact settled.elim
      | invalid place => rfl
      | done mark =>
        have other : mark ≠ .rootTag := settled
        cases mark with
        | rootTag => exact absurd rfl other
        | _ =>
          simp only
          cases state.step (if pending = .idle then here else start) _ <;> rfl
      | before mark rest position =>
        simp only
        cases state.step (if pending = .idle then here else start) mark with
        | error fault => rfl
        | ok next => exact induction outcome next position
    · obtain ⟨first, unfinished, stepped⟩ := longer _ .carriageReturn
      obtain ⟨second, unfinishedToo, steppedToo⟩ := longer _ .lineFeed
      simp only [stepProlog, stepped, steppedToo]
      show finish source ⟨.prolog first state, _, _⟩ = finish other ⟨.prolog second state, _, _⟩
      simp only [finish, unfinished, unfinishedToo]

theorem endingWith_epilog (keep : Bool) {pending : Doctype.Pending} (regular : pending.Regular)
    (root : Element) (start here : Position) (source other : List Char) :
    endingWith keep source ⟨.epilog pending root, start, here⟩ '\r' =
      endingWith keep other ⟨.epilog pending root, start, here⟩ '\n' := by
  rcases Doctype.Pending.step_endsLine regular here with ⟨settling, settled, alike⟩ | longer
  · simp only [endingWith, Reader.step, stepEpilog, alike _ .carriageReturn, alike _ .lineFeed,
      after_return]
    cases settling with
    | more pending => exact settled.elim
    | invalid place | before mark rest position => rfl
    | done mark =>
      simp only
      split <;> rfl
  · obtain ⟨first, unfinished, stepped⟩ := longer _ .carriageReturn
    obtain ⟨second, unfinishedToo, steppedToo⟩ := longer _ .lineFeed
    simp only [endingWith, Reader.step, stepEpilog, stepped, steppedToo]
    show finish source ⟨.epilog first root, _, _⟩ = finish other ⟨.epilog second root, _, _⟩
    simp only [finish, unfinished, unfinishedToo]

/-- The reader after a character that completes only characters. -/
theorem step_content_of_characters {keep : Bool} {declared : Declared} {scan : Scan}
    (unfinished : scan.content.root = none) {start here : Position} {character : Char}
    (onward : Lexeme) (characters : List Char)
    (stepped : scan.lexeme.step (if scan.lexeme.isIdle then scan.here else scan.start) scan.here
      character = .ok (onward, characters.map Token.character)) :
    let next : Scan := ⟨onward, if scan.lexeme.isIdle then scan.here else scan.start,
      scan.here.after character, characters.foldl Content.push scan.content⟩
    step keep ⟨.content declared scan, start, here⟩ character =
      .ok ⟨.content declared next, next.start, next.here⟩ := by
  intro next
  have advanced : scan.advance ⟨declared, keep⟩ character = .ok next := by
    simp only [Scan.advance, Scan.step, stepped, foldlM_addToken_characters]
    rfl
  have stillOpen : next.content.root = none :=
    (root_foldl_push characters scan.content).trans unfinished
  simp only [Reader.step, advanced, bind, Except.bind, stillOpen]
  rfl

/-- In text, the fault of a source that ends in a carriage return stands at it, and the fault of one
that ends in a line feed behind it. -/
theorem endingWith_atText {keep : Bool} {reader : Reader} (regular : reader.Regular)
    {place : Position} (inText : reader.AtText place) :
    ∃ reason, (reason = .noElement ∨ reason = .unclosedSection) ∧ ∀ source,
      endingWith keep source reader '\r' = .error ⟨reason, place⟩ ∧
        endingWith keep source reader '\n' = .error ⟨reason, place.after '\r'⟩ := by
  obtain ⟨stage, start, here⟩ := reader
  obtain ⟨declared, scan, rfl, takes, rfl⟩ := inText
  obtain ⟨lexeme, began, place, content⟩ := scan
  have ended {character : Char} {onward : Lexeme} {characters : List Char}
      (stepped : lexeme.step (if lexeme.isIdle then place else began) place character =
        .ok (onward, characters.map Token.character)) (source : List Char) :
      endingWith keep source ⟨.content declared ⟨lexeme, began, place, content⟩, start, here⟩
          character =
        .error (Scan.lastFault source ⟨onward, if lexeme.isIdle then place else began,
          place.after character, characters.foldl Content.push content⟩) := by
    rw [endingWith, step_content_of_characters regular.1 onward characters stepped]
    rfl
  cases lexeme with
  | text brackets | carriage position =>
    exact ⟨.noElement, .inl rfl, fun source =>
      ⟨@ended '\r' (.carriage place) ['\n'] rfl source, @ended '\n' (.text 0) ['\n'] rfl source⟩⟩
  | data brackets =>
    obtain ⟨returned, fed⟩ := Lexeme.step_data_endsLine began place brackets
    exact ⟨.unclosedSection, .inr rfl, fun source => ⟨ended returned source, ended fed source⟩⟩
  | dataCarriage position =>
    exact ⟨.unclosedSection, .inr rfl, fun source =>
      ⟨@ended '\r' (.dataCarriage place) ['\n'] rfl source,
        @ended '\n' (.data 0) ['\n'] rfl source⟩⟩
  | _ => cases takes

theorem endFault_of_markup {scan : Scan} (markup : scan.lexeme.takesLineEnds = false) :
    scan.endFault = ⟨.unclosedToken, scan.start⟩ := by
  rw [Scan.endFault]
  split
  all_goals first
    | rfl
    | simp_all [Lexeme.takesLineEnds]

/-- Elsewhere both line ends come to the same, or both belong to the name of a section. -/
theorem endingWith_of_outside {keep : Bool} {reader : Reader} (regular : reader.Regular)
    (outside : ∀ place, ¬ reader.AtText place) :
    (∀ source other, endingWith keep source reader '\r' = endingWith keep other reader '\n') ∨
    ∃ start seen, ∀ character, EndsLine character → ∃ next,
      reader.step keep character = .ok next ∧ next.InSectionName start (character :: seen) := by
  obtain ⟨stage, start, here⟩ := reader
  cases stage with
  | prolog pending state =>
    exact .inl (endingWith_prolog keep here markLimit regular state start)
  | epilog pending root => exact .inl (endingWith_epilog keep regular root start here)
  | content declared scan =>
    have markup : scan.lexeme.takesLineEnds = false := by
      rw [Bool.eq_false_iff]
      exact fun takes => outside scan.here ⟨declared, scan, rfl, takes, rfl⟩
    rcases Lexeme.step_endsLine markup (if scan.lexeme.isIdle then scan.here else scan.start)
      scan.here with ⟨place, stops⟩ | goesOn
    · left
      intro source other
      simp only [endingWith, Reader.step, Scan.advance, Scan.step, stops _ .carriageReturn,
        stops _ .lineFeed]
      rfl
    · cases named : scan.lexeme.sectionName? with
      | none =>
        have unclosed (source : List Char) {character : Char} (ends : EndsLine character) :
            endingWith keep source ⟨.content declared scan, start, here⟩ character =
              .error ⟨.unclosedToken, if scan.lexeme.isIdle then scan.here else scan.start⟩ := by
          obtain ⟨onward, markup, unnamed, stepped⟩ := goesOn _ ends
          rw [named] at unnamed
          rw [endingWith, step_content_of_characters regular.1 onward [] stepped]
          show Except.error (Scan.lastFault source _) = _
          rw [lastFault_eq_endFault unnamed, endFault_of_markup markup]
        exact .inl fun source other =>
          (unclosed source .carriageReturn).trans (unclosed other .lineFeed).symm
      | some seen =>
        refine .inr ⟨if scan.lexeme.isIdle then scan.here else scan.start, seen,
          fun character ends => ?_⟩
        obtain ⟨onward, _, same, stepped⟩ := goesOn _ ends
        rw [named] at same
        have known : onward = .sectionName (character :: seen) := by
          cases onward <;> cases same
          rfl
        exact ⟨_, step_content_of_characters regular.1 onward [] stepped, declared, _, rfl, known,
          rfl⟩

/-! ### Sources -/

/-- The reader behind some characters, before which a byte order mark may stand. -/
def reach (keep : Bool) : List Char → Except Fault Reader
  | '\uFEFF' :: characters => characters.foldlM (step keep) (initial ⟨1, 1⟩)
  | characters => characters.foldlM (step keep) (initial ⟨1, 0⟩)

theorem reach_of_unmarked (keep : Bool) {characters : List Char}
    (unmarked : ∀ rest, characters ≠ '\uFEFF' :: rest) :
    reach keep characters = characters.foldlM (step keep) (initial ⟨1, 0⟩) := by
  rw [reach]
  exact unmarked

theorem marked_or_unmarked (characters : List Char) :
    (∃ rest, characters = '\uFEFF' :: rest) ∨ ∀ rest, characters ≠ '\uFEFF' :: rest := by
  by_cases marked : ∃ rest, characters = '\uFEFF' :: rest
  · exact .inl marked
  · exact .inr (not_exists.mp marked)

theorem unmarked_append {first second : List Char} (unmarked : ∀ rest, first ≠ '\uFEFF' :: rest)
    (behind : first = [] → ∀ rest, second ≠ '\uFEFF' :: rest) (rest : List Char) :
    first ++ second ≠ '\uFEFF' :: rest := by
  intro same
  cases first with
  | nil => exact behind rfl rest same
  | cons character more =>
    exact unmarked more (congrArg (· :: more) (List.cons.inj same).1)

theorem regular_of_reach {keep : Bool} {characters : List Char} {reader : Reader}
    (reached : reach keep characters = .ok reader) : reader.Regular := by
  have run {here : Position} {rest : List Char}
      (ran : rest.foldlM (step keep) (initial here) = .ok reader) : reader.Regular := by
    have started : (initial here).Regular := True.intro
    exact foldlM_keeps Regular (fun _ _ _ _ before stepped => before.step stepped) started ran
  rcases marked_or_unmarked characters with ⟨rest, rfl⟩ | unmarked
  · exact run reached
  · exact run (reach_of_unmarked keep unmarked ▸ reached)

/-- What follows is read by the reader behind what came before. -/
theorem reach_append (keep : Bool) {first second : List Char}
    (behind : first = [] → ∀ rest, second ≠ '\uFEFF' :: rest) :
    reach keep (first ++ second) =
      (do second.foldlM (step keep) (← reach keep first)) := by
  rcases marked_or_unmarked first with ⟨rest, rfl⟩ | unmarked
  · exact List.foldlM_append
  · rw [reach_of_unmarked keep unmarked,
      reach_of_unmarked keep (unmarked_append unmarked behind)]
    exact List.foldlM_append

theorem reach_concat (keep : Bool) (characters : List Char) {last : Char}
    (other : last ≠ '\uFEFF') :
    reach keep (characters ++ [last]) = (do (← reach keep characters).step keep last) := by
  rw [reach_append keep fun _ _ same => other (List.cons.inj same).1]
  simp only [List.foldlM_cons, List.foldlM_nil, bind_pure]

end Reader

open Reader (reach)

theorem read_eq (keep : Bool) (source : String) :
    read keep source =
      (do (← reach keep (Text.unifyInner source.toList)).finish source.toList) := by
  rw [read]
  split
  · next marked =>
    rw [marked]
    rfl
  · next unmarked =>
    rw [Reader.reach_of_unmarked keep unmarked]
    rfl

/-- A source that ends in one of the two characters is read to it, and then comes to its end. -/
theorem read_concat {keep : Bool} {source : String} {before : List Char} {last : Char}
    (ends : EndsLine last) (split : Text.unifyInner source.toList = before ++ [last]) :
    read keep source = (do (← reach keep before).endingWith keep source.toList last) := by
  have other : last ≠ '\uFEFF' := by cases ends <;> decide
  rw [read_eq, split, Reader.reach_concat keep before other, bind_assoc]
  rfl

/-- A carriage return ends the source at a place in the text of an element, or in a section. -/
def ReturnInText (source : String) (place : Position) : Prop :=
  ∃ before reader, source.toList = before ++ ['\r'] ∧
    reach false (unifyNewlines before) = .ok reader ∧ reader.AtText place

/-- The source ends in the name of a section that begins at a place, and as it was written, with two
characters for some line ends, the name was long enough to be wrong at another place. -/
def ReturnInName (source : String) (start place : Position) : Prop :=
  ∃ reader seen, reach false (Text.unifyInner source.toList) = .ok reader ∧
    reader.InSectionName start seen ∧
    Lexeme.cutSectionName? start seen (Text.joinedReturns seen.length source.toList.reverse) =
      some place

/-- Both spellings of a source that ends in a carriage return come to their ends from the same
reader. -/
theorem read_of_ends {source : String} {before : List Char}
    (ends : source.toList = before ++ ['\r']) :
    read false source = (reach false (unifyNewlines before)).bind
        (fun reader => reader.endingWith false source.toList '\r') ∧
      read false (unifyText source) = (reach false (unifyNewlines before)).bind
        fun reader => reader.endingWith false (unifyText source).toList '\n' := by
  constructor
  · exact read_concat .carriageReturn (by rw [ends, Text.unifyInner_concat_return])
  · refine read_concat .lineFeed ?_
    rw [toList_unifyText, Text.unifyInner_unifyNewlines, ends, Text.unifyNewlines_concat_return]

/-- Both spellings of any other source are read alike up to their ends. -/
theorem read_of_not_ends {source : String} (ends : source.toList.getLast? ≠ some '\r') :
    read false source = (reach false (unifyNewlines source.toList)).bind
        (·.finish source.toList) ∧
      read false (unifyText source) = (reach false (unifyNewlines source.toList)).bind
        (·.finish (unifyText source).toList) := by
  constructor
  · rw [read_eq, Text.unifyInner_eq ends]
    rfl
  · rw [read_eq, toList_unifyText, Text.unifyInner_unifyNewlines]
    rfl

theorem return_not_mem_unifyText (source : String) : '\r' ∉ (unifyText source).toList := by
  rw [toList_unifyText]
  exact Text.return_not_mem_unifyNewlines _

/-- Elsewhere both spellings are read alike. -/
theorem read_unifyText {source : String} (apart : ∀ place, ¬ ReturnInText source place)
    (unnamed : ∀ start place, ¬ ReturnInName source start place) :
    read false (unifyText source) = read false source := by
  -- a name that the end of the source cuts off is looked at in neither spelling
  have unclosed {reader : Reader} {start : Position} {seen : List Char}
      (reached : reach false (Text.unifyInner source.toList) = .ok reader)
      (inName : reader.InSectionName start seen) :
      reader.finish source.toList = .error ⟨.unclosedToken, start⟩ := by
    rw [Reader.finish_of_inSectionName inName, Reader.cutFault_of_none]
    exact Option.eq_none_iff_forall_ne_some.mpr fun place wrong =>
      unnamed start place ⟨reader, seen, reached, inName, wrong⟩
  by_cases ends : source.toList.getLast? = some '\r'
  · obtain ⟨before, ends⟩ := List.getLast?_eq_some_iff.mp ends
    obtain ⟨returned, fed⟩ := read_of_ends ends
    cases reached : reach false (unifyNewlines before) with
    | error fault => rw [returned, fed, reached, Except.bind, Except.bind]
    | ok reader =>
      rw [returned, fed, reached, Except.bind, Except.bind]
      have regular := Reader.regular_of_reach reached
      have outside (place : Position) : ¬ reader.AtText place := fun inText =>
        apart place ⟨before, reader, ends, reached, inText⟩
      rcases Reader.endingWith_of_outside regular outside with alike | ⟨start, seen, named⟩
      · exact (alike _ _).symm
      · obtain ⟨next, stepped, inName⟩ := named _ .carriageReturn
        obtain ⟨other, steppedToo, inNameToo⟩ := named _ .lineFeed
        have reachedNext : reach false (Text.unifyInner source.toList) = .ok next := by
          rw [ends, Text.unifyInner_concat_return, Reader.reach_concat false _ (by decide), reached]
          exact stepped
        rw [Reader.endingWith, Reader.endingWith, stepped, steppedToo]
        exact (Reader.finish_of_free (regular.step steppedToo) inNameToo
          (return_not_mem_unifyText source)).trans (unclosed reachedNext inName).symm
  · obtain ⟨spelled, unified⟩ := read_of_not_ends ends
    cases reached : reach false (unifyNewlines source.toList) with
    | error fault => rw [spelled, unified, reached, Except.bind, Except.bind]
    | ok reader =>
      rw [spelled, unified, reached, Except.bind, Except.bind]
      by_cases inName : ∃ start seen, reader.InSectionName start seen
      · obtain ⟨start, seen, inName⟩ := inName
        rw [unclosed (by rw [Text.unifyInner_eq ends, reached]) inName]
        exact Reader.finish_of_free (Reader.regular_of_reach reached) inName
          (return_not_mem_unifyText source)
      · exact Reader.finish_eq (fun start seen named => inName ⟨start, seen, named⟩) _ _

/-- In text the fault of the one spelling stands before the line end, that of the other behind. -/
theorem read_of_returnInText {source : String} {place : Position}
    (inText : ReturnInText source place) :
    ∃ reason, (reason = .noElement ∨ reason = .unclosedSection) ∧
      read false source = .error ⟨reason, place⟩ ∧
        read false (unifyText source) = .error ⟨reason, ⟨place.line + 1, 0⟩⟩ := by
  obtain ⟨before, reader, ends, reached, inText⟩ := inText
  obtain ⟨returned, fed⟩ := read_of_ends ends
  obtain ⟨reason, known, faults⟩ :=
    Reader.endingWith_atText (Reader.regular_of_reach reached) inText
  refine ⟨reason, known, ?_, ?_⟩
  · rw [returned, reached]
    exact (faults source.toList).1
  · rw [fed, reached]
    exact (faults (unifyText source).toList).2

/-- In the name of a section the one spelling is wrong where the other is cut off. -/
theorem read_of_returnInName {source : String} {start place : Position}
    (inName : ReturnInName source start place) :
    read false source = .error ⟨.invalidToken, place⟩ ∧
      read false (unifyText source) = .error ⟨.unclosedToken, start⟩ := by
  obtain ⟨reader, seen, reached, inName, wrong⟩ := inName
  have spelled : reader.finish source.toList = .error ⟨.invalidToken, place⟩ := by
    rw [Reader.finish_of_inSectionName inName, Reader.cutFault_of_some wrong]
  have regular := Reader.regular_of_reach reached
  refine ⟨by rw [read_eq, reached]; exact spelled, ?_⟩
  by_cases ends : source.toList.getLast? = some '\r'
  · obtain ⟨before, ends⟩ := List.getLast?_eq_some_iff.mp ends
    rw [(read_of_ends ends).2]
    rw [ends, Text.unifyInner_concat_return, Reader.reach_concat false _ (by decide)] at reached
    obtain ⟨earlier, reached, stepped⟩ := exists_of_bind reached
    have earlierRegular := Reader.regular_of_reach reached
    -- whatever the source, the reader comes to the same name, so it was in the name before
    have result (source : List Char) :
        Reader.endingWith false source earlier '\r' = reader.finish source := by
      rw [Reader.endingWith, stepped]
      rfl
    have short := Reader.finish_of_free regular inName (List.not_mem_nil (a := '\r'))
    have outside (place : Position) : ¬ earlier.AtText place := by
      intro inText
      obtain ⟨reason, known, faults⟩ := Reader.endingWith_atText earlierRegular inText
      have same := (result []).symm.trans (faults []).1
      rw [short, Except.error.injEq, Fault.mk.injEq] at same
      rcases known with rfl | rfl <;> cases same.1
    rw [reached, Except.bind]
    rcases Reader.endingWith_of_outside earlierRegular outside with alike | ⟨began, name, named⟩
    · have same := (alike source.toList []).trans (alike [] []).symm
      rw [result, result, spelled, short] at same
      cases same
    · obtain ⟨next, steppedNext, inNameNext⟩ := named _ .carriageReturn
      obtain ⟨other, steppedToo, inNameToo⟩ := named _ .lineFeed
      obtain rfl := Except.ok.inj (stepped.symm.trans steppedNext)
      have free := Reader.finish_of_free regular inNameNext (List.not_mem_nil (a := '\r'))
      rw [short, Except.error.injEq, Fault.mk.injEq] at free
      obtain rfl := free.2
      rw [Reader.endingWith, steppedToo]
      exact Reader.finish_of_free (earlierRegular.step steppedToo) inNameToo
        (return_not_mem_unifyText source)
  · rw [Text.unifyInner_eq ends] at reached
    rw [(read_of_not_ends ends).2, reached, Except.bind]
    exact Reader.finish_of_free regular inName (return_not_mem_unifyText source)

/-- What can be read can be read in the one spelling. -/
theorem read_unifyText_of_ok {source : String} {root : Element}
    (done : read false source = .ok root) : read false (unifyText source) = .ok root := by
  rw [read_unifyText (fun place inText => ?_) (fun start place inName => ?_), done]
  · obtain ⟨reason, _, failed, _⟩ := read_of_returnInText inText
    rw [failed] at done
    cases done
  · rw [(read_of_returnInName inName).1] at done
    cases done

end Xml

namespace Build

open Document (load malformed)
open File (Found Location)
open Xml (Position ReturnInName ReturnInText unifyText)

/-! ### Documents and projects -/

theorem load_eq (source : String) (path : Option String) :
    load source path = (Xml.read false source).mapError (malformed path) := rfl

/-- A source that cannot be loaded has no project. -/
theorem parse_of_load_error {source : String} {path : Option String} {problem : Problem}
    (failed : load source path = .error problem) : parse source path = .error problem := by
  rw [parse, failed]
  rfl

/-- What two spellings share when they load alike. -/
theorem parse_congr {source other : String} {path : Option String}
    (same : load source path = load other path) : parse source path = parse other path := by
  rw [parse, parse, same]

/-- A file that holds a text is loaded and built like the text in the one spelling. -/
theorem file_eq {look : Location → Found} {location : Location} {source : String}
    (stored : look location = .bytes source.toUTF8) :
    loadFile look location =
        (load (unifyText source) (some location.text)).mapError .problem ∧
      parseFile look location =
        (parse (unifyText source) (some location.text)).mapError .problem := by
  constructor
  · rw [loadFile, stored, File.text_bytes_toUTF8]
  · rw [parseFile, stored, File.text_bytes_toUTF8]

/-- A source whose two spellings have different faults. A file that holds it has the second one. -/
structure FaultsDiffer (source : String) (early late : Xml.Fault) : Prop where
  text : ∀ path, load source path = .error (malformed path early) ∧
    parse source path = .error (malformed path early) ∧
    load (unifyText source) path = .error (malformed path late)
  file : ∀ look location, look location = Found.bytes source.toUTF8 →
    loadFile look location = .error (.problem (malformed (some location.text) late)) ∧
    parseFile look location = .error (.problem (malformed (some location.text) late))

theorem faultsDiffer_of_read {source : String} {early late : Xml.Fault}
    (first : Xml.read false source = .error early)
    (second : Xml.read false (unifyText source) = .error late) :
    FaultsDiffer source early late := by
  have before (path : Option String) : load source path = .error (malformed path early) := by
    rw [load_eq, first]
    rfl
  have behind (path : Option String) :
      load (unifyText source) path = .error (malformed path late) := by
    rw [load_eq, second]
    rfl
  refine ⟨fun path => ⟨before path, parse_of_load_error (before path), behind path⟩,
    fun look location stored => ?_⟩
  obtain ⟨loaded, parsed⟩ := file_eq stored
  rw [loaded, parsed, behind, parse_of_load_error (behind _)]
  exact ⟨rfl, rfl⟩

/-- The style of line ends cannot be seen, and a file is loaded and built like the text that it
holds, if the source is none that would be taken for wide characters. Two faults tell the spellings
apart. Where the source ends in a carriage return inside the text or a section of an open element,
the fault is placed at the carriage return, and once the line ends are unified at the beginning of
the next line. Where it ends in the name of a section, with line ends of two characters for which
the name is long enough, the name is wrong, and once the line ends are unified it is cut off. -/
theorem line_ends_invisible (source : String) (_narrow : ¬ Xml.Wide (unifyText source)) :
    ((∀ place, ¬ ReturnInText source place) →
      (∀ start place, ¬ ReturnInName source start place) →
      (Xml.read false (unifyText source) = Xml.read false source ∧
        ∀ path, load (unifyText source) path = load source path) ∧
      ∀ look location, look location = Found.bytes source.toUTF8 →
        loadFile look location = (load source (some location.text)).mapError .problem ∧
        parseFile look location = (parse source (some location.text)).mapError .problem) ∧
    (∀ place, ReturnInText source place →
      ∃ reason, (reason = .noElement ∨ reason = .unclosedSection) ∧
        FaultsDiffer source ⟨reason, place⟩ ⟨reason, ⟨place.line + 1, 0⟩⟩) ∧
    ∀ start place, ReturnInName source start place →
      FaultsDiffer source ⟨.invalidToken, place⟩ ⟨.unclosedToken, start⟩ := by
  refine ⟨fun apart unnamed => ?_, fun place inText => ?_, fun start place inName => ?_⟩
  · have alike := Xml.read_unifyText apart unnamed
    have loads (path : Option String) : load (unifyText source) path = load source path := by
      rw [load_eq, load_eq, alike]
    refine ⟨⟨alike, loads⟩, fun look location stored => ?_⟩
    obtain ⟨loaded, parsed⟩ := file_eq stored
    rw [loaded, parsed, loads, parse_congr (loads _)]
    exact ⟨rfl, rfl⟩
  · obtain ⟨reason, known, first, second⟩ := Xml.read_of_returnInText inText
    exact ⟨reason, known, faultsDiffer_of_read first second⟩
  · obtain ⟨first, second⟩ := Xml.read_of_returnInName inName
    exact faultsDiffer_of_read first second

/-- A document of two lines that ends in a carriage return, one that ends in its root, and one that
ends in the name of a section. -/
theorem line_ends_invisible_two :
    (∀ place, ¬ ReturnInText "<a>\r\n</a>\r" place) ∧
      loadFile (fun _ => .bytes "<a>\r\n</a>\r".toUTF8) (.ofText "a.xml") =
        .ok ⟨⟨"", "a"⟩, [], .ofText "\n", [], .empty⟩ ∧
    ReturnInText "<a>\r" ⟨1, 3⟩ ∧
      (∃ reason, load "<a>\r" none = .error (malformed none ⟨reason, ⟨1, 3⟩⟩)) ∧
    ReturnInName "<a><![CDAT\r\n" ⟨1, 3⟩ ⟨1, 10⟩ ∧
      load "<a><![CDAT\n" none = .error (malformed none ⟨.unclosedToken, ⟨1, 3⟩⟩) := by
  have apart (place : Position) : ¬ ReturnInText "<a>\r\n</a>\r" place := by
    rintro ⟨before, reader, split, reached, declared, scan, inside, -⟩
    have split : "<a>\r\n</a>".toList ++ ['\r'] = before ++ ['\r'] := split
    obtain rfl := List.append_cancel_right split
    obtain rfl := Except.ok.inj reached
    cases inside
  have unnamed (start place : Position) : ¬ ReturnInName "<a>\r\n</a>\r" start place := by
    rintro ⟨reader, seen, reached, ⟨declared, scan, inside, -⟩, -⟩
    obtain rfl := Except.ok.inj reached
    cases inside
  have inText : ReturnInText "<a>\r" ⟨1, 3⟩ :=
    ⟨"<a>".toList, _, rfl, rfl, _, _, rfl, rfl, rfl⟩
  have inName : ReturnInName "<a><![CDAT\r\n" ⟨1, 3⟩ ⟨1, 10⟩ :=
    ⟨_, _, rfl, ⟨_, _, rfl, rfl, rfl⟩, by decide⟩
  obtain ⟨-, files⟩ := (line_ends_invisible "<a>\r\n</a>\r" (by decide)).1 apart unnamed
  obtain ⟨reason, -, faults⟩ := (line_ends_invisible "<a>\r" (by decide)).2.1 _ inText
  have named := (line_ends_invisible "<a><![CDAT\r\n" (by decide)).2.2 _ _ inName
  refine ⟨apart, ?_, inText, ⟨reason, (faults.text none).1⟩, inName, (named.text none).2.2⟩
  rw [(files _ _ rfl).1]
  rfl

/-- At the end of text that is left open, the spelling of a line end can be told from the fault. -/
theorem return_seen_in_fault :
    Xml.read false "<a>\r" = .error ⟨.noElement, ⟨1, 3⟩⟩ ∧
      Xml.read false (unifyText "<a>\r") = .error ⟨.noElement, ⟨2, 0⟩⟩ ∧
        load "<a>\r" none ≠ load (unifyText "<a>\r") none := by
  refine ⟨rfl, rfl, fun same => ?_⟩
  have texts := congrArg Problem.message (Except.error.inj same)
  exact absurd texts (by decide)

end Build

end ScenarioTree
