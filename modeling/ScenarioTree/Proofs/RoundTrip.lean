/-
This file loads elements from what they are written as. An element of a document is a document of
its own, and the tree that is read from it is the same up to its line ends and without a tail.

In a report an element is followed by its tail. Behind the root of a document there may be blanks
only, so that form can be loaded exactly if nothing is left of the tail there. Any other character
begins a mark that does not become one that is admitted, whatever follows.
-/

import ScenarioTree.Document
import ScenarioTree.Proofs.Blank
import ScenarioTree.Proofs.Misnamed

namespace ScenarioTree

namespace Xml

open Text (unifyNewlines)

/-! ### Declarations -/

namespace Element

/-- The declarations of an element as attributes of its tag. -/
theorem declarations_eq (element : Element) :
    element.declarations =
      String.join (element.prefixes.declaring.map fun entry =>
        Reader.writeGiven (declarationGiven entry)) := by
  have same (entry : String × String) :
      writeDeclaration entry = Reader.writeGiven (declarationGiven (entry.2, entry.1)) := by
    rw [writeDeclaration, Reader.writeGiven, declarationGiven, ← String.append_assoc]
    rfl
  rw [declarations, Prefixes.declaring, List.map_map]
  exact congrArg (fun write => String.join (List.map write _)) (funext same)

theorem WellFormed.sound_prefixes {element : Element} (formed : element.WellFormed) :
    element.prefixes.Sound := by
  rw [prefixes_eq]
  exact Prefixes.sound_nil.foldl formed.comesApart formed.declarable

theorem WellFormed.covers_prefixes {element : Element} (formed : element.WellFormed) :
    ∀ name ∈ element.names, element.prefixes.Covers name := by
  intro name member
  rw [prefixes_eq]
  exact Prefixes.covers_foldl [] member (formed.comesApart name member)

/-- Whether every name in an element begins like a name. Tags always do. An attribute may not, if it
was given by a default: the local part of a declared name is not looked at so closely. -/
def NamesBegin (element : Element) : Prop :=
  ∀ name ∈ element.names, name.localPart.toList.head?.any isNameStart

/-- The names begin exactly if all of them are plain. -/
theorem WellFormed.namesBegin_iff {element : Element} (formed : element.WellFormed) :
    element.NamesBegin ↔ ∀ name ∈ element.names, PlainName name.localPart.toList := by
  refine forall₂_congr fun name member => ?_
  have parts := formed.nameRest name member
  generalize name.localPart.toList = characters at parts
  cases characters with
  | nil => exact (parts.1 rfl).elim
  | cons first rest =>
    have behind : ∀ other ∈ rest, isNamePart other :=
      fun other member => parts.2 other (List.mem_cons_of_mem _ member)
    exact ⟨fun begins => ⟨begins, behind⟩, And.left⟩

/-! ### Line ends -/

theorem return_not_mem_of_parts {name : List Char}
    (parts : ∀ character ∈ name, isNamePart character) : '\r' ∉ name :=
  fun member => absurd (parts _ member) (by decide)

/-- The line ends of a document that is an element are those of its texts. -/
theorem WellFormed.unifyNewlines_write {element : Element} (formed : element.WellFormed)
    (rest : List Char) :
    unifyNewlines (element.write.toList ++ rest) =
      element.unified.write.toList ++ unifyNewlines rest := by
  have sound := formed.sound_prefixes
  have same : element.unified.write =
      element.unified.writeWith element.prefixes element.declarations := by
    rw [write, declarations, declarations, prefixes_unified]
  rw [write, same]
  refine formed.unifyNewlines_writeWith (fun name member => ?_) ?_ rest
  · have free := return_not_mem_of_parts (formed.nameRest name member).2
    rcases Prefixes.write_cases sound (formed.covers_prefixes name member) with
      ⟨_, written⟩ | ⟨given, written, proper, _⟩
    · rw [written]
      exact free
    · rw [written]
      simp [return_not_mem_of_parts proper.part, free]
  · rw [declarations_eq, String.toList_join, List.flatMap_map, List.mem_flatMap]
    rintro ⟨entry, member, returned⟩
    have name := return_not_mem_of_parts (sound.declares.proper entry member).plain.part
    simp [Reader.toList_writeGiven, declarationGiven, String.toList_append, name,
      return_not_mem_escapeValue] at returned

end Element

/-! ### Reading a document that is an element -/

namespace Reader

/-- Whatever begins a name begins the root tag. -/
theorem step_rootTag {first : Char} (start : isNameStart first) (here : Position) :
    Doctype.Pending.step here first .angle = .done .rootTag := by
  obtain ⟨bang, question, _⟩ := not_sign_of_isNameStart start
  have letter : isAsciiLetter first || first == '_' || 0x80 ≤ first.toNat := by
    rw [isNameStart] at start
    split at start
    · rw [start, Bool.true_or]
    · next beyond => simp [Nat.not_lt.mp beyond]
  rw [Doctype.Pending.step]
  simp only [beq_iff_eq, bang, question, if_false]
  exact if_pos letter

/-- The root tag may begin at once. -/
theorem foldlM_begin {first : Char} (start : isNameStart first) :
    ∃ reader, ['<', first].foldlM (step false) (initial ⟨1, 0⟩) = .ok reader ∧
      reader.At (Tagging (· = .tagName (.start first))) Content.start := by
  have advanced (begun here : Position) :
      Scan.advance ⟨.nothing, false⟩ ⟨.angle, begun, here, .start⟩ first =
        .ok ⟨.startTag (.tagName (.start first)), begun, here.after first, .start⟩ := by
    obtain ⟨bang, question, slash⟩ := not_sign_of_isNameStart start
    rw [Scan.advance, Scan.step, Lexeme.step]
    simp [bang, question, slash, start, Lexeme.isIdle]
    rfl
  have tag : step false ⟨.prolog .angle .start, ⟨1, 0⟩, ⟨1, 1⟩⟩ first =
      .ok ⟨.content .nothing ⟨.startTag (.tagName (.start first)), ⟨1, 0⟩,
        Position.after ⟨1, 1⟩ first, .start⟩, ⟨1, 0⟩, Position.after ⟨1, 1⟩ first⟩ := by
    have admitted : Doctype.State.start.admitsRoot = true := rfl
    have declared : Doctype.State.start.declared = .nothing := rfl
    have place : (if Doctype.Pending.angle = .idle then (⟨1, 1⟩ : Position) else ⟨1, 0⟩) = ⟨1, 0⟩ :=
      rfl
    rw [step]
    simp only [markLimit, stepProlog, step_rootTag start, admitted, if_true]
    rw [declared, place, advanced]
    rfl
  refine ⟨⟨.content .nothing ⟨.startTag (.tagName (.start first)), ⟨1, 0⟩,
    Position.after ⟨1, 1⟩ first, .start⟩, ⟨1, 0⟩, Position.after ⟨1, 1⟩ first⟩, ?_, _, rfl,
    ⟨_, rfl, rfl⟩, rfl⟩
  have begun : ['<'].foldlM (step false) (initial ⟨1, 0⟩) =
      .ok ⟨.prolog .angle .start, ⟨1, 0⟩, ⟨1, 1⟩⟩ := rfl
  have whole := foldlM_append_of_ok begun [first]
  rw [List.foldlM_cons, tag] at whole
  exact whole

/-- A document that is an element begins with its tag. -/
theorem toList_write_unified {element : Element} {first : Char} {rest : List Char}
    (written : (element.unified.writeWith element.prefixes (String.join
      (element.prefixes.declaring.map fun entry => writeGiven (declarationGiven entry)))).toList =
        '<' :: first :: rest) :
    element.unified.write.toList = ['<', first] ++ rest := by
  rw [Element.write, Element.declarations_eq, Element.prefixes_unified, written]
  rfl

/-- Behind a document that is an element, its tree is finished. -/
theorem foldlM_write {element : Element} (formed : element.WellFormed)
    (named : element.NamesBegin) :
    ∃ reader, element.unified.write.toList.foldlM (step false) (initial ⟨1, 0⟩) = .ok reader ∧
      reader.stage = .epilog .idle { element.unified with tail := .empty } := by
  have sound := formed.sound_prefixes
  have writable : Writable element.prefixes element := fun name member =>
    ⟨formed.covers_prefixes name member, formed.namesBegin_iff.mp named name member⟩
  obtain ⟨first, rest, start, written, leads⟩ := rereads sound formed writable _ sound.declares
  obtain ⟨begun, ran, tag⟩ := foldlM_begin start
  obtain ⟨last, ranOn, reached⟩ :=
    leads Content.start rfl (Prefixes.undone_declaring sound) begun tag
  refine ⟨last, ?_, reached⟩
  rw [toList_write_unified written, foldlM_append_of_ok ran, ranOn]

/-- A document that is an element with a name that does not begin like one is refused. -/
theorem foldlM_write_fails {element : Element} (formed : element.WellFormed)
    (improper : ¬ element.NamesBegin) :
    ∃ fault, element.unified.write.toList.foldlM (step false) (initial ⟨1, 0⟩) = .error fault := by
  have sound := formed.sound_prefixes
  rw [formed.namesBegin_iff] at improper
  obtain ⟨first, rest, start, written, fails⟩ :=
    stumbles sound formed formed.covers_prefixes (by simpa using improper) _ sound.declares
  obtain ⟨begun, ran, tag⟩ := foldlM_begin start
  obtain ⟨fault, failed⟩ :=
    fails Content.start rfl (Prefixes.undone_declaring sound) begun tag
  refine ⟨fault, ?_⟩
  rw [toList_write_unified written, foldlM_append_of_ok ran, failed]

/-! ### Behind the root -/

/-- Whether a mark has begun that may not stand behind the root. -/
def Stray : Doctype.Pending → Prop
  | .literal _ _ | .literalEnd _ | .percent | .parameter _ | .hash | .hashName _ | .bracketClose
  | .bracketsClose _ | .groupClose | .word _ _ | .colon _ => True
  | _ => False

/-- A mark that is read on, or one that is not admitted. -/
def StraysOn : Doctype.Outcome → Prop
  | .more pending => Stray pending
  | .done mark => admittedAfterRoot mark = false
  | .before _ _ _ => True
  | .invalid _ => True

theorem straysOn_step {pending : Doctype.Pending} (stray : Stray pending) (here : Position)
    (character : Char) : StraysOn (pending.step here character) := by
  cases pending with
  | idle | angle | bang | remark _ | keyword _ | keywordPercent _ _ => exact stray.elim
  | _ =>
    simp only [Doctype.Pending.step, Doctype.Pending.stepWord]
    repeat' split
    all_goals simp [StraysOn, Stray, admittedAfterRoot]

theorem straysOn_stepIdle {character : Char} (less : character ≠ '<')
    (visible : isSpace character = false) (here : Position) :
    StraysOn (Doctype.Pending.step here character .idle) := by
  simp only [Doctype.Pending.step, Doctype.Pending.stepIdle, visible]
  repeat' split
  all_goals simp_all [StraysOn, Stray, admittedAfterRoot]

variable {reader : Reader} {pending : Doctype.Pending} {root : Element}

theorem step_of_straysOn (stage : reader.stage = .epilog pending root) {character : Char}
    (strays : StraysOn (pending.step reader.here character)) :
    (∃ fault, step false reader character = .error fault) ∨
      ∃ next onward, step false reader character = .ok next ∧ next.stage = .epilog onward root ∧
        Stray onward := by
  rw [step, stage]
  simp only [stepEpilog]
  split
  · next onward more =>
    rw [more] at strays
    exact .inr ⟨_, onward, rfl, rfl, strays⟩
  · exact .inl ⟨_, rfl⟩
  · next mark done =>
    rw [done] at strays
    have refused : admittedAfterRoot mark = false := strays
    rw [refused]
    exact .inl ⟨_, rfl⟩
  · exact .inl ⟨_, rfl⟩

/-- A reader with a stray mark never accepts. -/
theorem rejects_of_stray (stage : reader.stage = .epilog pending root) (stray : Stray pending)
    (source characters : List Char) :
    ∃ fault, (characters.foldlM (step false) reader >>= finish source) = .error fault := by
  induction characters generalizing reader pending with
  | nil =>
    have ended : (List.foldlM (step false) reader [] >>= finish source) = reader.finish source :=
      rfl
    rw [ended, finish, stage]
    simp only
    split
    · next none =>
      cases pending <;> first | exact stray.elim | cases none
    · exact ⟨_, rfl⟩
    · exact ⟨_, rfl⟩
  | cons character rest induction =>
    rw [List.foldlM_cons]
    rcases step_of_straysOn stage (straysOn_step stray reader.here character) with
      ⟨fault, failed⟩ | ⟨next, onward, stepped, nextStage, strays⟩
    · exact ⟨fault, by rw [failed]; rfl⟩
    · rw [stepped]
      exact induction nextStage strays

/-- Nothing but blanks is accepted behind the root, as long as no markup begins. -/
theorem rejects_of_visible (stage : reader.stage = .epilog .idle root) (source : List Char)
    {characters : List Char} (less : '<' ∉ characters)
    (visible : ∃ character ∈ characters, isSpace character = false) :
    ∃ fault, (characters.foldlM (step false) reader >>= finish source) = .error fault := by
  induction characters generalizing reader with
  | nil =>
    obtain ⟨character, member, _⟩ := visible
    cases member
  | cons character rest induction =>
    rw [List.mem_cons, not_or] at less
    rw [List.foldlM_cons]
    cases blank : isSpace character with
    | true =>
      have stepped : step false reader character = .ok ⟨.epilog .idle root, reader.here,
          reader.here.after character⟩ := by
        rw [step, stage]
        simp [stepEpilog, Doctype.Pending.step, Doctype.Pending.stepIdle, blank, admittedAfterRoot]
      rw [stepped]
      obtain ⟨other, member, visible⟩ := visible
      refine induction rfl less.2 ⟨other, ?_, visible⟩
      refine (List.mem_cons.mp member).resolve_left ?_
      rintro rfl
      rw [blank] at visible
      cases visible
    | false =>
      rcases step_of_straysOn stage (straysOn_stepIdle (Ne.symm less.1) blank reader.here) with
        ⟨fault, failed⟩ | ⟨next, onward, stepped, nextStage, strays⟩
      · exact ⟨fault, by rw [failed]; rfl⟩
      · rw [stepped]
        exact rejects_of_stray nextStage strays source rest

end Reader

/-! ### Documents -/

namespace Element

theorem closing_eq (prefixes : Prefixes) (element : Element) :
    ∃ front, element.closing prefixes = front ++ ['>'] := by
  rw [closing]
  split
  · exact ⟨" /".toList, rfl⟩
  · refine ⟨'>' :: (element.text.write.toList ++
      ((writeChildren prefixes element.children).toList ++
        '<' :: '/' :: (prefixes.write element.name).toList)), ?_⟩
    simp

/-- Written elements begin and end with markup. -/
theorem toList_write (element : Element) :
    ∃ inside, element.write.toList = '<' :: inside ++ ['>'] := by
  obtain ⟨front, closed⟩ := element.closing_eq element.prefixes
  rw [write, toList_writeWith, closed]
  refine ⟨(element.prefixes.write element.name).toList ++ (element.declarations.toList ++
    ((String.join (element.attributes.map (·.write element.prefixes))).toList ++ front)), ?_⟩
  simp

variable {element : Element}

/-- A source that is an element and something behind it. -/
theorem WellFormed.read_append (formed : element.WellFormed) {source : String}
    {behind : List Char} (whole : source.toList = element.write.toList ++ behind)
    (ended : behind.getLast? ≠ some '\r') :
    read false source =
      ((element.unified.write.toList ++ unifyNewlines behind).foldlM (Reader.step false)
        (Reader.initial ⟨1, 0⟩) >>= Reader.finish source.toList) := by
  obtain ⟨inside, written⟩ := element.toList_write
  have last : source.toList.getLast? ≠ some '\r' := by
    rw [whole, List.getLast?_append, written, List.getLast?_concat]
    cases found : behind.getLast? with
    | none => simp
    | some character => simpa [found] using ended
  rw [read, Text.unifyInner_eq last, whole, formed.unifyNewlines_write]
  obtain ⟨inside, written⟩ := element.unified.toList_write
  rw [written]
  rfl

/-- An element is read back from what it is written as, up to line ends and without its tail. -/
theorem WellFormed.read_write (formed : element.WellFormed) (named : element.NamesBegin) :
    read false element.write = .ok { element.unified with tail := .empty } := by
  have whole : element.write.toList = element.write.toList ++ [] := (List.append_nil _).symm
  obtain ⟨⟨stage, start, here⟩, ran, rfl⟩ := Reader.foldlM_write formed named
  rw [formed.read_append whole (by simp), Text.unifyNewlines, List.append_nil, ran]
  rfl

/-- With a name that does not begin like one, an element is refused, whatever is behind it. -/
theorem WellFormed.rejects_append (formed : element.WellFormed) (improper : ¬ element.NamesBegin)
    {source : String} {behind : List Char} (whole : source.toList = element.write.toList ++ behind)
    (ended : behind.getLast? ≠ some '\r') : ∃ fault, read false source = .error fault := by
  obtain ⟨fault, failed⟩ := Reader.foldlM_write_fails formed improper
  refine ⟨fault, ?_⟩
  rw [formed.read_append whole ended, Reader.foldlM_append_of_error failed]
  rfl

/-! ### Reports -/

/-- A report shows what an element is written as, and of its tail what does not end in blanks. -/
theorem raw_eq (element : Element) :
    element.raw =
      element.write ++ String.ofList (Text.trimRight (escapeText element.tail.text).toList) := by
  obtain ⟨inside, written⟩ := element.toList_write
  have left : Text.trimLeft (element.write.toList ++ (escapeText element.tail.text).toList) =
      element.write.toList ++ (escapeText element.tail.text).toList := by
    rw [written]
    rfl
  have ended : element.write.toList.getLast? = some '>' := by
    rw [written, List.getLast?_concat]
  rw [raw, Text.trimmed, String.toList_append, Text.trim, left,
    Text.trimRight_append ended (by decide), String.ofList_append, String.ofList_toList]

theorem less_not_mem_escapeText (text : String) : '<' ∉ (escapeText text).toList := by
  rw [Reader.toList_escapeText, List.mem_flatMap]
  rintro ⟨character, _, member⟩
  have free : ∀ entry ∈ textReferences, '<' ∉ entry.2 := by decide
  rcases escapedInText_cases character with ⟨⟨_, less, _⟩, written⟩ | reference
  · rw [written] at member
    exact less (List.mem_singleton.mp member).symm
  · exact free _ reference member

/-- Escaping makes no text blank, and leaves a blank one as it is. -/
theorem trimRight_escapeText_eq_nil_iff (text : String) :
    Text.trimRight (escapeText text).toList = [] ↔ Text.trimmed text = "" := by
  have nothing : Text.trimmed text = "" ↔ Text.trim text.toList = [] := by
    rw [← String.toList_eq_nil_iff, Text.trimmed, String.toList_ofList]
  rw [nothing, Text.trim_eq_nil_iff, Text.trimRight_eq_nil_iff, Reader.toList_escapeText]
  have blank (character : Char) :
      (escapedInText character).toList.all Text.isBlank = Text.isBlank character := by
    have visible : ∀ entry ∈ textReferences, entry.2.all Text.isBlank = Text.isBlank entry.1 := by
      decide
    rcases escapedInText_cases character with ⟨_, written⟩ | reference
    · rw [written]
      simp
    · exact visible _ reference
  constructor
  · intro escaped character member
    rw [← blank, List.all_eq_true]
    exact fun other inEscape => escaped other (List.mem_flatMap.mpr ⟨character, member, inEscape⟩)
  · intro plain other member
    obtain ⟨character, inText, member⟩ := List.mem_flatMap.mp member
    exact List.all_eq_true.mp ((blank character).trans (plain character inText)) other member

theorem isBlank_of_isSpace {character : Char} (space : isSpace character) :
    Text.isBlank character := by
  simp only [isSpace, Bool.or_eq_true, beq_iff_eq] at space
  rcases space with ((rfl | rfl) | rfl) | rfl <;> rfl

/-- What a report shows behind an element does not end in a carriage return. -/
theorem getLast?_shown (element : Element) :
    (Text.trimRight (escapeText element.tail.text).toList).getLast? ≠ some '\r' := by
  intro returned
  exact absurd (Text.visible_of_getLast?_trimRight returned) (by decide)

theorem toList_raw (element : Element) :
    element.raw.toList =
      element.write.toList ++ Text.trimRight (escapeText element.tail.text).toList := by
  rw [raw_eq, String.toList_append, String.toList_ofList]

/-- What a report shows is no document if something is left of the tail. -/
theorem WellFormed.rejects_raw (formed : element.WellFormed) (named : element.NamesBegin)
    (left : Text.trimmed element.tail.text ≠ "") :
    ∃ fault, read false element.raw = .error fault := by
  have shown : Text.trimRight (escapeText element.tail.text).toList ≠ [] :=
    fun none => left ((trimRight_escapeText_eq_nil_iff _).mp none)
  have last := List.getLast?_eq_some_getLast shown
  have visible := Text.visible_of_getLast?_trimRight last
  have member := List.getLast_mem shown
  generalize (Text.trimRight (escapeText element.tail.text).toList).getLast shown = character
    at last visible member
  obtain ⟨reader, ran, stage⟩ := Reader.foldlM_write formed named
  rw [formed.read_append element.toList_raw element.getLast?_shown,
    Reader.foldlM_append_of_ok ran]
  refine Reader.rejects_of_visible stage _ ?_ ⟨character, ?_, ?_⟩
  · intro less
    rcases Text.mem_of_mem_unifyNewlines less with less | line
    · exact less_not_mem_escapeText _ (Text.mem_of_mem_trimRight less)
    · exact absurd line (by decide)
  · refine Text.mem_unifyNewlines ?_ member
    rintro rfl
    exact absurd visible (by decide)
  · by_contra space
    rw [isBlank_of_isSpace (by simpa using space)] at visible
    cases visible

end Element

end Xml

/-! ### Loading -/

namespace Document

/-- A source that loads as a tree under a condition, and is malformed otherwise. -/
structure LoadsIf (condition : Prop) (source : String) (tree : Xml.Element) : Prop where
  loads : condition → ∀ path, load source path = .ok tree
  refused : ¬ condition → ∀ path, ∃ fault, load source path = .error (malformed path fault)

theorem load_of_read {source : String} {tree : Xml.Element}
    (done : Xml.read false source = .ok tree) (path : Option String) :
    load source path = .ok tree := by
  rw [load, loadWith, done]
  rfl

theorem refused_of_read {source : String}
    (done : ∃ fault, Xml.read false source = .error fault) (path : Option String) :
    ∃ fault, load source path = .error (malformed path fault) := by
  obtain ⟨fault, failed⟩ := done
  refine ⟨fault, ?_⟩
  rw [load, loadWith, failed]
  rfl

/-- Every element of a document that is read as the text that it is, is written as a document of its
own, which is read back as the same tree, up to line ends and without the tail, if its names begin
like names. In a report it is followed by its tail, and can be read back from there if nothing of it
is left. -/
theorem elements_reload {source : String} (_narrow : ¬ Xml.Wide source) {path : Option String}
    {root : Xml.Element} (loaded : load source path = .ok root) {place : Xml.Place}
    {element : Xml.Element}
    (stands : root.at? place = some element) :
    LoadsIf element.NamesBegin element.write { element.unified with tail := .empty } ∧
      element.raw = element.write ++
        String.ofList (Text.trimRight (Xml.escapeText element.tail.text).toList) ∧
      LoadsIf (element.NamesBegin ∧ Text.trimmed element.tail.text = "") element.raw
        { element.unified with tail := .empty } := by
  have formed : element.WellFormed :=
    (Xml.wellFormed_of_read (Xml.ok_of_mapError loaded)).at? stands
  have whole : element.write.toList = element.write.toList ++ [] := (List.append_nil _).symm
  refine ⟨⟨fun named => load_of_read (formed.read_write named), fun improper => refused_of_read
    (formed.rejects_append improper whole (by simp))⟩, element.raw_eq, ⟨?_, ?_⟩⟩
  · rintro ⟨named, blank⟩
    rw [element.raw_eq, (Xml.Element.trimRight_escapeText_eq_nil_iff _).mpr blank,
      String.ofList_nil, String.append_empty]
    exact load_of_read (formed.read_write named)
  · intro refused
    refine refused_of_read ?_
    by_cases named : element.NamesBegin
    · exact formed.rejects_raw named fun blank => refused ⟨named, blank⟩
    · exact formed.rejects_append named element.toList_raw element.getLast?_shown

/-- A carriage return stays in a value and becomes a line end in a text. -/
theorem elements_reload_child :
    ∃ root element : Xml.Element,
      load "<a xmlns:p='u'><p:b k='&#13;'>1&#13;</p:b> t </a>" none = .ok root ∧
        root.at? [0] = some element ∧ element.NamesBegin ∧
        load element.write none =
          .ok ⟨⟨"u", "b"⟩, [⟨⟨"", "k"⟩, "\r"⟩], .ofText "1\n", [], .empty⟩ ∧
        ∃ fault, load element.raw none = .error (malformed none fault) := by
  let element : Xml.Element :=
    ⟨⟨"u", "b"⟩, [⟨⟨"", "k"⟩, "\r"⟩], .ofText "1\r", [], .ofText " t "⟩
  have loaded : load "<a xmlns:p='u'><p:b k='&#13;'>1&#13;</p:b> t </a>" none =
      .ok ⟨⟨"", "a"⟩, [], .empty, [element], .empty⟩ := by
    rfl
  have named : element.NamesBegin := by
    simp only [Xml.Element.NamesBegin]
    decide
  have left : Text.trimmed element.tail.text ≠ "" := by decide
  have narrow : ¬ Xml.Wide "<a xmlns:p='u'><p:b k='&#13;'>1&#13;</p:b> t </a>" := by decide
  obtain ⟨written, _, shown⟩ := @elements_reload _ narrow _ _ loaded [0] element rfl
  exact ⟨_, element, loaded, rfl, named, written.loads named none,
    shown.refused (fun both => left both.2) none⟩

/-- An attribute that was given by a default may have a name that no tag may have. -/
theorem not_every_element_reloads :
    ∃ root : Xml.Element,
      load "<!DOCTYPE a [<!ATTLIST a xml:1 CDATA 'v'>]><a/>" none = .ok root ∧
        ∃ problem, load root.write none = .error problem := by
  let root : Xml.Element := ⟨⟨"", "a"⟩, [⟨⟨Xml.xmlSpace, "1"⟩, "v"⟩], .empty, [], .empty⟩
  have undeclared : root.prefixes = [] := rfl
  have written : root.write = "<a xml:1=\"v\" />" := by
    rw [Xml.Element.write, Xml.Element.declarations, undeclared, List.mergeSort_nil]
    rfl
  refine ⟨root, by rfl, malformed none ⟨.invalidToken, ⟨1, 7⟩⟩, ?_⟩
  rw [written]
  rfl

end Document

end ScenarioTree
