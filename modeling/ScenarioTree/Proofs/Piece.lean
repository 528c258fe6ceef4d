/-
This file reads character data in whatever way it is spelled. Between two tags an author may write a
text as it is, mark a section of it as character data, refer to a character by its number or to one
of five by its name, and interrupt all that with comments and instructions. Each such piece is read
as what it denotes; a comment and an instruction denote nothing.

A piece says by itself what it denotes, save for line ends: those are brought to one spelling before
the pieces are told apart, and a line end may begin in one literal piece and end in the next. So the
literal pieces that stand together are gathered first. Every other piece begins with a sign of the
markup, and no line end reaches across it.
-/

import ScenarioTree.Proofs.Reread
import ScenarioTree.Proofs.Spelling

namespace ScenarioTree

/-! ### Line ends within markup -/

namespace Text

theorem eq_nil_of_prefix_line {sign rest : List Char} (plain : '\n' ∉ sign)
    (begins : sign <+: '\n' :: rest) : sign = [] := by
  cases sign with
  | nil => rfl
  | cons first others =>
    have line := (List.cons_prefix_cons.mp begins).1
    exact (plain (line ▸ List.mem_cons_self)).elim

/-- What holds no line end begins a text if it begins its unified form. -/
theorem prefix_of_unifyNewlines {sign characters : List Char} (plain : '\n' ∉ sign)
    (begins : sign <+: unifyNewlines characters) : sign <+: characters := by
  induction characters using unifyNewlines.induct generalizing sign with
  | case1 => exact begins
  | case2 rest _ =>
    rw [unifyNewlines] at begins
    rw [eq_nil_of_prefix_line plain begins]
    exact List.nil_prefix
  | case3 rest alone _ =>
    rw [unifyNewlines_alone alone] at begins
    rw [eq_nil_of_prefix_line plain begins]
    exact List.nil_prefix
  | case4 character rest _ other induction =>
    cases sign with
    | nil => exact List.nil_prefix
    | cons first others =>
      rw [unifyNewlines_cons other, List.cons_prefix_cons] at begins
      rw [List.mem_cons, not_or] at plain
      exact List.cons_prefix_cons.mpr ⟨begins.1, induction plain.2 begins.2⟩

/-- What holds no line end stands in a text if it stands in its unified form. -/
theorem infix_of_unifyNewlines {sign characters : List Char} (plain : '\n' ∉ sign)
    (stands : sign <:+: unifyNewlines characters) : sign <:+: characters := by
  induction characters using unifyNewlines.induct with
  | case1 => exact stands
  | case2 rest induction =>
    rw [unifyNewlines, List.infix_cons_iff] at stands
    rcases stands with begins | within
    · have whole : sign <+: unifyNewlines ('\r' :: '\n' :: rest) := by rwa [unifyNewlines]
      exact (prefix_of_unifyNewlines plain whole).isInfix
    · exact ((induction within).trans (List.suffix_cons _ _).isInfix).trans
        (List.suffix_cons _ _).isInfix
  | case3 rest alone induction =>
    rw [unifyNewlines_alone alone, List.infix_cons_iff, ← unifyNewlines_alone alone] at stands
    rcases stands with begins | within
    · exact (prefix_of_unifyNewlines plain begins).isInfix
    · exact (induction within).trans (List.suffix_cons _ _).isInfix
  | case4 character rest _ other induction =>
    rw [unifyNewlines_cons other, List.infix_cons_iff, ← unifyNewlines_cons other] at stands
    rcases stands with begins | within
    · exact (prefix_of_unifyNewlines plain begins).isInfix
    · exact (induction within).trans (List.suffix_cons _ _).isInfix

/-- The first character stays the first, or it becomes a line feed. -/
theorem head?_unifyNewlines {characters : List Char} {first : Char}
    (head : first ∈ (unifyNewlines characters).head?) :
    first ∈ characters.head? ∨ first = '\n' := by
  rw [unifyNewlines.eq_def] at head
  split at head
  · cases head
  · exact .inr (Option.some.inj head).symm
  · exact .inr (Option.some.inj head).symm
  · exact .inl head

end Text

namespace Xml

open Text (unifyNewlines unifyNewlines_cons unifyNewlines_append unifyNewlines_append_of_apart
  infix_of_unifyNewlines)

/-! ### Pieces -/

instance : DecidablePred AllLegal := fun characters =>
  decidable_of_iff (characters.all isLegal = true) List.all_eq_true

/-- How the number of a character is written. -/
inductive Radix where
  | decimal
  | hexadecimal
  deriving DecidableEq

namespace Radix

/-- How many digits there are. -/
def base : Radix → Nat
  | decimal => 10
  | hexadecimal => 16

/-- What stands before the digits. -/
def sign : Radix → List Char
  | decimal => []
  | hexadecimal => ['x']

/-- The value of a digit. -/
def value? : Radix → Char → Option Nat
  | decimal => Reference.decimalValue?
  | hexadecimal => Reference.hexValue?

/-- The number that digits make behind a number that was read before them. -/
def number? (radix : Radix) (number : Nat) : List Char → Option Nat
  | [] => some number
  | digit :: rest =>
    match radix.value? digit with
    | some value => radix.number? (number * radix.base + value) rest
    | none => none

end Radix

/-- The entities that every document has, with their characters. -/
def predefinedEntities : List (String × Char) :=
  [("lt", '<'), ("gt", '>'), ("amp", '&'), ("quot", '"'), ("apos", '\'')]

/-- A piece of what stands between two tags: a text with its markup escaped, a section of character
data, a reference to a character by its number, a reference to one of the five entities, a comment,
or an instruction with all that follows its target. -/
inductive Piece where
  | literal (text : List Char)
  | data (text : List Char)
  | number (radix : Radix) (digits : List Char) (character : Char)
  | entity (name : String) (character : Char)
  | comment (body : List Char)
  | instruction (target rest : List Char)
  deriving DecidableEq

namespace Piece

/-- Whether a piece is what its kind says. What follows the target of an instruction is parted from
it by a blank. -/
def Proper : Piece → Prop
  | literal text => AllLegal text
  | data text => AllLegal text ∧ ¬ [']', ']', '>'] <:+: text
  | number radix digits character =>
    digits ≠ [] ∧ radix.number? 0 digits = some character.toNat ∧ isLegal character
  | entity name character => (name, character) ∈ predefinedEntities
  | comment body => AllLegal body ∧ ¬ ['-', '-'] <:+: body ∧ body.getLast? ≠ some '-'
  | instruction target rest =>
    PlainName target ∧ target.map Char.toLower ≠ ['x', 'm', 'l'] ∧
      AllLegal rest ∧ rest.head?.all isSpace ∧ ¬ ['?', '>'] <:+: rest

instance : DecidablePred Proper
  | literal text => inferInstanceAs (Decidable (AllLegal text))
  | data text => inferInstanceAs (Decidable (AllLegal text ∧ ¬ [']', ']', '>'] <:+: text))
  | number radix digits character =>
    inferInstanceAs (Decidable
      (digits ≠ [] ∧ radix.number? 0 digits = some character.toNat ∧ isLegal character))
  | entity name character => inferInstanceAs (Decidable ((name, character) ∈ predefinedEntities))
  | comment body =>
    inferInstanceAs (Decidable
      (AllLegal body ∧ ¬ ['-', '-'] <:+: body ∧ body.getLast? ≠ some '-'))
  | instruction target rest =>
    inferInstanceAs (Decidable
      (PlainName target ∧ target.map Char.toLower ≠ ['x', 'm', 'l'] ∧
        AllLegal rest ∧ rest.head?.all isSpace ∧ ¬ ['?', '>'] <:+: rest))

/-- A piece as it is written. -/
def write : Piece → List Char
  | literal text => (escapeText (String.ofList text)).toList
  | data text => '<' :: '!' :: '[' :: (Lexeme.sectionOpening ++ (text ++ [']', ']', '>']))
  | number radix digits _ => '&' :: '#' :: (radix.sign ++ (digits ++ [';']))
  | entity name _ => '&' :: (name.toList ++ [';'])
  | comment body => '<' :: '!' :: '-' :: '-' :: (body ++ ['-', '-', '>'])
  | instruction target rest => '<' :: '?' :: (target ++ (rest ++ ['?', '>']))

/-- What a piece denotes. -/
def meaning : Piece → List Char
  | literal text | data text => unifyNewlines text
  | number _ _ character | entity _ character => [character]
  | comment _ | instruction _ _ => []

/-- Pieces with the literal ones that stand together gathered, behind a text that was gathered
before them. -/
def gathered (text : List Char) : List Piece → List Piece
  | [] => [literal text]
  | literal more :: rest => gathered (text ++ more) rest
  | piece :: rest => literal text :: piece :: gathered [] rest

end Piece

/-- What pieces denote: each literal run, one after another, and what stands between them. -/
def denoted (pieces : List Piece) : List Char :=
  (Piece.gathered [] pieces).flatMap Piece.meaning

/-- Pieces as they are written. -/
def writePieces (pieces : List Piece) : List Char :=
  pieces.flatMap Piece.write

namespace Piece

/-! ### Line ends of pieces -/

/-- A piece with one spelling of line ends. -/
def unified : Piece → Piece
  | literal text => literal (unifyNewlines text)
  | data text => data (unifyNewlines text)
  | comment body => comment (unifyNewlines body)
  | instruction target rest => instruction target (unifyNewlines rest)
  | number radix digits character => number radix digits character
  | entity name character => entity name character

theorem return_not_mem_of_number? {radix : Radix} {number total : Nat} {digits : List Char}
    (stands : radix.number? number digits = some total) : '\r' ∉ digits := by
  induction digits generalizing number with
  | nil => exact List.not_mem_nil
  | cons digit rest induction =>
    rw [Radix.number?] at stands
    split at stands
    · next value found =>
      rw [List.mem_cons, not_or]
      refine ⟨?_, induction stands⟩
      rintro rfl
      cases radix <;> cases found
    · cases stands

/-- Whether a piece is something else than a literal text. -/
def Marked (piece : Piece) : Prop :=
  ∀ text, piece ≠ literal text

theorem eq_literal_of_not_marked {piece : Piece} (unmarked : ¬ piece.Marked) :
    ∃ text, piece = literal text := by
  simpa [Marked] using unmarked

/-- Between two signs of the markup, line ends are those of the text there. -/
theorem unifyNewlines_between {opening closing : List Char} (opened : '\r' ∉ opening)
    (closed : '\r' ∉ closing) (visible : ∃ sign ∈ closing.head?, sign ≠ '\n')
    (text rest : List Char) :
    unifyNewlines (opening ++ (text ++ closing) ++ rest) =
      opening ++ (unifyNewlines text ++ closing) ++ unifyNewlines rest := by
  have apart : (closing ++ rest).head? ≠ some '\n' := by
    obtain ⟨sign, found, other⟩ := visible
    rw [List.head?_append, Option.mem_def.mp found]
    simpa using other
  rw [List.append_assoc, List.append_assoc, unifyNewlines_append opened,
    unifyNewlines_append_of_apart _ apart, unifyNewlines_append closed]
  simp only [List.append_assoc]

/-- A line end that begins in a literal piece may end behind it. -/
theorem unifyNewlines_literal (text : List Char) {rest : List Char}
    (apart : rest.head? ≠ some '\n') :
    unifyNewlines ((literal text).write ++ rest) =
      (literal text).unified.write ++ unifyNewlines rest := by
  have written := unifyNewlines_escapeText (String.ofList text) apart
  rw [unifyText, String.toList_ofList] at written
  rwa [write, unified, write]

/-- No line end reaches across any other piece. -/
theorem Proper.unifyNewlines_marked {piece : Piece} (proper : piece.Proper)
    (marked : piece.Marked) (rest : List Char) :
    unifyNewlines (piece.write ++ rest) = piece.unified.write ++ unifyNewlines rest := by
  cases piece with
  | literal text => exact (marked text rfl).elim
  | data text =>
    rw [write, unified, write]
    exact @unifyNewlines_between ('<' :: '!' :: '[' :: Lexeme.sectionOpening) [']', ']', '>']
      (by decide) (by decide) ⟨_, rfl, by decide⟩ text rest
  | comment body =>
    rw [write, unified, write]
    exact @unifyNewlines_between ['<', '!', '-', '-'] ['-', '-', '>']
      (by decide) (by decide) ⟨_, rfl, by decide⟩ body rest
  | instruction target behind =>
    have free : '\r' ∉ target := fun member => absurd (proper.1.part _ member) (by decide)
    have between := @unifyNewlines_between ('<' :: '?' :: target) ['?', '>']
      (by simpa using free) (by decide) ⟨_, rfl, by decide⟩ behind rest
    rw [write, unified, write]
    simpa only [List.cons_append, List.append_assoc] using between
  | number radix digits character =>
    have digitsFree := return_not_mem_of_number? proper.2.1
    have signFree : '\r' ∉ radix.sign := by cases radix <;> decide
    rw [unified, write]
    exact unifyNewlines_append (by simpa using ⟨signFree, digitsFree⟩) rest
  | entity name character =>
    have namesFree : ∀ entry ∈ predefinedEntities, '\r' ∉ entry.1.toList := by decide
    have nameFree : '\r' ∉ name.toList := namesFree _ proper
    rw [unified, write]
    exact unifyNewlines_append (by simpa using nameFree) rest

theorem Marked.head?_write {piece : Piece} (marked : piece.Marked) (rest : List Char) :
    (piece.write ++ rest).head? ≠ some '\n' := by
  cases piece with
  | literal text => exact (marked text rfl).elim
  | _ =>
    rw [write]
    simp

theorem Marked.gathered {piece : Piece} (marked : piece.Marked) (text : List Char)
    (rest : List Piece) :
    gathered text (piece :: rest) = literal text :: piece :: gathered [] rest := by
  rw [Piece.gathered]
  exact marked

theorem writePieces_cons (piece : Piece) (rest : List Piece) :
    writePieces (piece :: rest) = piece.write ++ writePieces rest :=
  List.flatMap_cons

/-- Gathering changes nothing of what is written. -/
theorem writePieces_gathered (text : List Char) (pieces : List Piece) :
    writePieces (gathered text pieces) = (literal text).write ++ writePieces pieces := by
  induction pieces generalizing text with
  | nil => rfl
  | cons piece rest induction =>
    by_cases marked : piece.Marked
    · have nothing : (literal []).write = [] := rfl
      rw [marked.gathered, writePieces_cons, writePieces_cons, induction, writePieces_cons,
        nothing, List.nil_append]
    · obtain ⟨more, rfl⟩ := eq_literal_of_not_marked marked
      have joined : (literal (text ++ more)).write =
          (literal text).write ++ (literal more).write := by
        rw [write, write, write]
        simp only [Reader.toList_escapeText, String.toList_ofList, List.flatMap_append]
      rw [gathered, induction, joined, writePieces_cons, List.append_assoc]

/-- Gathered pieces are proper if the pieces are. -/
theorem proper_gathered {text : List Char} (legal : AllLegal text) {pieces : List Piece}
    (proper : ∀ piece ∈ pieces, piece.Proper) : ∀ piece ∈ gathered text pieces, piece.Proper := by
  induction pieces generalizing text with
  | nil => simpa [gathered, Proper] using legal
  | cons piece rest induction =>
    rw [List.forall_mem_cons] at proper
    by_cases marked : piece.Marked
    · rw [marked.gathered, List.forall_mem_cons, List.forall_mem_cons]
      exact ⟨legal, proper.1, induction (by simp [AllLegal]) proper.2⟩
    · obtain ⟨more, rfl⟩ := eq_literal_of_not_marked marked
      rw [gathered]
      refine induction (fun character member => ?_) proper.2
      exact (List.mem_append.mp member).elim (legal character) (proper.1 character)

/-- The line ends of gathered pieces are those of each of them. -/
theorem unifyNewlines_gathered (text : List Char) {pieces : List Piece}
    (proper : ∀ piece ∈ pieces, piece.Proper) {rest : List Char} (apart : rest.head? ≠ some '\n') :
    unifyNewlines (writePieces (gathered text pieces) ++ rest) =
      writePieces ((gathered text pieces).map unified) ++ unifyNewlines rest := by
  induction pieces generalizing text with
  | nil =>
    have written := unifyNewlines_literal text apart
    simpa only [gathered, writePieces, List.map_cons, List.map_nil, List.flatMap_cons,
      List.flatMap_nil, List.append_nil] using written
  | cons piece others induction =>
    rw [List.forall_mem_cons] at proper
    by_cases marked : piece.Marked
    · rw [marked.gathered]
      simp only [List.map_cons, writePieces_cons, List.append_assoc]
      rw [unifyNewlines_literal text (marked.head?_write _),
        proper.1.unifyNewlines_marked marked, induction [] proper.2]
    · obtain ⟨more, rfl⟩ := eq_literal_of_not_marked marked
      rw [gathered]
      exact induction (text ++ more) proper.2

/-- The line ends of pieces are those of the gathered ones. -/
theorem unifyNewlines_writePieces {pieces : List Piece} (proper : ∀ piece ∈ pieces, piece.Proper)
    {rest : List Char} (apart : rest.head? ≠ some '\n') :
    unifyNewlines (writePieces pieces ++ rest) =
      writePieces ((gathered [] pieces).map unified) ++ unifyNewlines rest := by
  have written := writePieces_gathered [] pieces
  have nothing : (literal []).write = [] := rfl
  rw [nothing, List.nil_append] at written
  rw [← written, unifyNewlines_gathered [] proper apart]

end Piece

/-! ### Reading pieces -/

namespace Content

theorem pushAll_pushAll (content : Content) (first second : List Char) :
    (content.pushAll first).pushAll second = content.pushAll (first ++ second) := by
  simp [pushAll]

theorem foldl_push (characters : List Char) (content : Content) :
    characters.foldl push content = content.pushAll characters := by
  induction characters generalizing content with
  | nil => rfl
  | cons character rest induction =>
    rw [List.foldl_cons, induction]
    simp [push, pushAll]

end Content

namespace Reference

/-- A number that has been read, as far as it is remembered. -/
def held (number : Nat) : Nat :=
  min number numberBound

theorem extend_held (base number digit : Nat) (positive : 0 < base) :
    extend base (held number) digit = held (number * base + digit) := by
  have grows : number ≤ number * base := Nat.le_mul_of_pos_right number positive
  have bound : numberBound ≤ numberBound * base := Nat.le_mul_of_pos_right _ positive
  rw [extend, held, held]
  rcases Nat.le_total number numberBound with below | beyond
  · rw [Nat.min_eq_left below]
  · rw [Nat.min_eq_right beyond]
    omega

theorem toNat_lt_numberBound (character : Char) : character.toNat < numberBound := by
  have valid : character.toNat.isValidChar := character.valid
  rw [Nat.isValidChar] at valid
  rw [numberBound]
  omega

theorem standsFor_held {character : Char} (legal : isLegal character) :
    (Reference.numbered (held character.toNat)).StandsFor character := by
  have bounded := toNat_lt_numberBound character
  have valid : character.toNat.isValidChar := character.valid
  have same : Char.ofNatAux character.toNat valid = character := rfl
  rw [held, Nat.min_eq_left (by omega), StandsFor, characterOf?, dif_pos valid, same]
  exact if_pos legal

end Reference

namespace Radix

/-- What has been seen of a reference in whose digits a reader is. -/
def pending : Radix → Nat → Reference.Pending
  | decimal => .decimal
  | hexadecimal => .hexadecimal

theorem step_pending (radix : Radix) (number : Nat) {digit : Char} {value : Nat}
    (found : radix.value? digit = some value) :
    (radix.pending number).step digit =
      .more (radix.pending (Reference.extend radix.base number value)) := by
  cases radix with
  | decimal =>
    have found : Reference.decimalValue? digit = some value := found
    simp only [pending, Reference.Pending.step, found, base]
  | hexadecimal =>
    have found : Reference.hexValue? digit = some value := found
    simp only [pending, Reference.Pending.step, found, base]

theorem read_pending {radix : Radix} {number total : Nat} {digits : List Char}
    (stands : radix.number? number digits = some total) :
    (radix.pending (Reference.held number)).read (digits ++ [';']) =
      some (.numbered (Reference.held total)) := by
  induction digits generalizing number with
  | nil =>
    obtain rfl := Option.some.inj stands
    cases radix <;> rfl
  | cons digit rest induction =>
    rw [number?] at stands
    split at stands
    · next value found =>
      have positive : 0 < radix.base := by cases radix <;> decide
      rw [List.cons_append, Reference.Pending.read, radix.step_pending _ found,
        Reference.extend_held _ _ _ positive]
      exact induction stands
    · cases stands

theorem held_of_value? {radix : Radix} {digit : Char} {value : Nat}
    (found : radix.value? digit = some value) :
    Reference.held (0 * radix.base + value) = value := by
  have bounded : value ≤ digit.toNat := by
    cases radix with
    | decimal =>
      have found : Reference.decimalValue? digit = some value := found
      rw [Reference.decimalValue?] at found
      split at found
      · cases found
        omega
      · cases found
    | hexadecimal =>
      have found : Reference.hexValue? digit = some value := found
      rw [Reference.hexValue?] at found
      split at found
      · cases found
        omega
      · split at found
        · cases found
          omega
        · split at found
          · cases found
            omega
          · cases found
  have scalar := Reference.toNat_lt_numberBound digit
  rw [Nat.zero_mul, Nat.zero_add, Reference.held, Nat.min_eq_left (by omega)]

/-- The first digit shows which radix is meant. -/
theorem read_opened {radix : Radix} {total : Nat} {digits : List Char} (begun : digits ≠ [])
    (stands : radix.number? 0 digits = some total) :
    Reference.Pending.opened.read ('#' :: (radix.sign ++ (digits ++ [';']))) =
      some (.numbered (Reference.held total)) := by
  obtain ⟨digit, rest, rfl⟩ := List.exists_cons_of_ne_nil begun
  rw [number?] at stands
  split at stands
  · next value found =>
    have read := read_pending stands
    rw [held_of_value? found] at read
    cases radix with
    | decimal =>
      have digital : Reference.decimalValue? digit = some value := found
      have other : (digit == 'x') = false := by
        rw [beq_eq_false_iff_ne]
        rintro rfl
        cases digital
      have first : Reference.Pending.hash.step digit = .more (.decimal value) := by
        rw [Reference.Pending.step, other, digital]
        rfl
      show Reference.Pending.hash.read (digit :: (rest ++ [';'])) = _
      rw [Reference.Pending.read, first]
      exact read
    | hexadecimal =>
      have digital : Reference.hexValue? digit = some value := found
      have first : Reference.Pending.hexadecimalStart.step digit = .more (.hexadecimal value) := by
        rw [Reference.Pending.step, digital]
      show Reference.Pending.hexadecimalStart.read (digit :: (rest ++ [';'])) = _
      rw [Reference.Pending.read, first]
      exact read
  · cases stands

end Radix

namespace Reader

variable {content : Content}

/-- One character leads on if it completes the tokens of some characters. -/
theorem leads_characters (unfinished : content.root = none) {known next : Lexeme → Prop}
    {character : Char} {pushed : List Char}
    (steps : ∀ lexeme, known lexeme → ∀ start here, ∃ onward,
      lexeme.step start here character = .ok (onward, pushed.map .character) ∧ next onward) :
    Leads (At known content) [character] (At next (content.pushAll pushed)) := by
  refine leads_tokens unfinished fun lexeme lexemeKnown start here => ?_
  obtain ⟨onward, stepped, onwardKnown⟩ := steps lexeme lexemeKnown start here
  refine ⟨onward, _, stepped, onwardKnown, fun replace => ?_⟩
  rw [foldlM_addToken_characters, Content.foldl_push]

/-- Of three right brackets in a row the first is no longer held back. -/
theorem leads_bracket (unfinished : content.root = none) {brackets : Nat} (few : brackets ≤ 2) :
    Leads (At (· = .data brackets) content) [']']
      (At (· = .data (min 2 (brackets + 1)))
        (content.pushAll (List.replicate (brackets - 1) ']'))) := by
  refine leads_characters unfinished ?_
  rintro _ rfl start here
  refine ⟨_, ?_, rfl⟩
  match brackets, few with
  | 0, _ | 1, _ | 2, _ => rfl

/-- The end of a section of character data, while right brackets are held back. -/
theorem leads_sectionEnd (unfinished : content.root = none) {brackets : Nat} (few : brackets ≤ 2) :
    Leads (At (· = .data brackets) content) [']', ']', '>']
      (At InText (content.pushAll (List.replicate brackets ']'))) := by
  have ended {content : Content} (unfinished : content.root = none) :
      Leads (At (· = .data 2) content) ['>'] (At InText content) := by
    refine leads_silently unfinished ?_
    rintro _ rfl start here
    exact ⟨_, rfl, 0, rfl⟩
  have first := leads_bracket unfinished few
  have second := @leads_bracket (content.pushAll (List.replicate (brackets - 1) ']')) unfinished
    (min 2 (brackets + 1)) (by omega)
  have held : min 2 (min 2 (brackets + 1) + 1) = 2 := by omega
  have total : brackets - 1 + (min 2 (brackets + 1) - 1) = brackets := by omega
  rw [Content.pushAll_pushAll, List.replicate_append_replicate, held, total] at second
  exact .cons first (.cons second (ended unfinished))

/-- Any other character of a section gives up the brackets that were held back. -/
theorem leads_sectionCharacter (unfinished : content.root = none) {brackets : Nat}
    {character : Char} (legal : isLegal character) (unreturned : character ≠ '\r')
    (bracket : character ≠ ']') (inside : ¬ (character = '>' ∧ brackets = 2)) :
    Leads (At (· = .data brackets) content) [character]
      (At (· = .data 0) (content.pushAll (List.replicate brackets ']' ++ [character]))) := by
  refine leads_characters unfinished ?_
  rintro _ rfl start here
  refine ⟨.data 0, ?_, rfl⟩
  rw [Lexeme.step, Lexeme.stepData]
  simp [bracket, inside, unreturned, legal]

/-- A section of character data, while right brackets are held back. -/
theorem leads_data (unfinished : content.root = none) {brackets : Nat} (few : brackets ≤ 2)
    {text : List Char} (legal : AllLegal text) (free : '\r' ∉ text)
    (inside : ¬ [']', ']', '>'] <:+: List.replicate brackets ']' ++ text) :
    Leads (At (· = .data brackets) content) (text ++ [']', ']', '>'])
      (At InText (content.pushAll (List.replicate brackets ']' ++ text))) := by
  induction text generalizing content brackets with
  | nil =>
    rw [List.append_nil]
    exact leads_sectionEnd unfinished few
  | cons character rest induction =>
    have legalRest : AllLegal rest := fun other member => legal other (List.mem_cons_of_mem _ member)
    rw [List.mem_cons, not_or] at free
    by_cases bracket : character = ']'
    · subst bracket
      have whole : List.replicate (brackets - 1) ']' ++
          (List.replicate (min 2 (brackets + 1)) ']' ++ rest) =
            List.replicate brackets ']' ++ ']' :: rest := by
        have total : brackets - 1 + min 2 (brackets + 1) = brackets + 1 := by omega
        rw [← List.append_assoc, List.replicate_append_replicate, total, List.replicate_succ',
          List.append_assoc]
        rfl
      have first := leads_bracket unfinished few
      have following := @induction (content.pushAll (List.replicate (brackets - 1) ']')) unfinished
        (min 2 (brackets + 1)) (by omega) legalRest free.2
        fun stands => inside (stands.trans (whole ▸ (List.suffix_append _ _).isInfix))
      rw [Content.pushAll_pushAll, whole] at following
      exact .cons first following
    · have first := @leads_sectionCharacter content unfinished brackets character
        (legal character List.mem_cons_self) (Ne.symm free.1) bracket (by
          rintro ⟨rfl, rfl⟩
          exact inside ⟨[], rest, rfl⟩)
      have following := @induction
        (content.pushAll (List.replicate brackets ']' ++ [character])) unfinished 0 (by omega)
        legalRest free.2
        fun stands => inside (stands.trans
          ((List.suffix_cons _ _).trans (List.suffix_append _ _)).isInfix)
      rw [Content.pushAll_pushAll, List.replicate_zero, List.nil_append, List.append_assoc]
        at following
      exact .cons first following

/-- In a comment or an instruction of which something is known. -/
def Remarking (known : Remark.Pending → Prop) (lexeme : Lexeme) : Prop :=
  ∃ pending, lexeme = .remark pending ∧ known pending

/-- One character leads on within a remark if it is not its last. -/
theorem leads_remarking (unfinished : content.root = none) {known next : Remark.Pending → Prop}
    {character : Char}
    (steps : ∀ pending, known pending → ∃ onward,
      pending.step character = .more onward ∧ next onward) :
    Leads (At (Remarking known) content) [character] (At (Remarking next) content) := by
  refine leads_silently unfinished ?_
  rintro _ ⟨pending, rfl, pendingKnown⟩ start here
  obtain ⟨onward, stepped, onwardKnown⟩ := steps pending pendingKnown
  exact ⟨.remark onward, by rw [Lexeme.step, stepped], onward, rfl, onwardKnown⟩

/-- A remark that is no declaration ends without a trace. -/
theorem leads_remark (unfinished : content.root = none) {known : Remark.Pending → Prop}
    (ends : ∀ pending, known pending → ∃ remark,
      pending.step '>' = .done remark ∧ remark.isDeclaration = false) :
    Leads (At (Remarking known) content) ['>'] (At InText content) := by
  refine leads_tokens unfinished ?_
  rintro _ ⟨pending, rfl, pendingKnown⟩ start here
  obtain ⟨remark, stepped, other⟩ := ends pending pendingKnown
  refine ⟨.text 0, [.remark remark], by rw [Lexeme.step, stepped], ⟨0, rfl⟩, fun replace => ?_⟩
  rw [List.foldlM_cons, Content.addToken, other]
  rfl

/-- In the body of a comment, behind so many dashes. -/
def InComment (dashes : Nat) (pending : Remark.Pending) : Prop :=
  ∃ seen, pending = .comment seen dashes

/-- The body of a comment, behind no dash of it or behind one. -/
theorem leads_comment (unfinished : content.root = none) {dashes : Nat} (few : dashes ≤ 1)
    {body : List Char} (legal : AllLegal body)
    (inside : ¬ ['-', '-'] <:+: List.replicate dashes '-' ++ (body ++ ['-'])) :
    Leads (At (Remarking (InComment dashes)) content) (body ++ ['-', '-', '>'])
      (At InText content) := by
  have dash (before : Nat) (single : before ≤ 1) :
      Leads (At (Remarking (InComment before)) content) ['-']
        (At (Remarking (InComment (before + 1))) content) := by
    refine leads_remarking unfinished ?_
    rintro _ ⟨seen, rfl⟩
    match before, single with
    | 0, _ | 1, _ => exact ⟨_, rfl, seen, rfl⟩
  induction body generalizing dashes with
  | nil =>
    match dashes, few with
    | 0, _ =>
      have ended : Leads (At (Remarking (InComment 2)) content) ['>'] (At InText content) := by
        refine leads_remark unfinished ?_
        rintro _ ⟨seen, rfl⟩
        exact ⟨_, rfl, rfl⟩
      exact .cons (dash 0 (by omega)) (.cons (dash 1 (by omega)) ended)
    | 1, _ => exact (inside (List.infix_refl _)).elim
  | cons character rest induction =>
    have legalRest : AllLegal rest := fun other member => legal other (List.mem_cons_of_mem _ member)
    by_cases dashed : character = '-'
    · subst dashed
      match dashes, few with
      | 0, _ => exact .cons (dash 0 (by omega)) (induction (by omega) legalRest inside)
      | 1, _ => exact (inside ⟨[], rest ++ ['-'], rfl⟩).elim
    · have first : Leads (At (Remarking (InComment dashes)) content) [character]
          (At (Remarking (InComment 0)) content) := by
        refine leads_remarking unfinished ?_
        rintro _ ⟨seen, rfl⟩
        have allowed := legal character List.mem_cons_self
        match dashes, few with
        | 0, _ =>
          exact ⟨.comment (character :: seen) 0, by simp [Remark.Pending.step, dashed, allowed], _,
            rfl⟩
        | 1, _ =>
          exact ⟨.comment (character :: '-' :: seen) 0,
            by simp [Remark.Pending.step, dashed, allowed], _, rfl⟩
      refine .cons first (induction (by omega) legalRest fun stands => inside (stands.trans ?_))
      exact ((List.suffix_cons _ _).trans (List.suffix_append _ _)).isInfix

/-- Behind the target of an instruction, just behind a question mark or not. -/
def InRest (target : String) (question : Bool) (pending : Remark.Pending) : Prop :=
  ∃ seen, pending = .rest target seen question

/-- What follows the target of an instruction. -/
theorem leads_rest (unfinished : content.root = none) {target : String} (other : target ≠ "xml")
    {question : Bool} {rest : List Char} (legal : AllLegal rest)
    (inside : ¬ ['?', '>'] <:+: List.replicate question.toNat '?' ++ rest) :
    Leads (At (Remarking (InRest target question)) content) (rest ++ ['?', '>'])
      (At InText content) := by
  have asked (question : Bool) :
      Leads (At (Remarking (InRest target question)) content) ['?']
        (At (Remarking (InRest target true)) content) := by
    refine leads_remarking unfinished ?_
    rintro _ ⟨seen, rfl⟩
    cases question <;> exact ⟨_, rfl, _, rfl⟩
  induction rest generalizing question with
  | nil =>
    have ended : Leads (At (Remarking (InRest target true)) content) ['>']
        (At InText content) := by
      refine leads_remark unfinished ?_
      rintro _ ⟨seen, rfl⟩
      exact ⟨_, rfl, beq_eq_false_iff_ne.mpr other⟩
    exact .cons (asked question) ended
  | cons character rest induction =>
    have legalRest : AllLegal rest := fun other member => legal other (List.mem_cons_of_mem _ member)
    by_cases asks : character = '?'
    · subst asks
      refine .cons (asked question) (induction legalRest fun stands => inside (stands.trans ?_))
      exact (List.suffix_append _ _).isInfix
    · have first : Leads (At (Remarking (InRest target question)) content) [character]
          (At (Remarking (InRest target false)) content) := by
        refine leads_remarking unfinished ?_
        rintro _ ⟨seen, rfl⟩
        have allowed := legal character List.mem_cons_self
        cases question with
        | false =>
          exact ⟨.rest target (character :: seen) false,
            by simp [Remark.Pending.step, asks, allowed], _, rfl⟩
        | true =>
          have open' : character ≠ '>' := by
            rintro rfl
            exact inside ⟨[], rest, rfl⟩
          exact ⟨.rest target (character :: '?' :: seen) false,
            by simp [Remark.Pending.step, asks, open', allowed], _, rfl⟩
      refine .cons first (induction legalRest fun stands => inside (stands.trans ?_))
      exact ((List.suffix_cons _ _).trans (List.suffix_append _ _)).isInfix

theorem unreserved_of_map {target : List Char}
    (unreserved : target.map Char.toLower ≠ ['x', 'm', 'l']) :
    Remark.isReservedTarget (String.ofList target) = false ∧ String.ofList target ≠ "xml" := by
  constructor
  · rw [Remark.isReservedTarget, Bool.and_eq_false_iff, beq_eq_false_iff_ne]
    refine .inr fun same => unreserved ?_
    have lower := congrArg String.toList same
    rwa [String.toList_map, String.toList_ofList] at lower
  · intro same
    have reserved := congrArg String.toList same
    rw [String.toList_ofList] at reserved
    exact unreserved (by rw [reserved]; rfl)

theorem isNamePart_of_isSpace {character : Char} (space : isSpace character) :
    isNamePart character = false := by
  simp only [isSpace, Bool.or_eq_true, beq_iff_eq] at space
  rcases space with ((rfl | rfl) | rfl) | rfl <;> rfl

/-- The end of an instruction behind the last character of its target. -/
theorem leads_targetEnd (unfinished : content.root = none) {seen rest : List Char}
    (unreserved : seen.reverse.map Char.toLower ≠ ['x', 'm', 'l']) (legal : AllLegal rest)
    (blank : rest.head?.all isSpace) (inside : ¬ ['?', '>'] <:+: rest) :
    Leads (At (Remarking (· = .targetName seen)) content) (rest ++ ['?', '>'])
      (At InText content) := by
  obtain ⟨ordinary, other⟩ := unreserved_of_map unreserved
  cases rest with
  | nil =>
    have asked : Leads (At (Remarking (· = .targetName seen)) content) ['?']
        (At (Remarking (· = .targetEnd (String.ofList seen.reverse))) content) := by
      refine leads_remarking unfinished ?_
      rintro _ rfl
      have ended : isNamePart '?' = false := by decide
      refine ⟨_, ?_, rfl⟩
      simp [Remark.Pending.step, ended, ordinary, isSpace]
    have ended : Leads (At (Remarking (· = .targetEnd (String.ofList seen.reverse))) content)
        ['>'] (At InText content) := by
      refine leads_remark unfinished ?_
      rintro _ rfl
      exact ⟨_, rfl, beq_eq_false_iff_ne.mpr other⟩
    exact .cons asked ended
  | cons first more =>
    have space : isSpace first := blank
    have parted : Leads (At (Remarking (· = .targetName seen)) content) [first]
        (At (Remarking (InRest (String.ofList seen.reverse) false)) content) := by
      refine leads_remarking unfinished ?_
      rintro _ rfl
      refine ⟨.rest (String.ofList seen.reverse) [first] false, ?_, _, rfl⟩
      simp [Remark.Pending.step, isNamePart_of_isSpace space, ordinary, space]
    refine .cons parted (leads_rest unfinished other ?_ fun stands => inside (stands.trans ?_))
    · exact fun character member => legal character (List.mem_cons_of_mem _ member)
    · exact (List.suffix_cons _ _).isInfix

/-- The target of an instruction, and what follows it. -/
theorem leads_target (unfinished : content.root = none) {target seen rest : List Char}
    (parts : ∀ character ∈ target, isNamePart character)
    (unreserved : (seen.reverse ++ target).map Char.toLower ≠ ['x', 'm', 'l'])
    (legal : AllLegal rest) (blank : rest.head?.all isSpace)
    (inside : ¬ ['?', '>'] <:+: rest) :
    Leads (At (Remarking (· = .targetName seen)) content)
      (target ++ (rest ++ ['?', '>'])) (At InText content) := by
  induction target generalizing seen with
  | nil =>
    rw [List.append_nil] at unreserved
    exact leads_targetEnd unfinished unreserved legal blank inside
  | cons character more induction =>
    have part := parts character List.mem_cons_self
    have first : Leads (At (Remarking (· = .targetName seen)) content) [character]
        (At (Remarking (· = .targetName (character :: seen))) content) := by
      refine leads_remarking unfinished ?_
      rintro _ rfl
      exact ⟨_, by rw [Remark.Pending.step, if_pos part], rfl⟩
    refine .cons first (induction (fun other member => parts other ?_) ?_)
    · exact List.mem_cons_of_mem _ member
    · simpa using unreserved

end Reader

namespace Piece

open Reader (Leads At InText Remarking leads_less leads_silently)

variable {content : Content}

theorem leads_bang (unfinished : content.root = none) :
    Leads (At (· = .angle) content) ['!'] (At (· = .bang) content) := by
  refine leads_silently unfinished ?_
  rintro _ rfl start here
  exact ⟨_, rfl, rfl⟩

/-- A section of character data is read as its text. -/
theorem leads_write_data (unfinished : content.root = none) {text : List Char}
    (legal : AllLegal text) (free : '\r' ∉ text) (inside : ¬ [']', ']', '>'] <:+: text) :
    Leads (At InText content) (data text).write (At InText (content.pushAll text)) := by
  have bracket : Leads (At (· = .bang) content) ['['] (At (· = .sectionName []) content) := by
    refine leads_silently unfinished ?_
    rintro _ rfl start here
    exact ⟨_, rfl, rfl⟩
  have name : Leads (At (· = .sectionName []) content) Lexeme.sectionOpening
      (At (· = .data 0) content) := by
    have letter {before after : Lexeme} {character : Char}
        (steps : ∀ start here, before.step start here character = .ok (after, [])) :
        Leads (At (· = before) content) [character] (At (· = after) content) := by
      refine leads_silently unfinished ?_
      rintro _ rfl start here
      exact ⟨_, steps start here, rfl⟩
    exact .cons (@letter _ (.sectionName ['C']) 'C' fun _ _ => rfl)
      (.cons (@letter _ (.sectionName ['D', 'C']) 'D' fun _ _ => rfl)
        (.cons (@letter _ (.sectionName ['A', 'D', 'C']) 'A' fun _ _ => rfl)
          (.cons (@letter _ (.sectionName ['T', 'A', 'D', 'C']) 'T' fun _ _ => rfl)
            (.cons (@letter _ (.sectionName ['A', 'T', 'A', 'D', 'C']) 'A' fun _ _ => rfl)
              (@letter _ (.data 0) '[' fun _ _ => rfl)))))
  rw [write]
  exact .cons (leads_less unfinished) (.cons (leads_bang unfinished) (.cons bracket (name.append
    (Reader.leads_data unfinished (Nat.zero_le 2) legal free inside))))

/-- A comment is passed over. -/
theorem leads_write_comment (unfinished : content.root = none) {body : List Char}
    (legal : AllLegal body) (inside : ¬ ['-', '-'] <:+: body ++ ['-']) :
    Leads (At InText content) (comment body).write (At InText content) := by
  have dash : Leads (At (· = .bang) content) ['-'] (At (Remarking (· = .dash)) content) := by
    refine leads_silently unfinished ?_
    rintro _ rfl start here
    exact ⟨_, rfl, _, rfl, rfl⟩
  have begun : Leads (At (Remarking (· = .dash)) content) ['-']
      (At (Remarking (Reader.InComment 0)) content) := by
    refine Reader.leads_remarking unfinished ?_
    rintro _ rfl
    exact ⟨_, rfl, _, rfl⟩
  rw [write]
  exact .cons (leads_less unfinished) (.cons (leads_bang unfinished) (.cons dash (.cons begun
    (Reader.leads_comment unfinished (Nat.zero_le 1) legal inside))))

/-- An instruction is passed over. -/
theorem leads_write_instruction (unfinished : content.root = none) {target rest : List Char}
    (proper : (instruction target rest).Proper) :
    Leads (At InText content) (instruction target rest).write (At InText content) := by
  obtain ⟨plain, unreserved, legal, blank, inside⟩ := proper
  obtain ⟨first, more, rfl⟩ : ∃ first more, target = first :: more := by
    cases target with
    | nil => exact plain.elim
    | cons first more => exact ⟨first, more, rfl⟩
  have question : Leads (At (· = .angle) content) ['?']
      (At (Remarking (· = .targetStart)) content) := by
    refine leads_silently unfinished ?_
    rintro _ rfl start here
    exact ⟨_, rfl, _, rfl, rfl⟩
  have begun : Leads (At (Remarking (· = .targetStart)) content) [first]
      (At (Remarking (· = .targetName [first])) content) := by
    refine Reader.leads_remarking unfinished ?_
    rintro _ rfl
    exact ⟨_, if_pos plain.1, rfl⟩
  rw [write]
  exact .cons (leads_less unfinished) (.cons question (.cons begun
    (Reader.leads_target unfinished plain.2 unreserved legal blank inside)))

/-- Two dashes do not meet at the end of the body of a comment. -/
theorem Proper.apart_of_comment {body : List Char} (proper : (comment body).Proper) :
    ¬ ['-', '-'] <:+: body ++ ['-'] := by
  obtain ⟨_, inside, last⟩ := proper
  rw [List.infix_concat_iff]
  rintro (⟨front, whole⟩ | within)
  · have same : (front ++ ['-']) ++ ['-'] = body ++ ['-'] := by simpa using whole
    have dashed : front ++ ['-'] = body := List.append_inj_left' same rfl
    exact last (by rw [← dashed, List.getLast?_concat])
  · exact inside within

/-- An instruction with one spelling of line ends is still one. -/
theorem Proper.unified_instruction {target rest : List Char}
    (proper : (instruction target rest).Proper) : (instruction target rest).unified.Proper := by
  obtain ⟨plain, unreserved, legal, blank, inside⟩ := proper
  refine ⟨plain, unreserved, legal.unifyNewlines, ?_,
    fun stands => inside (infix_of_unifyNewlines (by decide) stands)⟩
  rw [Option.all_eq_true] at blank ⊢
  intro first head
  rcases Text.head?_unifyNewlines head with same | rfl
  · exact blank first same
  · rfl

/-- Every proper piece is read as what it denotes. -/
theorem Proper.leads {piece : Piece} (proper : piece.Proper) (unfinished : content.root = none) :
    Leads (At InText content) piece.unified.write (At InText (content.pushAll piece.meaning)) := by
  cases piece with
  | literal text =>
    have legal : AllLegal text := proper
    have text := @Reader.leads_text content unfinished (String.ofList (unifyNewlines text))
      (by rw [String.toList_ofList]; exact legal.unifyNewlines)
      (by rw [String.toList_ofList]; exact Text.return_not_mem_unifyNewlines text)
    rwa [String.toList_ofList] at text
  | data text =>
    obtain ⟨legal, inside⟩ := proper
    exact leads_write_data unfinished legal.unifyNewlines
      (Text.return_not_mem_unifyNewlines text)
      fun stands => inside (infix_of_unifyNewlines (by decide) stands)
  | number radix digits character =>
    obtain ⟨begun, stands, legal⟩ := proper
    exact Reader.leads_reference unfinished (Radix.read_opened begun stands)
      (Reference.standsFor_held legal)
  | entity name character =>
    have known : ∀ entry ∈ predefinedEntities,
        Reference.Pending.opened.read (entry.1.toList ++ [';']) = some (.named entry.1) ∧
          Reference.predefined? entry.1 = some entry.2 := by
      decide
    obtain ⟨read, stands⟩ := known _ proper
    exact Reader.leads_reference unfinished read stands
  | comment body =>
    refine leads_write_comment unfinished (AllLegal.unifyNewlines proper.1) fun stands => ?_
    have whole : unifyNewlines (body ++ ['-']) = unifyNewlines body ++ ['-'] :=
      unifyNewlines_append_of_apart body (by decide)
    exact proper.apart_of_comment (infix_of_unifyNewlines (by decide) (whole ▸ stands))
  | instruction target rest => exact leads_write_instruction unfinished proper.unified_instruction

/-- Proper pieces are read as what they denote, one after another. -/
theorem leads_pieces {pieces : List Piece} (proper : ∀ piece ∈ pieces, piece.Proper)
    (unfinished : content.root = none) :
    Leads (At InText content) (writePieces (pieces.map unified))
      (At InText (content.pushAll (pieces.flatMap meaning))) := by
  induction pieces generalizing content with
  | nil => exact .nil fun reader reached => reached
  | cons piece rest induction =>
    rw [List.forall_mem_cons] at proper
    have following := @induction (content.pushAll piece.meaning) proper.2 unfinished
    rw [Content.pushAll_pushAll] at following
    rw [List.map_cons, writePieces_cons, List.flatMap_cons]
    exact (proper.1.leads unfinished).append following

/-- Whatever pieces are written, they are read as what they denote. -/
theorem leads_denoted {pieces : List Piece} (proper : ∀ piece ∈ pieces, piece.Proper)
    (unfinished : content.root = none) :
    Leads (At InText content) (writePieces ((gathered [] pieces).map unified))
      (At InText (content.pushAll (denoted pieces))) :=
  leads_pieces (proper_gathered (by simp [AllLegal]) proper) unfinished

end Piece

end Xml

end ScenarioTree
