/-
This file shows that a text in quotes stays on one line and that nothing of it is lost. Between the
quotes stand printable characters only, whatever the text is made of, and no line break is
printable.

The text is found again by reading from left to right, whatever follows the second quote. Each
character stands there as itself, behind a backslash, or by its code point. The quote in use never
stands there as itself, so the first one found is the end; and the letter behind a backslash says
how many digits there are.
-/

import ScenarioTree.Proofs.Dump
import ScenarioTree.Text.Quoted
import ScenarioTree.Yaml.Scalar

namespace ScenarioTree.Text

open ScenarioTree.Yaml (escapeWidth? hexNumber?)

/-! ### Printable characters -/

/-- Nothing but printable characters. -/
def Plain (text : List Char) : Prop :=
  ∀ character ∈ text, isPrintable character

instance (text : List Char) : Decidable (Plain text) :=
  decidable_of_iff (text.all isPrintable) List.all_eq_true

theorem plain_nil : Plain [] := fun _ member => absurd member List.not_mem_nil

theorem plain_cons {first : Char} {rest : List Char} :
    Plain (first :: rest) ↔ isPrintable first ∧ Plain rest :=
  List.forall_mem_cons

theorem plain_append {first second : List Char} :
    Plain (first ++ second) ↔ Plain first ∧ Plain second :=
  List.forall_mem_append

/-- The characters at which a text may be cut into lines. -/
def lineBreaks : List Char :=
  ['\n', '\x0B', '\x0C', '\r', '\x1C', '\x1D', '\x1E', '\u0085', '\u2028', '\u2029']

/-- No line break is printable. -/
theorem Plain.not_mem {text : List Char} (plain : Plain text) {character : Char}
    (breaks : character ∈ lineBreaks) : character ∉ text := fun member => by
  have all : lineBreaks.all (!isPrintable ·) = true := by decide +kernel
  have unprintable := List.all_eq_true.mp all character breaks
  rw [plain character member] at unprintable
  cases unprintable

theorem isPrintable_of_ascii {character : Char} (low : 0x20 ≤ character.toNat)
    (high : character.toNat < 0x7F) : isPrintable character := by
  rw [isPrintable, if_pos high, decide_eq_true low]

theorem isPrintable_hexDigit : ∀ digit < 16, isPrintable (hexDigit digit) := by
  decide

theorem plain_hexDigits (width number : Nat) : Plain (hexDigits width number) := by
  induction width generalizing number with
  | zero => exact plain_nil
  | succ width induction =>
    have last := isPrintable_hexDigit (number % 16) (Nat.mod_lt _ (by decide))
    exact plain_append.mpr ⟨induction _, plain_cons.mpr ⟨last, plain_nil⟩⟩

/-! ### How characters stand inside quotes -/

/-- The character that a letter behind a backslash stands for, if no digits belong to it. -/
def escapedBy : Char → Char
  | 'n' => '\n'
  | 'r' => '\r'
  | 't' => '\t'
  | character => character

/-- How a character may stand inside quotes: as itself, behind a backslash or by a letter, and by
its code point. -/
inductive Stands (quote character : Char) : List Char → Prop where
  | plain (printable : isPrintable character) (unquoted : character ≠ quote)
      (unescaped : character ≠ '\\') : Stands quote character [character]
  | short {letter : Char} (alone : escapeWidth? letter = none) (printable : isPrintable letter)
      (meant : escapedBy letter = character) : Stands quote character ['\\', letter]
  | code {letter : Char} {width : Nat} (known : escapeWidth? letter = some width)
      (printable : isPrintable letter) (small : character.toNat < 16 ^ width) :
      Stands quote character ('\\' :: letter :: hexDigits width character.toNat)

theorem quoteFor_cases (characters : List Char) :
    quoteFor characters = '\'' ∨ quoteFor characters = '"' := by
  rw [quoteFor]
  split
  · exact .inr rfl
  · exact .inl rfl

theorem stands_quotedCharacter {quote : Char} (sign : quote = '\'' ∨ quote = '"')
    (character : Char) : Stands quote character (quotedCharacter quote character) := by
  rw [quotedCharacter]
  split
  · next same =>
    simp only [Bool.or_eq_true, beq_iff_eq] at same
    have known : character = '\'' ∨ character = '"' ∨ character = '\\' := by
      rcases same with rfl | rfl
      · exact sign.imp_right .inl
      · exact .inr (.inr rfl)
    rcases known with rfl | rfl | rfl <;> exact .short rfl rfl rfl
  · next other =>
    simp only [Bool.or_eq_true, beq_iff_eq, not_or] at other
    repeat' split
    · next same => exact .short rfl rfl (beq_iff_eq.mp same).symm
    · next same => exact .short rfl rfl (beq_iff_eq.mp same).symm
    · next same => exact .short rfl rfl (beq_iff_eq.mp same).symm
    · next printable => exact .plain printable other.1 other.2
    · next small => exact .code rfl rfl small
    · next small => exact .code rfl rfl small
    · have valid : character.toNat < 0xD800 ∨
          0xDFFF < character.toNat ∧ character.toNat < 0x110000 := character.valid
      have small : character.toNat < 16 ^ 8 := by omega
      exact .code rfl rfl small

theorem Stands.text_plain {quote character : Char} {text : List Char}
    (stands : Stands quote character text) : Plain text := by
  cases stands with
  | plain printable _ _ => exact plain_cons.mpr ⟨printable, plain_nil⟩
  | short _ printable _ => exact plain_cons.mpr ⟨rfl, plain_cons.mpr ⟨printable, plain_nil⟩⟩
  | code _ printable _ =>
    exact plain_cons.mpr ⟨rfl, plain_cons.mpr ⟨printable, plain_hexDigits _ _⟩⟩

/-- Only printable characters stand in a quoted text. -/
theorem plain_quoted (text : String) : Plain (quoted text).toList := by
  have sign := quoteFor_cases text.toList
  have ends : isPrintable (quoteFor text.toList) := by
    rcases sign with same | same <;> rw [same] <;> rfl
  rw [quoted, String.toList_ofList, quotedCharacters]
  refine plain_cons.mpr ⟨ends, plain_append.mpr ⟨?_, plain_cons.mpr ⟨ends, plain_nil⟩⟩⟩
  intro character member
  obtain ⟨written, _, member⟩ := List.mem_flatMap.mp member
  exact (stands_quotedCharacter sign written).text_plain character member

/-! ### Reading back -/

/-- The character that stands first behind a quote, and what follows it. -/
def unquoteCharacter : List Char → Option (Char × List Char)
  | '\\' :: letter :: rest =>
    match escapeWidth? letter with
    | some width => (hexNumber? (rest.take width)).map fun code => (.ofNat code, rest.drop width)
    | none => some (escapedBy letter, rest)
  | character :: rest => some (character, rest)
  | [] => none

/-- The characters up to a quote, and what follows it. -/
def unquoteFrom (quote : Char) : Nat → List Char → Option (List Char × List Char)
  | 0, _ => none
  | fuel + 1, characters =>
    if characters.head? = some quote then some ([], characters.tail)
    else do
      let (first, rest) ← unquoteCharacter characters
      let (others, rest) ← unquoteFrom quote fuel rest
      return (first :: others, rest)

/-- The text in the quotes that some characters begin with, and what follows them. -/
def unquote? : List Char → Option (String × List Char)
  | [] => none
  | quote :: rest => do
    let (characters, rest) ← unquoteFrom quote (rest.length + 1) rest
    return (String.ofList characters, rest)

theorem Stands.read {quote character : Char} {text : List Char}
    (stands : Stands quote character text) (rest : List Char) :
    unquoteCharacter (text ++ rest) = some (character, rest) := by
  cases stands with
  | plain _ _ unescaped => simp [unquoteCharacter, unescaped]
  | short alone _ meant => simp [unquoteCharacter, alone, meant]
  | @code letter width known _ small =>
    have length := length_hexDigits width character.toNat
    have number : hexNumber? (hexDigits width character.toNat) = some character.toNat := by
      rw [hexNumber?_hexDigits, Nat.mod_eq_of_lt small]
    simp [unquoteCharacter, known, List.take_left' length, List.drop_left' length, number]

theorem Stands.head?_ne {quote character : Char} (sign : quote ≠ '\\') {text : List Char}
    (stands : Stands quote character text) (rest : List Char) :
    (text ++ rest).head? ≠ some quote := by
  cases stands with
  | plain _ unquoted _ => simpa using unquoted
  | short | code => simpa using sign.symm

theorem Stands.length_pos {quote character : Char} {text : List Char}
    (stands : Stands quote character text) : 0 < text.length := by
  cases stands <;> exact Nat.succ_pos _

/-- Characters are read up to the quote behind them. -/
theorem unquoteFrom_flatMap {quote : Char} (sign : quote = '\'' ∨ quote = '"')
    (characters rest : List Char) {fuel : Nat}
    (enough : (characters.flatMap (quotedCharacter quote)).length < fuel) :
    unquoteFrom quote fuel (characters.flatMap (quotedCharacter quote) ++ quote :: rest) =
      some (characters, rest) := by
  induction characters generalizing fuel with
  | nil =>
    obtain ⟨fuel, rfl⟩ := Nat.exists_eq_add_one_of_ne_zero (Nat.ne_zero_of_lt enough)
    simp [unquoteFrom]
  | cons first others induction =>
    obtain ⟨fuel, rfl⟩ := Nat.exists_eq_add_one_of_ne_zero (Nat.ne_zero_of_lt enough)
    have stands := stands_quotedCharacter sign first
    have proper : quote ≠ '\\' := by rcases sign with rfl | rfl <;> decide
    rw [List.flatMap_cons, List.length_append] at enough
    -- a character takes at least one place, so what is left of the bound is enough for the others
    have some := stands.length_pos
    have left := @induction fuel (by omega)
    rw [List.flatMap_cons, List.append_assoc, unquoteFrom, if_neg (stands.head?_ne proper _),
      stands.read]
    simp [left]

/-- A text is found again in its quotes. -/
theorem unquote?_quoted (text : String) (rest : List Char) :
    unquote? ((quoted text).toList ++ rest) = some (text, rest) := by
  have read := @unquoteFrom_flatMap _ (quoteFor_cases text.toList) text.toList rest
  have enough (inside : List Char) (quote : Char) :
      inside.length < (inside ++ quote :: rest).length + 1 := by
    rw [List.length_append]
    omega
  rw [quoted, String.toList_ofList, quotedCharacters, List.cons_append, List.append_assoc,
    List.singleton_append, unquote?, read (enough _ _)]
  exact congrArg (fun found => some (found, rest)) String.ofList_toList

end ScenarioTree.Text
