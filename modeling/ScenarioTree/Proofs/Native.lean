/-
This file compares the two ways to make a literal. A value can be given as it is, or as the text
that the value itself would be written as, with blanks around it; an element holds such a text. Both
ways lead to the same node for every number that a text can denote. The others, which are the
integers with too many digits and the doubles that are not finite, are literals only when they are
given as values.
-/

import ScenarioTree.Proofs.Json
import ScenarioTree.Proofs.Literal
import ScenarioTree.Proofs.Shortest

namespace ScenarioTree

/-! ### Letters -/

namespace Text

theorem toNat_toLower (character : Char) : character.toLower.toNat =
    if 65 ≤ character.toNat ∧ character.toNat ≤ 90 then character.toNat + 32
    else character.toNat := by
  by_cases capital : 65 ≤ character.toNat ∧ character.toNat ≤ 90
  · obtain ⟨valid, changed⟩ : ∃ valid, character.toLower =
        ⟨character.val + ('a'.val - 'A'.val), valid⟩ := ⟨_, dif_pos capital⟩
    have distance : ('a'.val - 'A'.val).toNat = 32 := rfl
    rw [if_pos capital, changed, ← Char.toNat_val, UInt32.toNat_add, distance, Char.toNat_val]
    omega
  · rw [if_neg capital]
    exact congrArg Char.toNat (dif_neg capital)

theorem toNat_toUpper (character : Char) : character.toUpper.toNat =
    if 97 ≤ character.toNat ∧ character.toNat ≤ 122 then character.toNat - 32
    else character.toNat := by
  by_cases small : 97 ≤ character.toNat ∧ character.toNat ≤ 122
  · obtain ⟨valid, changed⟩ : ∃ valid, character.toUpper =
        ⟨character.val + ('A'.val - 'a'.val), valid⟩ := ⟨_, dif_pos small⟩
    have distance : ('A'.val - 'a'.val).toNat = 2 ^ 32 - 32 := rfl
    rw [if_pos small, changed, ← Char.toNat_val, UInt32.toNat_add, distance, Char.toNat_val]
    omega
  · rw [if_neg small]
    exact congrArg Char.toNat (dif_neg small)

/-- A small letter is what its two forms have in common. -/
theorem toLower_eq_iff {letter character : Char} (small : letter.isLower) :
    character.toLower = letter ↔ character = letter ∨ character = letter.toUpper := by
  have bounds : 97 ≤ letter.toNat ∧ letter.toNat ≤ 122 := by
    obtain ⟨lower, upper⟩ := Bool.and_eq_true_iff.mp small
    exact ⟨of_decide_eq_true lower, of_decide_eq_true upper⟩
  simp only [← Char.toNat_inj, toNat_toLower, toNat_toUpper, if_pos bounds]
  split <;> omega

/-- A word in any mixture of small and capital letters. -/
def InAnyCase (word text : List Char) : Prop :=
  List.Forall₂ (fun letter written => written = letter ∨ written = letter.toUpper) word text

theorem map_toLower_eq_iff {word text : List Char} (small : word.all Char.isLower) :
    text.map Char.toLower = word ↔ InAnyCase word text := by
  induction word generalizing text with
  | nil => rw [List.map_eq_nil_iff, InAnyCase, List.forall₂_nil_left_iff]
  | cons letter word induction =>
    rw [List.all_cons, Bool.and_eq_true] at small
    cases text with
    | nil => simp [InAnyCase]
    | cons character text =>
      rw [List.map_cons, List.cons.injEq, toLower_eq_iff small.1, induction small.2]
      simp only [InAnyCase, List.forall₂_cons]

end Text

/-! ### Texts of numbers -/

namespace Number

theorem visible_of_numeral {text : List Char} (numeral : Numeral text) :
    ∀ character ∈ text, Text.isBlank character = false := by
  intro character member
  have part := Json.isNumberCharacter_of_numeral numeral character member
  rw [Json.isNumberCharacter, Bool.or_eq_true] at part
  rcases part with digit | sign
  · exact visible_of_isDigit digit
  · simp only [List.contains_eq_mem, decide_eq_true_iff, List.mem_cons, List.not_mem_nil,
      or_false] at sign
    rcases sign with rfl | rfl | rfl | rfl | rfl <;> rfl

theorem visible_text (number : Number) :
    ∀ character ∈ number.text.toList, Text.isBlank character = false := by
  cases number with
  | integer value =>
    rw [text, String.toList_ofList]
    exact visible_integerCharacters value
  | real value =>
    cases value with
    | finite value =>
      rw [text, Double.text, String.toList_ofList]
      exact visible_of_numeral value.read_characters.1
    | infinite negative => cases negative <;> simp [text, Double.text, Text.isBlank]
    | undefined => simp [text, Double.text, Text.isBlank]

/-- A double is written as its shortest decimal with its sign, unless it is zero. -/
theorem toList_text_finite {value : Finite} (nonzero : value.rank ≠ 0) :
    (Number.real (.finite value)).text.toList =
      withSign value.negative value.shortest.characters := by
  rw [text, Double.text, String.toList_ofList, Finite.characters, if_neg nonzero]
  rfl

/-- Why the text of a number is refused, if no text denotes the number. -/
def refusal : Number → Refusal
  | .integer value => .tooLong (digitsOf value.natAbs).length
  | .real _ => .notNumber

/-- The text of a number that no text denotes is refused. -/
theorem read_text_of_not_denotable {number : Number} (other : ¬ number.Denotable) :
    ofCharacters number.text.toList = .error number.refusal := by
  cases number with
  | integer value =>
    have long : digitLimit < (Nat.toDigits 10 value.natAbs).length := by
      refine Nat.lt_of_not_le fun short => other ?_
      exact (Nat.length_toDigits_le_iff (by decide) (by decide)).mp short
    rw [text, String.toList_ofList, ofCharacters, integerDigits?_integerCharacters]
    simp only [if_pos long]
    rfl
  | real value =>
    cases value with
    | finite value => exact absurd trivial other
    | infinite negative => cases negative <;> rfl
    | undefined => rfl

/-- Blanks around the text of a number leave the text. -/
theorem trim_text {number : Number} {text : List Char}
    (padded : Text.Padded number.text.toList text) : Text.trim text = number.text.toList := by
  rw [padded.trim_eq, Text.trim_of_visible number.visible_text]

end Number

/-! ### Literals -/

namespace Build

open ScenarioTree.Xml (Element)
open Literal (inside)

namespace Literal

/-- The word for a truth value. -/
def word : Bool → List Char
  | true => ['t', 'r', 'u', 'e']
  | false => ['f', 'a', 'l', 's', 'e']

theorem readBoolean_ok_iff {text : String} {value : Bool} :
    readBoolean text = .ok value ↔ Text.InAnyCase (word value) (inside text) := by
  have small : (word value).all Char.isLower := by cases value <;> rfl
  rw [← Text.map_toLower_eq_iff small, readBoolean, inside]
  generalize (Text.trim text.toList).map Char.toLower = written
  cases value <;> dsimp only [word] <;> split_ifs <;> simp_all

theorem boolean_ok_iff {source : TextSource} {node : Node} :
    boolean (.source source) = .ok node ↔
      ∃ value, Text.InAnyCase (word value) (inside source.content) ∧
        boolean (.boolean value) = .ok node := by
  simp only [← readBoolean_ok_iff, boolean]
  cases readBoolean source.content <;> simp [Except.map]

section Padded

variable {value : Number} {source : TextSource}

/-- The text of a number with blanks around it makes the literal of the number. -/
theorem number_of_padded (padded : Text.Padded value.text.toList source.content.toList)
    (denotable : value.Denotable) : number (.source source) = number (.number value) := by
  have read : readNumber source.content = .ok value := by
    rw [readNumber, Number.ofText, Number.trim_text padded, denotable.read_text.2]
    rfl
  simp only [number, read, Except.map]

/-- The text of a number that no text denotes makes no literal. -/
theorem number_of_padded_of_not (padded : Text.Padded value.text.toList source.content.toList)
    (other : ¬ value.Denotable) :
    number (.source source) = .error (.ofRefusal source.content value.refusal) := by
  rw [number, readNumber, Number.ofText, Number.trim_text padded,
    Number.read_text_of_not_denotable other]
  rfl

end Padded

end Literal

theorem build_boolean_eq {element : Element} (announced : Kind.ofTag? element.tag = some .boolean) :
    build element =
      ⟨[], (Literal.boolean (.source (.element element))).mapError (⟨element, ·⟩)⟩ := by
  refine build_ofExcept ?_
  rw [planOf, announced]
  rfl

theorem build_string_eq {element : Element} (announced : Kind.ofTag? element.tag = some .string) :
    build element = ⟨[], .ok (Literal.string (.element element))⟩ := by
  rw [build_eq, planOf, announced]
  rfl

/-- A literal comes to the same whether it is made from a value or from the text of the value.

The text of a number that can be denoted makes the literal of this number, with its sign and as an
integer or a double as it was; the text of any other number is refused, while the number itself is a
literal. A double is written with the fewest digits. The texts of a truth value are its word in any
mixture of small and capital letters, and a truth value makes no number. The rules for elements do
with the text of the element what is done with any text. -/
theorem values_agree_with_texts :
    (∀ (value : Number) (source : TextSource),
      Text.Padded value.text.toList source.content.toList →
        Literal.number (.number value) = .ok (.number value) ∧
        (value.Denotable → Literal.number (.source source) = Literal.number (.number value)) ∧
        (¬ value.Denotable →
          Literal.number (.source source) = .error (.ofRefusal source.content value.refusal))) ∧
    (∀ value : Number.Finite, value.rank ≠ 0 →
      (Number.real (.finite value)).text.toList =
        Number.withSign value.negative value.shortest.characters ∧
      value.IsShortest value.shortest) ∧
    (∀ value, Literal.number (.boolean value) = .error (.truthNumber value)) ∧
    (∀ (source : TextSource) (node : Node), Literal.boolean (.source source) = .ok node ↔
      ∃ value, Text.InAnyCase (Literal.word value) (inside source.content) ∧
        Literal.boolean (.boolean value) = .ok node) ∧
    (∀ element : Element,
      Literal.string (.element element) = Literal.string (.written element.content)) ∧
    ∀ element : Element,
      (Kind.ofTag? element.tag = some .number → build element =
        ⟨[], (Literal.number (.source (.element element))).mapError (⟨element, ·⟩)⟩) ∧
      (Kind.ofTag? element.tag = some .boolean → build element =
        ⟨[], (Literal.boolean (.source (.element element))).mapError (⟨element, ·⟩)⟩) ∧
      (Kind.ofTag? element.tag = some .string → build element =
        ⟨[], .ok (Literal.string (.element element))⟩) := by
  refine ⟨fun value source padded => ⟨rfl, ?_, ?_⟩, fun value nonzero => ?_, fun value => rfl,
    fun source node => Literal.boolean_ok_iff, fun element => rfl, fun element => ⟨?_, ?_, ?_⟩⟩
  · exact Literal.number_of_padded padded
  · exact Literal.number_of_padded_of_not padded
  · exact ⟨Number.toList_text_finite nonzero, Number.Finite.isShortest_shortest nonzero⟩
  · exact fun announced => build_number_eq announced rfl
  · exact build_boolean_eq
  · exact build_string_eq

end Build

end ScenarioTree
