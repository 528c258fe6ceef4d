/-
This file says what becomes of a numeric literal. There are five ways to end, and the grammar tells
which one a text takes: it is an integer that is short enough or too long, or else a decimal that
has a nearest double or is too large for one, or else no number at all.

A decimal with a nearest double is read as that double, with the sign that is written in front of
it, so that a value too small for any other double is still a zero of this sign.
-/

import ScenarioTree.Proofs.Grammar
import ScenarioTree.Proofs.Outcome
import ScenarioTree.Proofs.Overlong

namespace ScenarioTree

open ScenarioTree.Xml (Element)

/-! ### Rounding of decimals -/

namespace Number

theorem Decimal.magnitude_nonneg (decimal : Decimal) : 0 ≤ decimal.magnitude :=
  mul_nonneg (Nat.cast_nonneg _) (zpow_nonneg (by norm_num) _)

/-- A decimal below the bound is read as the nearest double of its sign. -/
theorem Decimal.nearest?_of_lt {decimal : Decimal}
    (digits : ∀ digit ∈ decimal.whole ++ decimal.fraction, isDigit digit)
    (small : decimal.magnitude < overflowBound) :
    ∃ double, decimal.nearest? = some double ∧ ∀ other, other = double ↔
      other.negative = decimal.negative ∧
        Nearest (withMinus decimal.negative decimal.magnitude) other := by
  have rounds := roundsTo_decimalRank decimal.coefficient decimal.scale
  have units : decimal.magnitude / unit * unit = decimal.magnitude :=
    div_mul_cancel₀ _ unit_pos.ne'
  have nonneg : 0 ≤ decimal.magnitude / unit := div_nonneg decimal.magnitude_nonneg unit_pos.le
  have bounded : decimal.magnitude / unit < midpoint (rankCount - 1) := by
    rwa [div_lt_iff₀ unit_pos, midpoint_last]
  have less : decimalRank decimal.coefficient decimal.scale < rankCount :=
    rounds.lt_rankCount_iff.mpr bounded
  refine ⟨⟨decimal.negative, _, less⟩, ?_, fun other => ⟨?_, ?_⟩⟩
  · rw [nearest?_eq_decimalRank digits, dif_pos less]
  · rintro rfl
    have nearest := @RoundsTo.nearest _ nonneg ⟨decimal.negative, _, less⟩ rounds
    exact ⟨rfl, units ▸ nearest⟩
  · obtain ⟨sign, rank, within⟩ := other
    rintro ⟨rfl, nearest⟩
    rw [← units] at nearest
    have same := @Nearest.roundsTo _ bounded ⟨decimal.negative, rank, within⟩ nearest
    obtain rfl := same.unique rounds
    rfl

/-- A decimal that reaches the bound has no nearest double. -/
theorem Decimal.nearest?_eq_none_iff {decimal : Decimal}
    (digits : ∀ digit ∈ decimal.whole ++ decimal.fraction, isDigit digit) :
    decimal.nearest? = none ↔ overflowBound ≤ decimal.magnitude := by
  constructor
  · intro none
    refine le_of_not_gt fun small => ?_
    obtain ⟨double, found, -⟩ := nearest?_of_lt digits small
    rw [none] at found
    cases found
  · intro large
    have rounds := roundsTo_decimalRank decimal.coefficient decimal.scale
    have beyond : ¬ decimalRank decimal.coefficient decimal.scale < rankCount := by
      rw [rounds.lt_rankCount_iff, not_lt, ← midpoint_last] at *
      exact (le_div_iff₀ unit_pos).mpr large
    rw [nearest?_eq_decimalRank digits, dif_neg beyond]

/-! ### How a text is read -/

/-- A decimal literal that is not an integer literal. -/
structure ProperDecimal (text : List Char) (negative : Bool) (magnitude : ℚ) : Prop where
  decimal : DecimalForm text negative magnitude
  noInteger : ∀ sign digits, ¬ IntegerForm text sign digits

/-- How a text is read: by its form, by the number of its digits, and by its magnitude. -/
inductive Reads (text : List Char) : Except Refusal Number → Prop where
  | integer {negative : Bool} {digits : List Char} (form : IntegerForm text negative digits)
      (short : digits.length ≤ 4300) :
      Reads text (.ok (.integer (signed negative (positional digits))))
  | tooLong {negative : Bool} {digits : List Char} (form : IntegerForm text negative digits)
      (long : 4300 < digits.length) : Reads text (.error (.tooLong digits.length))
  | real {magnitude : ℚ} {double : Finite} (form : ProperDecimal text double.negative magnitude)
      (small : magnitude < overflowBound)
      (nearest : Nearest (withMinus double.negative magnitude) double) :
      Reads text (.ok (.real (.finite double)))
  | notFinite {negative : Bool} {magnitude : ℚ} (form : ProperDecimal text negative magnitude)
      (large : overflowBound ≤ magnitude) : Reads text (.error .notFinite)
  | notNumber (other : ∀ negative magnitude, ¬ DecimalForm text negative magnitude) :
      Reads text (.error .notNumber)

/-- A decimal is read by its form, unless it is an integer. -/
theorem ProperDecimal.found {text : List Char} {negative : Bool} {magnitude : ℚ}
    (form : ProperDecimal text negative magnitude) :
    ∃ decimal, integerDigits? text = none ∧ Decimal.ofCharacters? text = some decimal ∧
      decimal.negative = negative ∧ decimal.magnitude = magnitude ∧
        ∀ digit ∈ decimal.whole ++ decimal.fraction, isDigit digit := by
  obtain ⟨decimal, found, sign, same⟩ := decimalForm_iff.mp form.decimal
  refine ⟨decimal, ?_, found, sign, same, (decimalForm_of_ofCharacters? found).2⟩
  rw [Option.eq_none_iff_forall_ne_some]
  rintro ⟨sign, digits⟩ read
  exact form.noInteger sign digits (integerDigits?_eq_some_iff.mp read)

/-- A decimal below the bound is read as the nearest double, and as no other. -/
theorem ProperDecimal.read_of_lt {text : List Char} {negative : Bool} {magnitude : ℚ}
    (form : ProperDecimal text negative magnitude) (small : magnitude < overflowBound) :
    ∃ double, ofCharacters text = .ok (.real (.finite double)) ∧ ∀ other, other = double ↔
      other.negative = negative ∧ Nearest (withMinus negative magnitude) other := by
  obtain ⟨decimal, noInteger, found, rfl, rfl, digits⟩ := form.found
  obtain ⟨double, nearest, only⟩ := Decimal.nearest?_of_lt digits small
  refine ⟨double, ?_, only⟩
  simp only [ofCharacters, noInteger, found, nearest]

/-- A decimal that reaches the bound is refused. -/
theorem ProperDecimal.read_of_le {text : List Char} {negative : Bool} {magnitude : ℚ}
    (form : ProperDecimal text negative magnitude) (large : overflowBound ≤ magnitude) :
    ofCharacters text = .error .notFinite := by
  obtain ⟨decimal, noInteger, found, rfl, rfl, digits⟩ := form.found
  simp only [ofCharacters, noInteger, found, (Decimal.nearest?_eq_none_iff digits).mpr large]

/-- Every text has the form for the way in which reading it ends. -/
theorem reads_ofCharacters (text : List Char) : Reads text (ofCharacters text) := by
  cases digits : integerDigits? text with
  | some written =>
    have form := integerDigits?_eq_some_iff.mp digits
    rw [ofCharacters, digits]
    dsimp only
    split
    · next long => exact .tooLong form long
    · next short =>
      rw [digitsValue_eq_positional]
      exact .integer form (Nat.le_of_not_lt short)
  | none =>
    have noInteger : ∀ sign digits, ¬ IntegerForm text sign digits := by
      intro sign written form
      rw [integerDigits?_eq_some_iff.mpr form] at digits
      cases digits
    cases found : Decimal.ofCharacters? text with
    | none =>
      simp only [ofCharacters, digits, found]
      refine .notNumber fun negative magnitude form => ?_
      obtain ⟨decimal, read, -⟩ := form.read
      rw [found] at read
      cases read
    | some decimal =>
      have form : ProperDecimal text decimal.negative decimal.magnitude :=
        ⟨(decimalForm_of_ofCharacters? found).1, noInteger⟩
      rcases lt_or_ge decimal.magnitude overflowBound with small | large
      · obtain ⟨double, read, only⟩ := form.read_of_lt small
        obtain ⟨sign, nearest⟩ := (only double).mp rfl
        rw [read]
        rw [← sign] at form nearest
        exact .real form small nearest
      · rw [form.read_of_le large]
        exact .notFinite form large

/-- A form decides in which way reading ends. -/
theorem Reads.read {text : List Char} {result : Except Refusal Number} (reads : Reads text result) :
    ofCharacters text = result := by
  cases reads with
  | integer form short =>
    have found := integerDigits?_eq_some_iff.mpr form
    simp only [ofCharacters, found, digitsValue_eq_positional]
    exact if_neg (Nat.not_lt.mpr short)
  | tooLong form long =>
    have found := integerDigits?_eq_some_iff.mpr form
    simp only [ofCharacters, found]
    exact if_pos long
  | real form small nearest =>
    obtain ⟨double, read, only⟩ := form.read_of_lt small
    rw [read, (only _).mpr ⟨rfl, nearest⟩]
  | notFinite form large => exact form.read_of_le large
  | notNumber other =>
    have digits : integerDigits? text = none := by
      rw [Option.eq_none_iff_forall_ne_some]
      rintro ⟨sign, digits⟩ read
      exact other _ _ (integerDigits?_eq_some_iff.mp read).decimal
    have decimal : Decimal.ofCharacters? text = none := by
      rw [Option.eq_none_iff_forall_ne_some]
      intro decimal found
      exact other _ _ (decimalForm_of_ofCharacters? found).1
    simp only [ofCharacters, digits, decimal]

theorem ofCharacters_eq_iff {text : List Char} {result : Except Refusal Number} :
    ofCharacters text = result ↔ Reads text result :=
  ⟨fun read => read ▸ reads_ofCharacters text, Reads.read⟩

end Number

/-! ### Literals -/

namespace Build

open ScenarioTree.Number (DecimalForm IntegerForm Nearest ProperDecimal Reads overflowBound
  positional signed withMinus)

namespace Literal

/-- The characters of a literal, without the blanks around them. -/
def inside (text : String) : List Char :=
  Text.trim text.toList

theorem readNumber_ok_iff {text : String} {value : Number} :
    readNumber text = .ok value ↔ Reads (inside text) (.ok value) := by
  rw [← Number.ofCharacters_eq_iff, readNumber, Number.ofText, inside]
  cases Number.ofCharacters (Text.trim text.toList) <;> simp [Except.mapError]

theorem readNumber_error_iff {text : String} {cause : Cause} :
    readNumber text = .error cause ↔
      ∃ refusal, Reads (inside text) (.error refusal) ∧ .ofRefusal text refusal = cause := by
  simp only [← Number.ofCharacters_eq_iff, readNumber, Number.ofText, inside]
  cases Number.ofCharacters (Text.trim text.toList) <;> simp [Except.mapError]

theorem number_ok_iff {source : TextSource} {node : Node} :
    number (.source source) = .ok node ↔
      ∃ value, Reads (inside source.content) (.ok value) ∧ .number value = node := by
  simp only [← readNumber_ok_iff, number]
  cases readNumber source.content <;> simp [Except.map]

theorem number_error_iff {source : TextSource} {cause : Cause} :
    number (.source source) = .error cause ↔
      ∃ refusal, Reads (inside source.content) (.error refusal) ∧
        .ofRefusal source.content refusal = cause := by
  simp only [← readNumber_error_iff, number]
  cases readNumber source.content <;> simp [Except.map]

end Literal

open Literal (inside)

/-- A rule that needs no parts makes what it finds, or fails for the cause that it finds. -/
theorem build_ofExcept {element : Element} {result : Except Cause Node}
    (rule : planOf element = .ofExcept result) :
    build element = ⟨[], result.mapError (⟨element, ·⟩)⟩ := by
  rw [build_eq, rule]
  cases result <;> rfl

/-- The rule for numbers makes the literal of the text of the element, and has no parts. -/
theorem build_number_eq {element : Element} {source : TextSource}
    (announced : Kind.ofTag? element.tag = some .number) (same : element.content = source.content) :
    build element = ⟨[], (Literal.number (.source source)).mapError (⟨element, ·⟩)⟩ := by
  refine build_ofExcept ?_
  rw [planOf, announced]
  simp only [Kind.plan, Literal.number, TextSource.content, same]

/-- What a text comes to as the literal of a number, which is told by its form: an integer with at
most 4300 digits, or the value of a decimal if that is small enough for a finite double; otherwise
it is refused, for its size, for its length, or because it has no such form. It makes no difference
whether the text is given or is that of an element, and the rule for elements does the same. -/
theorem literal_follows_grammar (source : TextSource) :
    (∀ value, Literal.number (.source source) = .ok (.number (.integer value)) ↔
      ∃ negative digits, IntegerForm (inside source.content) negative digits ∧
        digits.length ≤ 4300 ∧ value = signed negative (positional digits)) ∧
    ((∃ double, Literal.number (.source source) = .ok (.number (.real (.finite double)))) ↔
      ∃ negative magnitude, ProperDecimal (inside source.content) negative magnitude ∧
        magnitude < overflowBound) ∧
    (Literal.number (.source source) = .error (.notFinite source.content) ↔
      ∃ negative magnitude, ProperDecimal (inside source.content) negative magnitude ∧
        overflowBound ≤ magnitude) ∧
    (∀ count, Literal.number (.source source) = .error (.tooLong count) ↔
      ∃ negative digits, IntegerForm (inside source.content) negative digits ∧
        digits.length = count ∧ 4300 < count) ∧
    (Literal.number (.source source) = .error (.notNumber source.content) ↔
      ∀ negative magnitude, ¬ DecimalForm (inside source.content) negative magnitude) ∧
    ∀ element : Element, element.tag = "numericliteral" ∨ element.tag = "numeric" →
      element.content = source.content →
        build element = ⟨[], (Literal.number (.source source)).mapError (⟨element, ·⟩)⟩ := by
  simp only [Literal.number_ok_iff, Literal.number_error_iff]
  refine ⟨fun value => ⟨?_, ?_⟩, ⟨?_, ?_⟩, ⟨?_, ?_⟩, fun count => ⟨?_, ?_⟩, ⟨?_, ?_⟩,
    fun element named => build_number_eq (ofTag?_number_iff.mpr named)⟩
  · rintro ⟨_, reads, same⟩
    cases same
    cases reads with
    | integer form short => exact ⟨_, _, form, short, rfl⟩
  · rintro ⟨negative, digits, form, short, rfl⟩
    exact ⟨_, .integer form short, rfl⟩
  · rintro ⟨double, _, reads, same⟩
    cases same
    cases reads with
    | real form small _ => exact ⟨_, _, form, small⟩
  · rintro ⟨negative, magnitude, form, small⟩
    obtain ⟨double, read, -⟩ := form.read_of_lt small
    exact ⟨double, _, Number.ofCharacters_eq_iff.mp read, rfl⟩
  · rintro ⟨refusal, reads, same⟩
    cases reads with
    | notFinite form large => exact ⟨_, _, form, large⟩
    | tooLong | notNumber => cases same
  · rintro ⟨negative, magnitude, form, large⟩
    exact ⟨_, .notFinite form large, rfl⟩
  · rintro ⟨refusal, reads, same⟩
    cases reads with
    | tooLong form long =>
      cases same
      exact ⟨_, _, form, rfl, long⟩
    | notFinite | notNumber => cases same
  · rintro ⟨negative, digits, form, rfl, long⟩
    exact ⟨_, .tooLong form long, rfl⟩
  · rintro ⟨refusal, reads, same⟩
    cases reads with
    | notNumber other => exact other
    | tooLong | notFinite => cases same
  · intro other
    exact ⟨_, .notNumber other, rfl⟩

/-- A decimal is read as the one double that is nearest to it and has its sign, as long as it is
below the bound; one that reaches the bound is refused. -/
theorem decimals_rounded {text : String} {negative : Bool} {magnitude : ℚ}
    (form : DecimalForm (inside text) negative magnitude)
    (noInteger : ∀ sign digits, ¬ IntegerForm (inside text) sign digits) :
    (magnitude < overflowBound → ∃ double, Literal.readNumber text = .ok (.real (.finite double)) ∧
      ∀ other, other = double ↔
        other.negative = negative ∧ Nearest (withMinus negative magnitude) other) ∧
    (overflowBound ≤ magnitude → Literal.readNumber text = .error (.notFinite text)) := by
  have proper : ProperDecimal (inside text) negative magnitude := ⟨form, noInteger⟩
  constructor
  · intro small
    obtain ⟨double, read, only⟩ := proper.read_of_lt small
    exact ⟨double, Literal.readNumber_ok_iff.mpr (Number.ofCharacters_eq_iff.mp read), only⟩
  · intro large
    exact Literal.readNumber_error_iff.mpr ⟨_, .notFinite proper large, rfl⟩

/-- A value halfway between two doubles, of which the even one is nearest. -/
theorem decimals_rounded_halfway : ∃ double : Number.Finite,
    Literal.readNumber "\t-9007199254740993.0" = .ok (.real (.finite double)) ∧
      double.negative = true ∧ Nearest (-9007199254740993) double := by
  obtain ⟨whole, digits⟩ : ∃ whole, whole = ['9', '0', '0', '7', '1', '9', '9', '2', '5', '4', '7',
    '4', '0', '9', '9', '3'] := ⟨_, rfl⟩
  have written : inside "\t-9007199254740993.0" = ['-'] ++ ((whole ++ '.' :: ['0']) ++ []) := by
    rw [digits]
    decide +kernel
  have form : DecimalForm (inside "\t-9007199254740993.0") true 9007199254740993 := by
    have front : Number.Digits whole := Number.digits_iff.mp (by rw [digits]; rfl)
    have behind : ['0'].all Number.isDigit = true := rfl
    have phrases :=
      DecimalForm.intro .minus (.pointed front (Number.all_isDigit_iff.mp behind)) .none
    rw [written]
    convert phrases using 1
    have value : positional whole = 9007199254740993 := by
      rw [digits]
      rfl
    have zero : positional ['0'] = 0 := rfl
    simp [value, zero]
  have noInteger : ∀ sign digits, ¬ IntegerForm (inside "\t-9007199254740993.0") sign digits := by
    intro sign digits form
    have read := Number.integerDigits?_eq_some_iff.mpr form
    rw [written] at read
    subst whole
    cases read
  obtain ⟨double, read, only⟩ := (decimals_rounded form noInteger).1
    (Number.lt_overflowBound (by norm_num))
  obtain ⟨sign, nearest⟩ := (only double).mp rfl
  exact ⟨double, read, sign, nearest⟩

end Build

end ScenarioTree
