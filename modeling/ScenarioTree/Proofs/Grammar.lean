/-
This file gives the grammar of numeric literals, phrase by phrase and with what each phrase denotes,
and shows that reading accepts exactly this grammar: an integer by its digits, and a decimal by the
magnitude of its digits and its power of ten. An integer is also a decimal, so what is read as one
depends on which of the two is tried first.
-/

import Mathlib.Data.Nat.Digits.Defs
import ScenarioTree.Proofs.Double
import ScenarioTree.Proofs.Readback

namespace ScenarioTree.Number

/-! ### Phrases -/

/-- The number that digits denote by their positions, the last of them in the place of units. -/
def positional (digits : List Char) : Nat :=
  Nat.ofDigits 10 (digits.reverse.map digitValue)

/-- One of the ten ASCII digits, `[0-9]`. -/
def IsDigit (character : Char) : Prop :=
  '0' ≤ character ∧ character ≤ '9'

instance (character : Char) : Decidable (IsDigit character) :=
  inferInstanceAs (Decidable (_ ∧ _))

/-- A run of digits, `[0-9]+`. -/
structure Digits (text : List Char) : Prop where
  all : ∀ digit ∈ text, IsDigit digit
  begun : text ≠ []

/-- A sign or nothing, `[+-]?`, with whether it is a minus. -/
inductive Sign : List Char → Bool → Prop where
  | none : Sign [] false
  | plus : Sign ['+'] false
  | minus : Sign ['-'] true

/-- Digits with a point or without, `[0-9]+(\.[0-9]*)?|\.[0-9]+`, with their value. -/
inductive Magnitude : List Char → ℚ → Prop where
  | whole {digits : List Char} (written : Digits digits) : Magnitude digits (positional digits)
  | pointed {digits fraction : List Char} (written : Digits digits)
      (behind : ∀ digit ∈ fraction, IsDigit digit) :
      Magnitude (digits ++ '.' :: fraction)
        (positional digits + positional fraction / 10 ^ fraction.length)
  | fraction {digits : List Char} (written : Digits digits) :
      Magnitude ('.' :: digits) (positional digits / 10 ^ digits.length)

/-- A power of ten or nothing, `([eE][+-]?[0-9]+)?`, with its exponent. -/
inductive Power : List Char → Int → Prop where
  | none : Power [] 0
  | some {marker : Char} {sign digits : List Char} {negative : Bool}
      (marked : marker = 'e' ∨ marker = 'E') (begins : Sign sign negative)
      (written : Digits digits) :
      Power (marker :: (sign ++ digits)) (signed negative (positional digits))

/-- An integer literal, `[+-]?[0-9]+`, with its sign and its digits. -/
inductive IntegerForm : List Char → Bool → List Char → Prop where
  | intro {sign digits : List Char} {negative : Bool} (begins : Sign sign negative)
      (written : Digits digits) : IntegerForm (sign ++ digits) negative digits

/-- A decimal literal with its sign and the magnitude that it denotes. -/
inductive DecimalForm : List Char → Bool → ℚ → Prop where
  | intro {sign body power : List Char} {negative : Bool} {magnitude : ℚ} {exponent : Int}
      (begins : Sign sign negative) (digits : Magnitude body magnitude)
      (scaled : Power power exponent) :
      DecimalForm (sign ++ (body ++ power)) negative (magnitude * 10 ^ exponent)

/-! ### Signs and digits -/

theorem isDigit_iff {character : Char} : isDigit character = true ↔ IsDigit character := by
  rw [isDigit, IsDigit, Bool.and_eq_true, decide_eq_true_iff, decide_eq_true_iff]

theorem all_isDigit_iff {digits : List Char} :
    digits.all isDigit = true ↔ ∀ digit ∈ digits, IsDigit digit := by
  simp only [List.all_eq_true, isDigit_iff]

theorem digitsValue_eq_positional (digits : List Char) :
    digitsValue digits = positional digits := by
  induction digits using List.reverseRecOn with
  | nil => rfl
  | append_singleton digits digit induction =>
    rw [positional, List.reverse_append, List.reverse_singleton, List.singleton_append,
      List.map_cons, Nat.ofDigits_cons, ← positional, ← induction, digitsValue_append]
    have single : digitsValue [digit] = digitValue digit := Nat.zero_add _
    rw [single, List.length_singleton, Nat.pow_one, Nat.mul_comm, Nat.add_comm]

/-- What may follow a sign, if it is not to be taken for one. -/
def Plain (text : List Char) : Prop :=
  text.head? ≠ some '+' ∧ text.head? ≠ some '-'

theorem Sign.split {sign rest : List Char} {negative : Bool} (begins : Sign sign negative)
    (plain : Plain rest) : splitSign (sign ++ rest) = (negative, rest) := by
  cases begins with
  | none =>
    rw [List.nil_append, splitSign.eq_def]
    split
    · exact absurd rfl plain.2
    · exact absurd rfl plain.1
    · rfl
  | plus => rfl
  | minus => rfl

theorem sign_of_splitSign {text rest : List Char} {negative : Bool}
    (split : splitSign text = (negative, rest)) :
    ∃ sign, Sign sign negative ∧ text = sign ++ rest := by
  rw [splitSign.eq_def] at split
  split at split
  · cases split
    exact ⟨_, .minus, rfl⟩
  · cases split
    exact ⟨_, .plus, rfl⟩
  · cases split
    exact ⟨_, .none, rfl⟩

theorem plain_of_isDigit {first : Char} (digit : IsDigit first) (rest : List Char) :
    Plain (first :: rest) := by
  constructor
  all_goals
    intro same
    obtain rfl := Option.some.inj same
    exact absurd digit (by decide)

theorem Digits.plain {digits : List Char} (written : Digits digits) (rest : List Char) :
    Plain (digits ++ rest) := by
  obtain ⟨first, others, rfl⟩ := List.exists_cons_of_ne_nil written.begun
  exact plain_of_isDigit (written.all first List.mem_cons_self) (others ++ rest)

theorem digits_iff {digits : List Char} :
    (digits.isEmpty || !digits.all isDigit) = false ↔ Digits digits := by
  rw [Bool.or_eq_false_iff, List.isEmpty_eq_false_iff, Bool.not_eq_false', all_isDigit_iff]
  exact ⟨fun ⟨begun, all⟩ => ⟨all, begun⟩, fun written => ⟨written.begun, written.all⟩⟩

/-! ### Integers and exponents -/

/-- An integer is read by its sign and its digits. -/
theorem integerDigits?_eq_some_iff {text digits : List Char} {negative : Bool} :
    integerDigits? text = some (negative, digits) ↔ IntegerForm text negative digits := by
  constructor
  · intro found
    rw [integerDigits?] at found
    cases split : splitSign text with
    | mk minus rest =>
      rw [split] at found
      obtain ⟨sign, begins, rfl⟩ := sign_of_splitSign split
      cases written : rest.isEmpty || !rest.all isDigit with
      | true => simp [written] at found
      | false =>
        simp only [written, Bool.false_eq_true, if_false, Option.some.injEq, Prod.mk.injEq] at found
        obtain ⟨rfl, rfl⟩ := found
        exact .intro begins (digits_iff.mp written)
  · rintro ⟨begins, written⟩
    have plain := written.plain []
    rw [List.append_nil] at plain
    rw [integerDigits?, begins.split plain]
    simp only [digits_iff.mpr written, Bool.false_eq_true, if_false]

theorem exponentOf?_eq (text : List Char) :
    exponentOf? text = (integerDigits? text).map fun written =>
      signed written.1 (digitsValue written.2) := by
  rw [exponentOf?, integerDigits?]
  cases splitSign text with
  | mk negative digits =>
    dsimp only
    cases digits.isEmpty || !digits.all isDigit <;> rfl

/-- A power of ten is read by its exponent. -/
theorem suffixOf?_eq_some_iff {text : List Char} {exponent : Int} :
    suffixOf? text = some exponent ↔ Power text exponent := by
  constructor
  · intro found
    cases text with
    | nil =>
      cases found
      exact .none
    | cons marker rest =>
      rw [suffixOf?] at found
      split at found
      · next marked =>
        rw [exponentOf?_eq, Option.map_eq_some_iff] at found
        obtain ⟨⟨negative, digits⟩, read, rfl⟩ := found
        rw [Bool.or_eq_true, beq_iff_eq, beq_iff_eq] at marked
        obtain ⟨begins, written⟩ := integerDigits?_eq_some_iff.mp read
        rw [digitsValue_eq_positional]
        exact .some marked begins written
      · cases found
  · intro power
    cases power with
    | none => rfl
    | some marked begins written =>
      have read := integerDigits?_eq_some_iff.mpr (.intro begins written)
      rw [suffixOf?, if_pos (by simpa using marked), exponentOf?_eq, read, Option.map_some,
        digitsValue_eq_positional]

/-! ### Decimals -/

namespace Decimal

/-- The magnitude that a decimal denotes. -/
def magnitude (decimal : Decimal) : ℚ :=
  decimal.coefficient * 10 ^ decimal.scale

/-- The digits before the point count whole units, and those behind it count parts of one. -/
theorem magnitude_eq (decimal : Decimal) :
    decimal.magnitude = (positional decimal.whole +
      positional decimal.fraction / 10 ^ decimal.fraction.length) * 10 ^ decimal.exponent := by
  have shifted : (10 : ℚ) ^ decimal.fraction.length ≠ 0 := pow_ne_zero _ (by norm_num)
  rw [magnitude, coefficient, scale, digitsValue_append, digitsValue_eq_positional,
    digitsValue_eq_positional, zpow_sub₀ (by norm_num), zpow_natCast]
  push_cast
  field_simp

end Decimal

theorem isDigit_of_mem_takeWhile {text : List Char} :
    ∀ digit ∈ text.takeWhile isDigit, IsDigit digit := fun _ member =>
  isDigit_iff.mp (List.mem_takeWhile_imp member)

/-- Digits before a point, behind it, or on both sides. -/
theorem magnitude_pointed {digits fraction : List Char} (all : ∀ digit ∈ digits, IsDigit digit)
    (behind : ∀ digit ∈ fraction, IsDigit digit) (some : digits ≠ [] ∨ fraction ≠ []) :
    Magnitude (digits ++ '.' :: fraction)
      (positional digits + positional fraction / 10 ^ fraction.length) := by
  by_cases none : digits = []
  · subst none
    have zero : positional [] = 0 := rfl
    rw [List.nil_append, zero, Nat.cast_zero, zero_add]
    exact .fraction ⟨behind, some.resolve_left (absurd rfl)⟩
  · exact .pointed ⟨all, none⟩ behind

/-- What is read as a decimal is one. -/
theorem decimalForm_of_ofCharacters? {text : List Char} {decimal : Decimal}
    (found : Decimal.ofCharacters? text = some decimal) :
    DecimalForm text decimal.negative decimal.magnitude ∧
      ∀ digit ∈ decimal.whole ++ decimal.fraction, isDigit digit := by
  rw [Decimal.ofCharacters?] at found
  cases split : splitSign text with
  | mk negative body =>
    rw [split] at found
    obtain ⟨sign, begins, rfl⟩ := sign_of_splitSign split
    dsimp only at found
    have parts : body.takeWhile isDigit ++ body.dropWhile isDigit = body :=
      List.takeWhile_append_dropWhile
    have all := @isDigit_of_mem_takeWhile body
    generalize body.takeWhile isDigit = whole, body.dropWhile isDigit = behind at found parts all
    subst parts
    split at found
    · next rest =>
      have parts : rest.takeWhile isDigit ++ rest.dropWhile isDigit = rest :=
        List.takeWhile_append_dropWhile
      have late := @isDigit_of_mem_takeWhile rest
      generalize rest.takeWhile isDigit = part, rest.dropWhile isDigit = suffix at found parts late
      subst parts
      split at found
      · cases found
      · next kept =>
        obtain ⟨exponent, read, rfl⟩ := Option.map_eq_some_iff.mp found
        have begun : whole ≠ [] ∨ part ≠ [] := by
          rw [Bool.and_eq_true, List.isEmpty_iff, List.isEmpty_iff] at kept
          exact not_and_or.mp kept
        have form := DecimalForm.intro begins (magnitude_pointed all late begun)
          (suffixOf?_eq_some_iff.mp read)
        rw [List.append_assoc] at form
        refine ⟨?_, fun digit member => isDigit_iff.mpr ?_⟩
        · rw [Decimal.magnitude_eq]
          exact form
        · exact (List.mem_append.mp member).elim (all digit) (late digit)
    · split at found
      · cases found
      · next kept =>
        obtain ⟨exponent, read, rfl⟩ := Option.map_eq_some_iff.mp found
        have written : Digits whole := ⟨all, fun nothing => kept (List.isEmpty_iff.mpr nothing)⟩
        have nothing : positional [] = 0 := rfl
        refine ⟨?_, fun digit member => isDigit_iff.mpr ?_⟩
        · rw [Decimal.magnitude_eq]
          simp only [nothing, Nat.cast_zero, zero_div, add_zero]
          exact .intro begins (.whole written) (suffixOf?_eq_some_iff.mp read)
        · exact all digit (List.append_nil whole ▸ member)

/-- Where a power of ten begins, digits end. -/
theorem Power.ends {power : List Char} {exponent : Int} (scaled : Power power exponent) :
    Ends isDigit power ∧ power.head? ≠ Option.some '.' := by
  cases scaled with
  | none => exact ⟨.inl rfl, by decide⟩
  | some marked _ _ =>
    rcases marked with rfl | rfl
    · exact ⟨.inr ⟨_, _, rfl, rfl⟩, fun same => absurd (Option.some.inj same) (by decide)⟩
    · exact ⟨.inr ⟨_, _, rfl, rfl⟩, fun same => absurd (Option.some.inj same) (by decide)⟩

theorem Magnitude.plain {body : List Char} {magnitude : ℚ} (digits : Magnitude body magnitude)
    (rest : List Char) : Plain (body ++ rest) := by
  cases digits with
  | whole written => exact written.plain rest
  | pointed written _ =>
    rw [List.append_assoc]
    exact written.plain _
  | fraction _ =>
    exact ⟨fun same => absurd (Option.some.inj same) (by decide),
      fun same => absurd (Option.some.inj same) (by decide)⟩

section Reading

variable {sign digits power : List Char} {negative : Bool} {exponent : Int}

theorem ofCharacters?_whole (begins : Sign sign negative) (written : Digits digits)
    (scaled : Power power exponent) :
    Decimal.ofCharacters? (sign ++ (digits ++ power)) = some ⟨negative, digits, [], exponent⟩ := by
  obtain ⟨ends, unpointed⟩ := scaled.ends
  obtain ⟨taken, left⟩ :=
    span_append (fun digit member => isDigit_iff.mpr (written.all digit member)) ends
  rw [Decimal.ofCharacters?, begins.split (written.plain power)]
  simp only [taken, left]
  split
  · exact absurd rfl unpointed
  · simp [written.begun, suffixOf?_eq_some_iff.mpr scaled]

theorem ofCharacters?_pointed {fraction : List Char} (begins : Sign sign negative)
    (all : ∀ digit ∈ digits, IsDigit digit) (behind : ∀ digit ∈ fraction, IsDigit digit)
    (begun : digits ≠ [] ∨ fraction ≠ []) (scaled : Power power exponent) :
    Decimal.ofCharacters? (sign ++ (digits ++ '.' :: (fraction ++ power))) =
      some ⟨negative, digits, fraction, exponent⟩ := by
  have plain := (magnitude_pointed all behind begun).plain power
  rw [List.append_assoc, List.cons_append] at plain
  obtain ⟨taken, left⟩ := @span_append isDigit digits ('.' :: (fraction ++ power))
    (fun digit member => isDigit_iff.mpr (all digit member)) (.inr ⟨_, _, rfl, rfl⟩)
  obtain ⟨takenBehind, leftBehind⟩ :=
    span_append (fun digit member => isDigit_iff.mpr (behind digit member)) scaled.ends.1
  have kept : (digits.isEmpty && fraction.isEmpty) = false := by
    rw [Bool.and_eq_false_iff, List.isEmpty_eq_false_iff, List.isEmpty_eq_false_iff]
    exact begun
  rw [Decimal.ofCharacters?, begins.split plain]
  simp only [taken, left, takenBehind, leftBehind]
  simp [kept, suffixOf?_eq_some_iff.mpr scaled]

end Reading

/-- What is a decimal is read as one. -/
theorem DecimalForm.read {text : List Char} {negative : Bool} {magnitude : ℚ}
    (form : DecimalForm text negative magnitude) :
    ∃ decimal, Decimal.ofCharacters? text = some decimal ∧ decimal.negative = negative ∧
      decimal.magnitude = magnitude := by
  have nothing : positional [] = 0 := rfl
  cases form with
  | intro begins digits scaled =>
    cases digits with
    | whole written =>
      exact ⟨_, ofCharacters?_whole begins written scaled, rfl, by
        simp [Decimal.magnitude_eq, nothing]⟩
    | pointed written behind =>
      rw [List.append_assoc]
      exact ⟨_, ofCharacters?_pointed begins written.all behind (.inl written.begun) scaled, rfl,
        Decimal.magnitude_eq _⟩
    | fraction written =>
      refine ⟨_, ofCharacters?_pointed begins (fun _ member => absurd member List.not_mem_nil)
        written.all (.inr written.begun) scaled, rfl, ?_⟩
      simp [Decimal.magnitude_eq, nothing]

/-- The decimals of a text are read by their signs and their magnitudes. -/
theorem decimalForm_iff {text : List Char} {negative : Bool} {magnitude : ℚ} :
    DecimalForm text negative magnitude ↔ ∃ decimal, Decimal.ofCharacters? text = some decimal ∧
      decimal.negative = negative ∧ decimal.magnitude = magnitude := by
  constructor
  · exact DecimalForm.read
  · rintro ⟨decimal, found, rfl, rfl⟩
    exact (decimalForm_of_ofCharacters? found).1

/-- An integer literal is a decimal literal too. -/
theorem IntegerForm.decimal {text digits : List Char} {negative : Bool}
    (form : IntegerForm text negative digits) : DecimalForm text negative (positional digits) := by
  obtain ⟨begins, written⟩ := form
  have decimal := DecimalForm.intro begins (.whole written) .none
  rwa [List.append_nil, zpow_zero, mul_one] at decimal

end ScenarioTree.Number
