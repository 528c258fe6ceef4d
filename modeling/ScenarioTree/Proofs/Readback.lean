/-
This file reads numbers back from their texts. The text of a number is a numeral in the strict sense
in which data formats use the word: no zero stands in front of other digits, and there are digits on
both sides of a point. A double is laid out in one of three ways. Each of them is the same decimal
with its point elsewhere, and moving the point changes neither the ratio nor, therefore, the double
that is nearest to it; the shortest decimal was chosen among those that read back.
-/

import ScenarioTree.Proofs.Ratio

namespace ScenarioTree.Number

/-! ### Numerals -/

/-- Digits in front of a point: no zero stands in front of others. -/
structure WholeDigits (digits : List Char) : Prop where
  all : ∀ digit ∈ digits, isDigit digit
  begun : digits ≠ []
  leading : digits.head? = some '0' → digits = ['0']

/-- A point with digits behind it, or nothing. -/
inductive Fraction : List Char → Prop where
  | none : Fraction []
  | some {digits : List Char} (all : ∀ digit ∈ digits, isDigit digit) (begun : digits ≠ []) :
      Fraction ('.' :: digits)

/-- A power of ten, or nothing. -/
inductive Exponent : List Char → Prop where
  | none : Exponent []
  | some {marker : Char} {sign digits : List Char} (marked : marker = 'e' ∨ marker = 'E')
      (signed : sign ∈ [[], ['+'], ['-']]) (all : ∀ digit ∈ digits, isDigit digit)
      (begun : digits ≠ []) : Exponent (marker :: (sign ++ digits))

/-- A number in strict notation. -/
inductive Numeral : List Char → Prop where
  | parts (negative : Bool) {whole fraction exponent : List Char} (front : WholeDigits whole)
      (behind : Fraction fraction) (power : Exponent exponent) :
      Numeral (withSign negative (whole ++ (fraction ++ exponent)))

/-! ### Digits -/

theorem digitsValue_append (first second : List Char) :
    digitsValue (first ++ second) =
      digitsValue first * 10 ^ second.length + digitsValue second := by
  rw [digitsValue_eq, Nat.ofDigitChars_append, Nat.ofDigitChars_eq_ofDigitChars_zero,
    Nat.mul_comm]
  rfl

theorem digitsValue_zeros (count : Nat) : digitsValue (List.replicate count '0') = 0 := by
  induction count with
  | zero => rfl
  | succ count induction =>
    rw [List.replicate_succ', digitsValue_append, induction]
    rfl

theorem digitsValue_append_zeros (digits : List Char) (count : Nat) :
    digitsValue (digits ++ List.replicate count '0') = digitsValue digits * 10 ^ count := by
  rw [digitsValue_append, digitsValue_zeros, List.length_replicate, Nat.add_zero]

theorem digitsValue_zeros_append (digits : List Char) (count : Nat) :
    digitsValue (List.replicate count '0' ++ digits) = digitsValue digits := by
  rw [digitsValue_append, digitsValue_zeros, Nat.zero_mul, Nat.zero_add]

theorem isDigit_of_mem_zeros {count : Nat} {digit : Char}
    (member : digit ∈ List.replicate count '0') : isDigit digit := by
  rw [List.eq_of_mem_replicate member]
  rfl

/-- A positive number is not written with a zero in front. -/
theorem head?_toDigits {value : Nat} (positive : 0 < value) :
    (Nat.toDigits 10 value).head? ≠ some '0' := by
  intro zero
  obtain ⟨rest, split⟩ : ∃ rest, Nat.toDigits 10 value = '0' :: rest := by
    cases digits : Nat.toDigits 10 value with
    | nil => exact absurd digits Nat.toDigits_ne_nil
    | cons first rest =>
      rw [digits] at zero
      exact ⟨rest, by rw [Option.some.inj zero]⟩
  have same : digitsValue rest = value := by
    rw [← digitsValue_toDigits value, split]
    exact (digitsValue_zeros_append rest 1).symm
  have all : ∀ digit ∈ rest, isDigit digit := fun digit member =>
    isDigit_of_mem_toDigits (split ▸ List.mem_cons_of_mem _ member)
  cases rest with
  | nil => exact positive.ne same
  | cons second others =>
    have small := digitsValue_lt all
    rw [same] at small
    have short := (Nat.length_toDigits_le_iff (by decide) (Nat.succ_pos _)).mpr small
    rw [split] at short
    simp at short

/-- Every number is written with digits of which none is a needless zero. -/
theorem wholeDigits_toDigits (value : Nat) : WholeDigits (Nat.toDigits 10 value) where
  all := fun _ member => isDigit_of_mem_toDigits member
  begun := Nat.toDigits_ne_nil
  leading := by
    intro zero
    rcases Nat.eq_zero_or_pos value with rfl | positive
    · rfl
    · exact absurd zero (head?_toDigits positive)

theorem wholeDigits_zero : WholeDigits ['0'] := wholeDigits_toDigits 0

/-- The text of an integer is a numeral. -/
theorem numeral_integerCharacters (value : Int) : Numeral (integerCharacters value) := by
  have numeral := Numeral.parts (value < 0) (wholeDigits_toDigits value.natAbs) .none .none
  rwa [List.append_nil, List.append_nil, ← integerCharacters_eq] at numeral

/-! ### Reading decimals -/

/-- A point and the digits behind it, if there are any. -/
def pointed (digits : List Char) : List Char :=
  if digits.isEmpty then [] else '.' :: digits

/-- What follows the digits of a decimal, with the exponent that it stands for. -/
structure Suffix (suffix : List Char) (exponent : Int) : Prop where
  strict : Exponent suffix
  read : suffixOf? suffix = some exponent

theorem Exponent.head? {suffix : List Char} (exponent : Exponent suffix) :
    suffix = [] ∨ ∃ marker rest, suffix = marker :: rest ∧ isDigit marker = false ∧
      marker ≠ '.' := by
  cases exponent with
  | none => exact .inl rfl
  | some marked _ _ _ => rcases marked with rfl | rfl <;> exact .inr ⟨_, _, rfl, rfl, by decide⟩

theorem suffix_nil : Suffix [] 0 := ⟨.none, rfl⟩

section Parts

variable {negative : Bool} {whole fraction suffix : List Char} {exponent : Int}

theorem splitSign_parts (digits : WholeDigits whole) (rest : List Char) :
    splitSign (withSign negative (whole ++ rest)) = (negative, whole ++ rest) := by
  obtain ⟨first, others, rfl⟩ := List.exists_cons_of_ne_nil digits.begun
  exact splitSign_withSign negative (others ++ rest) (digits.all first List.mem_cons_self)

/-- The parts of a decimal are found where they were put. -/
theorem ofCharacters?_parts (digits : WholeDigits whole)
    (behind : ∀ digit ∈ fraction, isDigit digit) (ends : Suffix suffix exponent) :
    Decimal.ofCharacters? (withSign negative (whole ++ (pointed fraction ++ suffix))) =
      some ⟨negative, whole, fraction, exponent⟩ := by
  have begun := digits.begun
  have apart : Ends isDigit suffix :=
    ends.strict.head?.imp_right fun ⟨marker, rest, split, other, _⟩ => ⟨marker, rest, split, other⟩
  rw [Decimal.ofCharacters?, splitSign_parts digits]
  cases fraction with
  | nil =>
    obtain ⟨taken, left⟩ := span_append digits.all apart
    have nothing : pointed [] = [] := rfl
    simp only [nothing, List.nil_append, taken, left]
    rcases ends.strict.head? with rfl | ⟨marker, rest, rfl, _, plain⟩
    · simp [begun, ends.read]
    · simp [begun, ends.read, plain]
  | cons first others =>
    obtain ⟨taken, left⟩ := @span_append isDigit whole ('.' :: (first :: others ++ suffix))
      digits.all (.inr ⟨_, _, rfl, rfl⟩)
    obtain ⟨behindTaken, behindLeft⟩ := span_append behind apart
    have point : pointed (first :: others) ++ suffix = '.' :: (first :: others ++ suffix) := rfl
    rw [point]
    simp only [taken, left, behindTaken, behindLeft]
    simp [ends.read]

/-- A decimal with a point or an exponent is no integer. -/
theorem integerDigits?_parts (digits : WholeDigits whole) (ends : Suffix suffix exponent)
    (decimal : fraction ≠ [] ∨ suffix ≠ []) :
    integerDigits? (withSign negative (whole ++ (pointed fraction ++ suffix))) = none := by
  have sign : ∃ sign ∈ pointed fraction ++ suffix, isDigit sign = false := by
    cases fraction with
    | cons first others => exact ⟨'.', by simp [pointed], rfl⟩
    | nil =>
      rcases ends.strict.head? with rfl | ⟨marker, rest, rfl, other, _⟩
      · simp at decimal
      · exact ⟨marker, by simp [pointed], other⟩
  obtain ⟨sign, member, other⟩ := sign
  have mixed : (whole ++ (pointed fraction ++ suffix)).all isDigit = false :=
    List.all_eq_false.mpr ⟨sign, List.mem_append_right _ member, by simp [other]⟩
  rw [integerDigits?, splitSign_parts digits]
  simp [mixed]

end Parts

/-! ### Layout -/

theorem exponentOf?_digits (negative : Bool) {digits : List Char}
    (all : ∀ digit ∈ digits, isDigit digit) (begun : digits ≠ []) :
    exponentOf? ((if negative then '-' else '+') :: digits) =
      some (signed negative (digitsValue digits)) := by
  have digital : digits.all isDigit = true := List.all_eq_true.mpr all
  cases negative <;> simp [exponentOf?, splitSign, begun, digital]

theorem suffix_exponentText (exponent : Int) : Suffix (exponentText exponent) exponent := by
  obtain ⟨digits, padded⟩ : ∃ digits, digits = if (digitsOf exponent.natAbs).length < 2 then
    '0' :: digitsOf exponent.natAbs else digitsOf exponent.natAbs := ⟨_, rfl⟩
  have written : exponentText exponent =
      'e' :: ([if exponent < 0 then '-' else '+'] ++ digits) := by
    rw [padded]
    rfl
  have all : ∀ digit ∈ digits, isDigit digit := by
    intro digit member
    rw [padded] at member
    split at member
    · rcases List.mem_cons.mp member with rfl | member
      · rfl
      · exact isDigit_of_mem_toDigits member
    · exact isDigit_of_mem_toDigits member
  have begun : digits ≠ [] := by
    rw [padded]
    split
    · exact List.cons_ne_nil _ _
    · exact Nat.toDigits_ne_nil
  have value : digitsValue digits = exponent.natAbs := by
    rw [padded]
    split
    · exact (digitsValue_zeros_append _ 1).trans (digitsValue_toDigits _)
    · exact digitsValue_toDigits _
  have read := exponentOf?_digits (exponent < 0) all begun
  rw [value, signed_natAbs] at read
  rw [written]
  refine ⟨.some (.inl rfl) ?_ all begun, ?_⟩
  · split <;> simp
  · simpa [suffixOf?] using read

/-- How digits with an exponent are laid out: the same value, with its point elsewhere. -/
structure LaidOut (digits : List Char) (exponent : Int) (whole fraction suffix : List Char)
    (power : Int) : Prop where
  written : layout digits exponent = whole ++ (pointed fraction ++ suffix)
  front : WholeDigits whole
  behind : ∀ digit ∈ fraction, isDigit digit
  ends : Suffix suffix power
  decimal : fraction ≠ [] ∨ suffix ≠ []
  value : ∃ count : Nat, digitsValue (whole ++ fraction) = digitsValue digits * 10 ^ count ∧
    power - fraction.length + count = exponent - (digits.length - 1)

section Layout

variable {digits : List Char} {exponent : Int}

theorem laidOut_scientific (all : ∀ digit ∈ digits, isDigit digit) (begun : digits ≠ [])
    (far : exponent < -4 ∨ 15 < exponent) :
    LaidOut digits exponent (digits.take 1) (digits.drop 1) (exponentText exponent) exponent where
  written := by
    have far : (decide (exponent < -4) || decide (15 < exponent)) = true := by simpa using far
    rw [layout, if_pos far, List.append_assoc]
    rfl
  front := by
    obtain ⟨first, rest, rfl⟩ := List.exists_cons_of_ne_nil begun
    refine ⟨fun digit member => all digit (List.mem_of_mem_take member), by simp, fun zero => ?_⟩
    rw [Option.some.inj zero]
    rfl
  behind := fun digit member => all digit (List.mem_of_mem_drop member)
  ends := suffix_exponentText exponent
  decimal := .inr (List.cons_ne_nil _ _)
  value := by
    have positive := List.length_pos_iff.mpr begun
    refine ⟨0, by rw [List.take_append_drop, Nat.pow_zero, Nat.mul_one], ?_⟩
    rw [List.length_drop]
    omega

theorem laidOut_small (all : ∀ digit ∈ digits, isDigit digit) (begun : digits ≠ [])
    (near : -4 ≤ exponent) (small : exponent < 0) :
    LaidOut digits exponent ['0'] (List.replicate ((-exponent).toNat - 1) '0' ++ digits) [] 0 where
  written := by
    have near : ¬ (decide (exponent < -4) || decide (15 < exponent)) = true := by
      simp
      omega
    rw [layout, if_neg near, if_pos small, List.append_nil, pointed, if_neg (by simp [begun])]
    rfl
  front := wholeDigits_zero
  behind := by
    intro digit member
    exact (List.mem_append.mp member).elim isDigit_of_mem_zeros (all digit)
  ends := suffix_nil
  decimal := .inl (by simp [begun])
  value := by
    have positive := List.length_pos_iff.mpr begun
    have zero : ['0'] = List.replicate 1 '0' := rfl
    refine ⟨0, ?_, ?_⟩
    · rw [zero, digitsValue_zeros_append, digitsValue_zeros_append, Nat.pow_zero, Nat.mul_one]
    · rw [List.length_append, List.length_replicate]
      omega

theorem laidOut_positional (all : ∀ digit ∈ digits, isDigit digit) (begun : digits ≠ [])
    (leading : digits.head? ≠ some '0') (near : exponent ≤ 15) (large : 0 ≤ exponent) :
    ∃ whole fraction, LaidOut digits exponent whole fraction [] 0 := by
  obtain ⟨length, same⟩ : ∃ length, length = exponent.toNat + 1 := ⟨_, rfl⟩
  obtain ⟨first, rest, split⟩ := List.exists_cons_of_ne_nil begun
  refine ⟨digits.take length ++ List.replicate (length - digits.length) '0',
    if (digits.drop length).isEmpty then ['0'] else digits.drop length, ?_, ?_, ?_, suffix_nil, ?_,
    ?_⟩
  · have near : ¬ (decide (exponent < -4) || decide (15 < exponent)) = true := by
      simp
      omega
    rw [layout, if_neg near, if_neg (Int.not_lt.mpr large), ← same, List.append_nil, pointed,
      if_neg (by split <;> simp_all)]
  · refine ⟨fun digit member => ?_, ?_, fun zero => absurd ?_ leading⟩
    · exact (List.mem_append.mp member).elim
        (fun member => all digit (List.mem_of_mem_take member)) isDigit_of_mem_zeros
    · simp [split, same]
    · rw [same, split] at zero
      rw [split]
      exact zero
  · intro digit member
    split at member
    · rw [List.mem_singleton.mp member]
      rfl
    · exact all digit (List.mem_of_mem_drop member)
  · left
    split <;> simp_all
  · by_cases short : digits.length ≤ length
    · rw [List.take_of_length_le short, List.drop_of_length_le short]
      have zeros : List.replicate (length - digits.length) '0' ++ ['0'] =
          List.replicate (length - digits.length + 1) '0' := List.replicate_succ'.symm
      refine ⟨length - digits.length + 1, ?_, ?_⟩
      · rw [List.isEmpty_nil, if_pos rfl, List.append_assoc, zeros, digitsValue_append_zeros]
      · simp
        omega
    · have long := Nat.lt_of_not_le short
      have left : (digits.drop length).isEmpty = false := by simpa using long
      have none : length - digits.length = 0 := by omega
      rw [left, none, List.replicate_zero, List.append_nil, if_neg Bool.false_ne_true]
      refine ⟨0, by rw [List.take_append_drop, Nat.pow_zero, Nat.mul_one], ?_⟩
      rw [List.length_drop]
      omega

theorem exists_laidOut (all : ∀ digit ∈ digits, isDigit digit) (begun : digits ≠ [])
    (leading : digits.head? ≠ some '0') (exponent : Int) :
    ∃ whole fraction suffix power, LaidOut digits exponent whole fraction suffix power := by
  by_cases far : exponent < -4 ∨ 15 < exponent
  · exact ⟨_, _, _, _, laidOut_scientific all begun far⟩
  · rw [not_or, Int.not_lt, Int.not_lt] at far
    by_cases small : exponent < 0
    · exact ⟨_, _, _, _, laidOut_small all begun far.1 small⟩
    · obtain ⟨whole, fraction, laid⟩ :=
        laidOut_positional all begun leading far.2 (Int.not_lt.mp small)
      exact ⟨_, _, _, _, laid⟩

end Layout

/-! ### Shortest decimals -/

/-- The digits of a number, with the zeros that end it apart. -/
theorem digitsOf_eq (number : Nat) :
    ∃ zeros, digitsOf number = significantDigits number ++ List.replicate zeros '0' := by
  have reversed := @List.takeWhile_append_dropWhile _ (· == '0') (digitsOf number).reverse
  have zeros := List.eq_replicate_iff.mpr ⟨rfl, fun digit member =>
    beq_iff_eq.mp (@List.mem_takeWhile_imp _ (· == '0') (digitsOf number).reverse digit member)⟩
  refine ⟨((digitsOf number).reverse.takeWhile (· == '0')).length, ?_⟩
  have whole := congrArg List.reverse reversed
  rw [List.reverse_append, List.reverse_reverse, zeros, List.reverse_replicate] at whole
  exact whole.symm

theorem isDigit_of_mem_significantDigits {number : Nat} {digit : Char}
    (member : digit ∈ significantDigits number) : isDigit digit := by
  obtain ⟨zeros, split⟩ := digitsOf_eq number
  refine @isDigit_of_mem_toDigits number digit ?_
  rw [← digitsOf, split]
  exact List.mem_append_left _ member

theorem significantDigits_ne_nil {number : Nat} (positive : 0 < number) :
    significantDigits number ≠ [] := by
  intro nothing
  obtain ⟨zeros, split⟩ := digitsOf_eq number
  have value : digitsValue (digitsOf number) = number := digitsValue_toDigits number
  rw [split, nothing, List.nil_append, digitsValue_zeros] at value
  exact positive.ne value

theorem head?_significantDigits {number : Nat} (positive : 0 < number) :
    (significantDigits number).head? ≠ some '0' := by
  obtain ⟨zeros, split⟩ := digitsOf_eq number
  obtain ⟨first, rest, begun⟩ := List.exists_cons_of_ne_nil (significantDigits_ne_nil positive)
  have leading := head?_toDigits positive
  rw [← digitsOf, split, begun] at leading
  rw [begun]
  exact leading

/-- Counting the zeros that end a number by the exponent leaves its value. -/
theorem decimalRank_significantDigits (decimal : Scientific) :
    decimalRank (digitsValue (significantDigits decimal.digits))
        ((digitsOf decimal.digits).length - 1 + decimal.scale -
          ((significantDigits decimal.digits).length - 1)) =
      decimalRank decimal.digits decimal.scale := by
  obtain ⟨zeros, split⟩ := digitsOf_eq decimal.digits
  have value : digitsValue (digitsOf decimal.digits) = decimal.digits := digitsValue_toDigits _
  have length := congrArg List.length split
  rw [List.length_append, List.length_replicate] at length
  rw [split, digitsValue_append_zeros] at value
  calc _ = decimalRank (digitsValue (significantDigits decimal.digits)) (decimal.scale + zeros) := by
        congr 1
        omega
    _ = decimalRank decimal.digits decimal.scale := by rw [← decimalRank_mul_pow, value]

/-- The exact expansion of a double reads back. -/
theorem reads_searchShortest_zero (value : Finite) (scale : Int) :
    (searchShortest value.rank value.units 0 scale).reads value.rank := by
  obtain ⟨exponent, last⟩ : ∃ exponent, exponent = 1074 := ⟨_, rfl⟩
  have scaled : (-1074 : Int) = -(exponent : Int) := by omega
  rw [searchShortest, ← last, scaled, Scientific.reads, beq_iff_eq]
  exact nearestRank_eq (pow_toNat_pos _) last (decimalUnits_mul value.units exponent)

/-- A double is written as a decimal that rounds to it. -/
theorem reads_searchShortest (value : Finite) (fuel : Nat) (scale : Int) :
    (searchShortest value.rank value.units fuel scale).reads value.rank := by
  induction fuel generalizing scale with
  | zero => exact reads_searchShortest_zero value scale
  | succ fuel induction =>
    rw [searchShortest]
    cases found : (neighbours value.units scale).find? (·.reads value.rank) with
    | none => exact induction _
    | some decimal =>
      have kept := List.find?_some found
      exact kept

theorem decimalRank_shortest (value : Finite) :
    decimalRank value.shortest.digits value.shortest.scale = value.rank :=
  beq_iff_eq.mp (reads_searchShortest value 17 _)

theorem shortest_pos {value : Finite} (nonzero : value.rank ≠ 0) : 0 < value.shortest.digits := by
  refine Nat.pos_of_ne_zero fun nothing => nonzero ?_
  rw [← decimalRank_shortest, nothing, decimalRank_zero]

/-! ### Texts of doubles -/

theorem layout_zero : LaidOut ['0'] 0 ['0'] ['0'] [] 0 where
  written := rfl
  front := wholeDigits_zero
  behind := wholeDigits_zero.all
  ends := suffix_nil
  decimal := .inl (by decide)
  value := ⟨1, rfl, rfl⟩

/-- Digits that are laid out are read as the double nearest to their value. -/
theorem LaidOut.read {digits whole fraction suffix : List Char} {exponent power : Int}
    (laid : LaidOut digits exponent whole fraction suffix power) {value : Finite}
    (nearest : decimalRank (digitsValue digits) (exponent - (digits.length - 1)) = value.rank) :
    Numeral (withSign value.negative (layout digits exponent)) ∧
      ofCharacters (withSign value.negative (layout digits exponent)) =
        .ok (.real (.finite value)) := by
  have behind : Fraction (pointed fraction) := by
    rw [pointed]
    split
    · exact .none
    · next begun => exact .some laid.behind (by simpa using begun)
  have digital : ∀ digit ∈ whole ++ fraction, isDigit digit := fun digit member =>
    (List.mem_append.mp member).elim (laid.front.all digit) (laid.behind digit)
  have rank : decimalRank (digitsValue (whole ++ fraction)) (power - fraction.length) =
      value.rank := by
    obtain ⟨count, same, scale⟩ := laid.value
    rw [same, decimalRank_mul_pow, scale, nearest]
  have read := @Decimal.nearest?_eq_decimalRank ⟨value.negative, whole, fraction, power⟩ digital
  rw [Decimal.coefficient, Decimal.scale, dif_pos (rank ▸ value.rank_lt)] at read
  rw [laid.written]
  refine ⟨.parts _ laid.front behind laid.ends.strict, ?_⟩
  rw [ofCharacters, integerDigits?_parts laid.front laid.ends laid.decimal,
    ofCharacters?_parts laid.front laid.behind laid.ends]
  simp only [read, rank]

/-- The text of a double is a numeral, and it is read as this double. -/
theorem Finite.read_characters (value : Finite) :
    Numeral value.characters ∧ ofCharacters value.characters = .ok (.real (.finite value)) := by
  by_cases zero : value.rank = 0
  · have written : value.characters = withSign value.negative (layout ['0'] 0) := by
      rw [characters, if_pos zero]
      rfl
    rw [written]
    exact layout_zero.read ((decimalRank_zero _).trans zero.symm)
  · have positive := shortest_pos zero
    have written : value.characters = withSign value.negative value.shortest.characters := by
      rw [characters, if_neg zero]
      rfl
    obtain ⟨whole, fraction, suffix, power, laid⟩ := exists_laidOut
      (fun _ => isDigit_of_mem_significantDigits) (significantDigits_ne_nil positive)
      (head?_significantDigits positive)
      ((digitsOf value.shortest.digits).length - 1 + value.shortest.scale)
    rw [written]
    exact laid.read ((decimalRank_significantDigits _).trans (decimalRank_shortest value))

/-- The text of a number is a numeral, and it is read as this number. -/
theorem Denotable.read_text {number : Number} (denotable : number.Denotable) :
    Numeral number.text.toList ∧ ofCharacters number.text.toList = .ok number := by
  cases number with
  | integer value =>
    rw [text, String.toList_ofList]
    exact ⟨numeral_integerCharacters value, ofCharacters_integerCharacters denotable⟩
  | real value =>
    cases value with
    | finite value =>
      rw [text, Double.text, String.toList_ofList]
      exact value.read_characters
    | infinite negative => exact denotable.elim
    | undefined => exact denotable.elim

end ScenarioTree.Number
