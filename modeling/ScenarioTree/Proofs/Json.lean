/-
This file says what a JSON text denotes. The grammar is the strict one: a number is a numeral, a
string holds no raw controls, a surrogate comes with its partner, nothing follows the last entry of
a list or an object, and no two fields of an object have the same name.

A text denotes at most one value. This is shown by a reader that goes through the text from left to
right. Where a phrase of the grammar begins, the reader finds this phrase and stops behind it. Only
a number does not say itself where it ends; it ends where a character follows that no number has.
-/

import ScenarioTree.Data.Basic
import ScenarioTree.Proofs.Readback
import ScenarioTree.Yaml.Character

namespace ScenarioTree.Json

open ScenarioTree.Number (Ends Numeral isDigit span_append)
open ScenarioTree.Yaml (hexNumber?)

/-! ### The grammar -/

/-- The characters that may stand between the parts of a text. -/
def isBlank (character : Char) : Bool :=
  character == ' ' || character == '\t' || character == '\n' || character == '\r'

/-- Nothing but blanks. -/
def Gap (text : List Char) : Prop :=
  ∀ character ∈ text, isBlank character

/-- What a letter stands for behind a backslash. -/
def shortEscape? : Char → Option Char
  | '"' => some '"'
  | '\\' => some '\\'
  | '/' => some '/'
  | 'b' => some '\x08'
  | 'f' => some '\x0C'
  | 'n' => some '\n'
  | 'r' => some '\r'
  | 't' => some '\t'
  | _ => none

/-- How a character may be spelled in a string: as itself, by a letter, by its number, or by the
numbers of two surrogates. -/
inductive Spells : List Char → Char → Prop where
  | plain {character : Char} (visible : 0x20 ≤ character.toNat) (unquoted : character ≠ '"')
      (unescaped : character ≠ '\\') : Spells [character] character
  | short {letter character : Char} (known : shortEscape? letter = some character) :
      Spells ['\\', letter] character
  | unit {digits : List Char} {character : Char} (four : digits.length = 4)
      (number : hexNumber? digits = some character.toNat) : Spells ('\\' :: 'u' :: digits) character
  | pair {leading trailing : List Char} {high low : Nat} {character : Char}
      (leadingFour : leading.length = 4) (trailingFour : trailing.length = 4)
      (leadingNumber : hexNumber? leading = some (0xD800 + high)) (highBound : high < 0x400)
      (trailingNumber : hexNumber? trailing = some (0xDC00 + low)) (lowBound : low < 0x400)
      (number : character.toNat = 0x10000 + 0x400 * high + low) :
      Spells ('\\' :: 'u' :: (leading ++ '\\' :: 'u' :: trailing)) character

/-- How characters may be spelled one after another. -/
inductive Spelled : List Char → List Char → Prop where
  | nil : Spelled [] []
  | cons {text rest : List Char} {character : Char} {characters : List Char}
      (first : Spells text character) (others : Spelled rest characters) :
      Spelled (text ++ rest) (character :: characters)

/-- What a piece of a text is: a value, a field of an object, or what is left of a list or an
object behind an entry. -/
inductive Phrase where
  | value (data : Data)
  | items (items : List Data)
  | field (name : String) (data : Data)
  | fields (fields : List (String × Data))

/-- The phrases that texts are. -/
inductive Written : List Char → Phrase → Prop where
  | null : Written ['n', 'u', 'l', 'l'] (.value .null)
  | yes : Written ['t', 'r', 'u', 'e'] (.value (.boolean true))
  | no : Written ['f', 'a', 'l', 's', 'e'] (.value (.boolean false))
  | number {text : List Char} {number : Number} (numeral : Numeral text)
      (denoted : Number.ofCharacters text = .ok number) : Written text (.value (.number number))
  | string {text characters : List Char} (spelled : Spelled text characters) :
      Written ('"' :: (text ++ ['"'])) (.value (.string (String.ofList characters)))
  -- Lists
  | noItems {gap : List Char} (blank : Gap gap) : Written ('[' :: (gap ++ [']'])) (.value (.list []))
  | list {gap text rest : List Char} {first : Data} {others : List Data} (blank : Gap gap)
      (value : Written text (.value first)) (left : Written rest (.items others)) :
      Written ('[' :: (gap ++ (text ++ rest))) (.value (.list (first :: others)))
  | lastItem {gap : List Char} (blank : Gap gap) : Written (gap ++ [']']) (.items [])
  | nextItem {before after text rest : List Char} {first : Data} {others : List Data}
      (blankBefore : Gap before) (blankAfter : Gap after) (value : Written text (.value first))
      (left : Written rest (.items others)) :
      Written (before ++ ',' :: (after ++ (text ++ rest))) (.items (first :: others))
  -- Objects
  | noFields {gap : List Char} (blank : Gap gap) :
      Written ('\x7b' :: (gap ++ ['\x7d'])) (.value (.object []))
  | object {gap text rest : List Char} {name : String} {first : Data}
      {others : List (String × Data)} (blank : Gap gap) (value : Written text (.field name first))
      (left : Written rest (.fields others))
      (distinct : (((name, first) :: others).map Prod.fst).Nodup) :
      Written ('\x7b' :: (gap ++ (text ++ rest))) (.value (.object ((name, first) :: others)))
  | field {name characters before after text : List Char} {data : Data}
      (spelled : Spelled name characters) (blankBefore : Gap before) (blankAfter : Gap after)
      (value : Written text (.value data)) :
      Written ('"' :: (name ++ '"' :: (before ++ ':' :: (after ++ text))))
        (.field (String.ofList characters) data)
  | lastField {gap : List Char} (blank : Gap gap) : Written (gap ++ ['\x7d']) (.fields [])
  | nextField {before after text rest : List Char} {name : String} {first : Data}
      {others : List (String × Data)} (blankBefore : Gap before) (blankAfter : Gap after)
      (value : Written text (.field name first)) (left : Written rest (.fields others)) :
      Written (before ++ ',' :: (after ++ (text ++ rest))) (.fields ((name, first) :: others))

/-- A text denotes data if it is this value and blanks around it. -/
inductive Denotes (text : String) (data : Data) : Prop where
  | intro {before value after : List Char} (split : text.toList = before ++ (value ++ after))
      (blankBefore : Gap before) (blankAfter : Gap after) (written : Written value (.value data))

/-! ### The reader -/

/-- What is left behind blanks. -/
def skip (characters : List Char) : List Char :=
  characters.dropWhile isBlank

/-- The number of four digits. -/
def readUnit : List Char → Option (Nat × List Char)
  | first :: second :: third :: fourth :: rest =>
    (hexNumber? [first, second, third, fourth]).map (·, rest)
  | _ => none

/-- The character of a number, or of a leading surrogate with the trailing one that follows. -/
def readUnits (unit : Nat) (rest : List Char) : Option (Char × List Char) :=
  if 0xD800 ≤ unit && unit < 0xDC00 then
    match rest with
    | '\\' :: 'u' :: rest => (readUnit rest).map fun (trailing, rest) =>
      (Char.ofNat (0x10000 + 0x400 * (unit - 0xD800) + (trailing - 0xDC00)), rest)
    | _ => none
  else some (Char.ofNat unit, rest)

/-- The first character of a string. -/
def readCharacter : List Char → Option (Char × List Char)
  | '\\' :: 'u' :: rest => do
    let (unit, rest) ← readUnit rest
    readUnits unit rest
  | '\\' :: letter :: rest => (shortEscape? letter).map (·, rest)
  | character :: rest => some (character, rest)
  | [] => none

/-- The characters up to the end of a string. -/
def readCharacters : Nat → List Char → Option (List Char × List Char)
  | 0, _ => none
  | _, '"' :: rest => some ([], rest)
  | fuel + 1, characters => do
    let (first, rest) ← readCharacter characters
    let (others, rest) ← readCharacters fuel rest
    return (first :: others, rest)

/-- What is left of a string, and the rest of the text. -/
def readString (characters : List Char) : Option (String × List Char) := do
  let (characters, rest) ← readCharacters (characters.length + 1) characters
  return (String.ofList characters, rest)

/-- The characters that numbers are made of. -/
def isNumberCharacter (character : Char) : Bool :=
  isDigit character || ['+', '-', '.', 'e', 'E'].contains character

mutual

/-- The value that a text begins with, and the rest of the text. -/
def readValue : Nat → List Char → Option (Data × List Char)
  | 0, _ => none
  | _, 'n' :: 'u' :: 'l' :: 'l' :: rest => some (.null, rest)
  | _, 't' :: 'r' :: 'u' :: 'e' :: rest => some (.boolean true, rest)
  | _, 'f' :: 'a' :: 'l' :: 's' :: 'e' :: rest => some (.boolean false, rest)
  | _, '"' :: rest => do
    let (value, rest) ← readString rest
    return (.string value, rest)
  | fuel + 1, '[' :: rest =>
    match skip rest with
    | ']' :: rest => some (.list [], rest)
    | rest => do
      let (first, rest) ← readValue fuel rest
      let (others, rest) ← readItems fuel rest
      return (.list (first :: others), rest)
  | fuel + 1, '\x7b' :: rest =>
    match skip rest with
    | '\x7d' :: rest => some (.object [], rest)
    | rest => do
      let (first, rest) ← readField fuel rest
      let (others, rest) ← readFields fuel rest
      return (.object (first :: others), rest)
  | _, characters =>
    match Number.ofCharacters (characters.takeWhile isNumberCharacter) with
    | .ok number => some (.number number, characters.dropWhile isNumberCharacter)
    | .error _ => none

/-- What is left of a list, and the rest of the text. -/
def readItems : Nat → List Char → Option (List Data × List Char)
  | 0, _ => none
  | fuel + 1, characters =>
    match skip characters with
    | ']' :: rest => some ([], rest)
    | ',' :: rest => do
      let (first, rest) ← readValue fuel (skip rest)
      let (others, rest) ← readItems fuel rest
      return (first :: others, rest)
    | _ => none

/-- The field that a text begins with, and the rest of the text. -/
def readField : Nat → List Char → Option ((String × Data) × List Char)
  | fuel + 1, '"' :: rest => do
    let (name, rest) ← readString rest
    match skip rest with
    | ':' :: rest => do
      let (value, rest) ← readValue fuel (skip rest)
      return ((name, value), rest)
    | _ => none
  | _, _ => none

/-- What is left of an object, and the rest of the text. -/
def readFields : Nat → List Char → Option (List (String × Data) × List Char)
  | 0, _ => none
  | fuel + 1, characters =>
    match skip characters with
    | '\x7d' :: rest => some ([], rest)
    | ',' :: rest => do
      let (first, rest) ← readField fuel (skip rest)
      let (others, rest) ← readFields fuel rest
      return (first :: others, rest)
    | _ => none

end

/-- The value of a text. Only blanks may be left behind it. -/
def read (text : String) : Option Data := do
  let (data, rest) ← readValue (text.length + 1) (skip text.toList)
  if (skip rest).isEmpty then some data else none

/-! ### Gaps -/

theorem gap_nil : Gap [] := fun _ member => absurd member List.not_mem_nil

theorem skip_append {gap : List Char} (blank : Gap gap) {first : Char}
    (visible : isBlank first = false) (rest : List Char) :
    skip (gap ++ first :: rest) = first :: rest := by
  rw [skip, List.dropWhile_append_of_pos blank]
  simp [visible]

theorem isNumberCharacter_of_isBlank {character : Char} (blank : isBlank character) :
    isNumberCharacter character = false := by
  simp only [isBlank, Bool.or_eq_true, beq_iff_eq] at blank
  rcases blank with ((rfl | rfl) | rfl) | rfl <;> rfl

/-- Numbers end at gaps and at what stands behind them. -/
theorem ends_append {gap : List Char} (blank : Gap gap) {rest : List Char}
    (ends : Ends isNumberCharacter rest) : Ends isNumberCharacter (gap ++ rest) := by
  cases gap with
  | nil => exact ends
  | cons first others =>
    exact .inr ⟨first, _, rfl, isNumberCharacter_of_isBlank (blank first List.mem_cons_self)⟩

/-! ### Strings -/

theorem readUnit_append {digits : List Char} {unit : Nat} (four : digits.length = 4)
    (number : hexNumber? digits = some unit) (rest : List Char) :
    readUnit (digits ++ rest) = some (unit, rest) := by
  match digits, four with
  | [first, second, third, fourth], _ => simp [readUnit, number]

theorem readUnits_toNat (character : Char) (rest : List Char) :
    readUnits character.toNat rest = some (character, rest) := by
  have valid : character.toNat < 0xD800 ∨ 0xDFFF < character.toNat :=
    character.valid.imp_right And.left
  rw [readUnits.eq_def, if_neg (by simp; omega), Char.ofNat_toNat]

/-- A spelled character is found where it was put. -/
theorem Spells.read {text : List Char} {character : Char} (spells : Spells text character)
    (rest : List Char) : readCharacter (text ++ rest) = some (character, rest) := by
  cases spells with
  | plain visible unquoted unescaped => simp [readCharacter, unescaped]
  | @short letter _ known =>
    have other : letter ≠ 'u' := by
      rintro rfl
      cases known
    rw [List.cons_append, List.cons_append, List.nil_append, readCharacter, known]
    · rfl
    · exact other
  | unit four number =>
    simp [readCharacter, readUnit_append four number, readUnits_toNat]
  | @pair leading trailing high low _ leadingFour trailingFour leadingNumber highBound trailingNumber
      lowBound number =>
    have units : readUnits (0xD800 + high) ('\\' :: 'u' :: (trailing ++ rest)) =
        some (character, rest) := by
      have low : 0x10000 + 0x400 * (0xD800 + high - 0xD800) + (0xDC00 + low - 0xDC00) =
          character.toNat := by omega
      rw [readUnits, if_pos (by simp; omega)]
      simp only [readUnit_append trailingFour trailingNumber, Option.map_some, low, Char.ofNat_toNat]
    simp [readCharacter, readUnit_append leadingFour leadingNumber, units]

theorem Spells.begins {text : List Char} {character : Char} (spells : Spells text character) :
    ∃ first others, text = first :: others ∧ first ≠ '"' := by
  cases spells with
  | plain visible unquoted unescaped => exact ⟨_, _, rfl, unquoted⟩
  | _ => exact ⟨_, _, rfl, by decide⟩

theorem readCharacters_succ (fuel : Nat) {first : Char} (unquoted : first ≠ '"') (rest : List Char) :
    readCharacters (fuel + 1) (first :: rest) = (do
      let (character, rest) ← readCharacter (first :: rest)
      let (others, rest) ← readCharacters fuel rest
      return (character :: others, rest)) := by
  rw [readCharacters]
  exact fun rest same => unquoted (List.cons.inj same).1

theorem Spelled.readCharacters_eq {text characters : List Char}
    (spelled : Spelled text characters) {fuel : Nat} (enough : text.length < fuel)
    (rest : List Char) : readCharacters fuel (text ++ '"' :: rest) = some (characters, rest) := by
  induction spelled generalizing fuel with
  | nil =>
    obtain ⟨fuel, rfl⟩ := Nat.exists_eq_add_one_of_ne_zero (Nat.ne_zero_of_lt enough)
    rfl
  | @cons text left character characters spells others induction =>
    obtain ⟨fuel, rfl⟩ := Nat.exists_eq_add_one_of_ne_zero (Nat.ne_zero_of_lt enough)
    obtain ⟨first, more, rfl, unquoted⟩ := spells.begins
    have found := spells.read (left ++ '"' :: rest)
    have left := @induction fuel (by simp at enough; omega)
    rw [List.append_assoc]
    rw [List.cons_append] at found ⊢
    rw [readCharacters_succ fuel unquoted]
    simp [found, left]

/-- A string is read up to its end. -/
theorem Spelled.read {text characters : List Char} (spelled : Spelled text characters)
    (rest : List Char) :
    readString (text ++ '"' :: rest) = some (String.ofList characters, rest) := by
  have enough : text.length < (text ++ '"' :: rest).length + 1 := by
    rw [List.length_append]
    omega
  rw [readString, spelled.readCharacters_eq enough]
  rfl

/-! ### Numbers -/

theorem isNumberCharacter_of_isDigit {character : Char} (digit : isDigit character) :
    isNumberCharacter character := by
  rw [isNumberCharacter, digit]
  rfl

theorem isNumberCharacter_of_mem_withSign {negative : Bool} {text : List Char}
    (all : ∀ character ∈ text, isNumberCharacter character) :
    ∀ character ∈ Number.withSign negative text, isNumberCharacter character := by
  intro character member
  cases negative with
  | false => exact all character member
  | true =>
    rcases List.mem_cons.mp member with rfl | member
    · rfl
    · exact all character member

/-- A numeral is made of the characters of numbers. -/
theorem isNumberCharacter_of_numeral {text : List Char} (numeral : Numeral text) :
    ∀ character ∈ text, isNumberCharacter character := by
  obtain ⟨negative, front, behind, power⟩ := numeral
  refine isNumberCharacter_of_mem_withSign fun character member => ?_
  rcases List.mem_append.mp member with member | member
  · exact isNumberCharacter_of_isDigit (front.all character member)
  rcases List.mem_append.mp member with member | member
  · cases behind with
    | none => cases member
    | some all _ =>
      rcases List.mem_cons.mp member with rfl | member
      · rfl
      · exact isNumberCharacter_of_isDigit (all character member)
  · cases power with
    | none => cases member
    | some marked signed all _ =>
      rcases List.mem_cons.mp member with rfl | member
      · rcases marked with rfl | rfl <;> rfl
      rcases List.mem_append.mp member with member | member
      · simp only [List.mem_cons, List.not_mem_nil, or_false] at signed
        rcases signed with rfl | rfl | rfl
        · cases member
        all_goals
          obtain rfl := List.mem_singleton.mp member
          rfl
      · exact isNumberCharacter_of_isDigit (all character member)

theorem numeral_begins {text : List Char} (numeral : Numeral text) :
    ∃ first others, text = first :: others ∧ (first = '-' ∨ isDigit first) := by
  obtain ⟨negative, front, behind, power⟩ := numeral
  obtain ⟨first, others, rfl⟩ := List.exists_cons_of_ne_nil front.begun
  cases negative with
  | true => exact ⟨_, _, rfl, .inl rfl⟩
  | false => exact ⟨_, _, rfl, .inr (front.all first List.mem_cons_self)⟩

/-- Where a number begins, the reader reads a number. -/
theorem readValue_number (fuel : Nat) {first : Char} (begins : first = '-' ∨ isDigit first)
    (others : List Char) :
    readValue (fuel + 1) (first :: others) =
      match Number.ofCharacters ((first :: others).takeWhile isNumberCharacter) with
      | .ok number => some (.number number, (first :: others).dropWhile isNumberCharacter)
      | .error _ => none := by
  rw [readValue]
  · exact Nat.succ_ne_zero fuel
  -- no other value begins with a sign or a digit
  all_goals
    intros
    rename_i same
    obtain rfl := (List.cons.inj same).1
    revert begins
    decide

/-! ### Values -/

/-- The first character of a value is no blank, and it does not end a list. -/
theorem Written.begins {text : List Char} {data : Data} (written : Written text (.value data)) :
    ∃ first others, text = first :: others ∧ isBlank first = false ∧ first ≠ ']' := by
  cases written with
  | number numeral _ =>
    obtain ⟨first, others, rfl, sign | digit⟩ := numeral_begins numeral
    · exact ⟨first, others, rfl, by rw [sign]; decide⟩
    · refine ⟨first, others, rfl, ?_, ?_⟩
      · by_contra blank
        rw [Bool.not_eq_false, isBlank] at blank
        simp only [Bool.or_eq_true, beq_iff_eq] at blank
        rcases blank with ((rfl | rfl) | rfl) | rfl <;> cases digit
      · rintro rfl
        cases digit
  | _ => exact ⟨_, _, rfl, by decide⟩

theorem Written.field_begins {text : List Char} {name : String} {data : Data}
    (written : Written text (.field name data)) : ∃ others, text = '"' :: others := by
  cases written with
  | field => exact ⟨_, rfl⟩

/-- Numbers end at what is left of a list. -/
theorem Written.ends_items {text : List Char} {items : List Data}
    (written : Written text (.items items)) (rest : List Char) :
    Ends isNumberCharacter (text ++ rest) := by
  cases written with
  | lastItem blank | nextItem blank _ _ _ =>
    rw [List.append_assoc]
    exact ends_append blank (.inr ⟨_, _, rfl, rfl⟩)

theorem Written.ends_fields {text : List Char} {fields : List (String × Data)}
    (written : Written text (.fields fields)) (rest : List Char) :
    Ends isNumberCharacter (text ++ rest) := by
  cases written with
  | lastField blank | nextField blank _ _ _ =>
    rw [List.append_assoc]
    exact ends_append blank (.inr ⟨_, _, rfl, rfl⟩)

/-! ### Lists and objects -/

section Entries

variable {gap before after : List Char} {first : Char}

theorem readValue_noItems (blank : Gap gap) (fuel : Nat) (rest : List Char) :
    readValue (fuel + 1) ('[' :: (gap ++ ']' :: rest)) = some (.list [], rest) := by
  rw [readValue, skip_append blank rfl]
  rfl

theorem readValue_list (blank : Gap gap) (visible : isBlank first = false) (more : first ≠ ']')
    (fuel : Nat) (others : List Char) :
    readValue (fuel + 1) ('[' :: (gap ++ first :: others)) = (do
      let (item, rest) ← readValue fuel (first :: others)
      let (items, rest) ← readItems fuel rest
      return (.list (item :: items), rest)) := by
  rw [readValue, skip_append blank visible]
  split
  · next same => exact absurd (List.cons.inj same).1 more
  · rfl

theorem readItems_last (blank : Gap gap) (fuel : Nat) (rest : List Char) :
    readItems (fuel + 1) (gap ++ ']' :: rest) = some ([], rest) := by
  rw [readItems, skip_append blank rfl]
  rfl

theorem readItems_next (blankBefore : Gap before) (blankAfter : Gap after)
    (visible : isBlank first = false) (fuel : Nat) (others : List Char) :
    readItems (fuel + 1) (before ++ ',' :: (after ++ first :: others)) = (do
      let (item, rest) ← readValue fuel (first :: others)
      let (items, rest) ← readItems fuel rest
      return (item :: items, rest)) := by
  rw [readItems, skip_append blankBefore rfl]
  simp only [skip_append blankAfter visible]

theorem readValue_noFields (blank : Gap gap) (fuel : Nat) (rest : List Char) :
    readValue (fuel + 1) ('\x7b' :: (gap ++ '\x7d' :: rest)) = some (.object [], rest) := by
  rw [readValue, skip_append blank rfl]
  rfl

theorem readValue_object (blank : Gap gap) (fuel : Nat) (others : List Char) :
    readValue (fuel + 1) ('\x7b' :: (gap ++ '"' :: others)) = (do
      let (field, rest) ← readField fuel ('"' :: others)
      let (fields, rest) ← readFields fuel rest
      return (.object (field :: fields), rest)) := by
  rw [readValue, skip_append blank rfl]
  rfl

theorem readField_eq {name characters : List Char} (spelled : Spelled name characters)
    (blankBefore : Gap before) (blankAfter : Gap after) (visible : isBlank first = false)
    (fuel : Nat) (others : List Char) :
    readField (fuel + 1) ('"' :: (name ++ '"' :: (before ++ ':' :: (after ++ first :: others)))) =
      (do
        let (value, rest) ← readValue fuel (first :: others)
        return ((String.ofList characters, value), rest)) := by
  rw [readField, spelled.read]
  simp only [Option.bind_eq_bind, Option.bind_some, @skip_append before blankBefore ':' rfl,
    skip_append blankAfter visible]

theorem readFields_last (blank : Gap gap) (fuel : Nat) (rest : List Char) :
    readFields (fuel + 1) (gap ++ '\x7d' :: rest) = some ([], rest) := by
  rw [readFields, skip_append blank rfl]
  rfl

theorem readFields_next (blankBefore : Gap before) (blankAfter : Gap after) (fuel : Nat)
    (others : List Char) :
    readFields (fuel + 1) (before ++ ',' :: (after ++ '"' :: others)) = (do
      let (field, rest) ← readField fuel ('"' :: others)
      let (fields, rest) ← readFields fuel rest
      return (field :: fields, rest)) := by
  rw [readFields, skip_append blankBefore rfl]
  simp only [@skip_append after blankAfter '"' rfl]

end Entries

/-! ### Phrases -/

/-- What reading a phrase comes to. -/
def Phrase.Found (fuel : Nat) (characters rest : List Char) : Phrase → Prop
  | .value data => readValue fuel characters = some (data, rest)
  | .items entries => readItems fuel characters = some (entries, rest)
  | .field name data => readField fuel characters = some ((name, data), rest)
  | .fields entries => readFields fuel characters = some (entries, rest)

/-- The reader finds a phrase and stops behind it. Each phrase takes at least one character more than
the phrases inside it, so that as much fuel as there are characters is enough. -/
theorem Written.found {text : List Char} {phrase : Phrase} (written : Written text phrase)
    {fuel : Nat} (enough : text.length < fuel) {rest : List Char}
    (ends : Ends isNumberCharacter rest) : phrase.Found fuel (text ++ rest) rest := by
  induction fuel generalizing text phrase rest with
  | zero => exact absurd enough (Nat.not_lt_zero _)
  | succ fuel induction =>
    cases written with
    | null | yes | no => rfl
    | number numeral denoted =>
      obtain ⟨taken, left⟩ := span_append (isNumberCharacter_of_numeral numeral) ends
      obtain ⟨first, others, rfl, begins⟩ := numeral_begins numeral
      rw [List.cons_append] at taken left
      rw [Phrase.Found, List.cons_append, readValue_number fuel begins, taken, left, denoted]
    | string spelled =>
      rw [Phrase.Found, List.cons_append, List.append_assoc, readValue]
      · simp [spelled.read]
      · exact Nat.succ_ne_zero fuel
    | noItems blank =>
      rw [Phrase.Found, List.cons_append, List.append_assoc]
      exact readValue_noItems blank fuel rest
    | list blank value left =>
      simp only [List.length_cons, List.length_append] at enough
      have valueFound := induction value (by omega) (left.ends_items rest)
      have leftFound := induction left (by omega) ends
      obtain ⟨first, others, rfl, visible, more⟩ := value.begins
      simp only [Phrase.Found, List.cons_append, List.append_assoc] at valueFound leftFound ⊢
      rw [readValue_list blank visible more, valueFound]
      simp [leftFound]
    | lastItem blank =>
      rw [Phrase.Found, List.append_assoc]
      exact readItems_last blank fuel rest
    | nextItem blankBefore blankAfter value left =>
      simp only [List.length_cons, List.length_append] at enough
      have valueFound := induction value (by omega) (left.ends_items rest)
      have leftFound := induction left (by omega) ends
      obtain ⟨first, others, rfl, visible, _⟩ := value.begins
      simp only [Phrase.Found, List.cons_append, List.append_assoc] at valueFound leftFound ⊢
      rw [readItems_next blankBefore blankAfter visible, valueFound]
      simp [leftFound]
    | noFields blank =>
      rw [Phrase.Found, List.cons_append, List.append_assoc]
      exact readValue_noFields blank fuel rest
    | object blank value left distinct =>
      simp only [List.length_cons, List.length_append] at enough
      have valueFound := induction value (by omega) (left.ends_fields rest)
      have leftFound := induction left (by omega) ends
      obtain ⟨others, rfl⟩ := value.field_begins
      simp only [Phrase.Found, List.cons_append, List.append_assoc] at valueFound leftFound ⊢
      rw [readValue_object blank, valueFound]
      simp [leftFound]
    | field spelled blankBefore blankAfter value =>
      simp only [List.length_cons, List.length_append] at enough
      have valueFound := induction value (by omega) ends
      obtain ⟨first, others, rfl, visible, _⟩ := value.begins
      simp only [Phrase.Found, List.cons_append, List.append_assoc] at valueFound ⊢
      rw [readField_eq spelled blankBefore blankAfter visible, valueFound]
      rfl
    | lastField blank =>
      rw [Phrase.Found, List.append_assoc]
      exact readFields_last blank fuel rest
    | nextField blankBefore blankAfter value left =>
      simp only [List.length_cons, List.length_append] at enough
      have valueFound := induction value (by omega) (left.ends_fields rest)
      have leftFound := induction left (by omega) ends
      obtain ⟨others, rfl⟩ := value.field_begins
      simp only [Phrase.Found, List.cons_append, List.append_assoc] at valueFound leftFound ⊢
      rw [readFields_next blankBefore blankAfter, valueFound]
      simp [leftFound]

/-- What a text denotes is what is read of it. -/
theorem Denotes.read {text : String} {data : Data} (denotes : Denotes text data) :
    read text = some data := by
  obtain @⟨before, value, after, split, blankBefore, blankAfter, written⟩ := denotes
  have enough : value.length < text.length + 1 := by
    rw [← String.length_toList, split]
    simp only [List.length_append]
    omega
  have ends : Ends isNumberCharacter after :=
    List.append_nil after ▸ ends_append blankAfter (.inl rfl)
  have found := written.found enough ends
  have nothing : skip after = [] := List.dropWhile_eq_nil_iff.mpr blankAfter
  obtain ⟨first, others, rfl, visible, _⟩ := written.begins
  have begun := skip_append blankBefore visible (others ++ after)
  rw [Phrase.Found, List.cons_append] at found
  rw [Json.read, split, List.cons_append, begun, found]
  simp [nothing]

/-- A text denotes at most one value. -/
theorem Denotes.unique {text : String} {first second : Data} (one : Denotes text first)
    (other : Denotes text second) : first = second :=
  Option.some.inj (one.read.symm.trans other.read)

end ScenarioTree.Json
