/-
This file says what the tokens of content are made of, whatever they are tokens of. A character is
one that a document may hold; the names of a tag are qualified ones, and its values hold such
characters too. Each machine that reads a piece of a tag has this condition on what it has seen so
far, and one more character keeps it.
-/

import ScenarioTree.Proofs.Name
import ScenarioTree.Xml.Lexeme

namespace ScenarioTree.Xml

/-! ### References -/

theorem isNamePart_of_isAsciiLetter {character : Char} (letter : isAsciiLetter character) :
    isNamePart character := by
  have ascii : character.toNat < 0x80 := by
    simp only [isAsciiLetter, Bool.or_eq_true, Bool.and_eq_true, decide_eq_true_iff] at letter
    rcases letter with ⟨_, upper⟩ | ⟨_, upper⟩
    · have : character.toNat ≤ 122 := upper
      omega
    · have : character.toNat ≤ 90 := upper
      omega
  rw [isNamePart, if_pos ascii, letter]
  rfl

theorem isNamePart_of_isAsciiDigit {character : Char} (digit : isAsciiDigit character) :
    isNamePart character := by
  have ascii : character.toNat < 0x80 := by
    simp only [isAsciiDigit, Bool.and_eq_true, decide_eq_true_iff] at digit
    have : character.toNat ≤ 57 := digit.2
    omega
  rw [isNamePart, if_pos ascii, digit, Bool.or_true]
  rfl

theorem isLegal_of_decimalValue? {character : Char} {digit : Nat}
    (found : Reference.decimalValue? character = some digit) : isLegal character := by
  rw [Reference.decimalValue?] at found
  split at found
  · next decimal => exact isLegal_of_isNamePart (isNamePart_of_isAsciiDigit decimal)
  · cases found

theorem isLegal_of_hexValue? {character : Char} {digit : Nat}
    (found : Reference.hexValue? character = some digit) : isLegal character := by
  rw [Reference.hexValue?] at found
  have letter (known : isAsciiLetter character) : isLegal character :=
    isLegal_of_isNamePart (isNamePart_of_isAsciiLetter known)
  split at found
  · next decimal => exact isLegal_of_isNamePart (isNamePart_of_isAsciiDigit decimal)
  · split at found
    · next small =>
      rw [Bool.and_eq_true, decide_eq_true_iff, decide_eq_true_iff] at small
      exact letter (by simp [isAsciiLetter, small.1, Char.le_trans small.2 (by decide : 'f' ≤ 'z')])
    · split at found
      · next capital =>
        rw [Bool.and_eq_true, decide_eq_true_iff, decide_eq_true_iff] at capital
        have last : character ≤ 'Z' := Char.le_trans capital.2 (by decide)
        exact letter (by simp [isAsciiLetter, capital.1, last])
      · cases found

/-- A reference goes on only with characters that a document may hold. -/
theorem Reference.Pending.isLegal_of_step {character : Char} {pending : Reference.Pending}
    (valid : pending.step character ≠ .invalid) : isLegal character := by
  by_contra illegal
  have part : isNamePart character = false := by
    by_contra part
    exact illegal (isLegal_of_isNamePart (by simpa using part))
  have start : isNameStart character = false := by
    by_contra start
    exact illegal (isLegal_of_isNamePart (isNamePart_of_isNameStart (by simpa using start)))
  have decimal : decimalValue? character = none :=
    Option.eq_none_iff_forall_ne_some.mpr fun _ found => illegal (isLegal_of_decimalValue? found)
  have hexadecimal : hexValue? character = none :=
    Option.eq_none_iff_forall_ne_some.mpr fun _ found => illegal (isLegal_of_hexValue? found)
  have other (sign : Char) (legal : isLegal sign) : (character == sign) = false := by
    rw [beq_eq_false_iff_ne]
    rintro rfl
    exact illegal legal
  apply valid
  cases pending <;>
    simp [Pending.step, part, start, decimal, hexadecimal, other '#' (by decide),
      other ';' (by decide), other 'x' (by decide)]

theorem Reference.isLegal_of_characterOf? {number : Nat} {character : Char}
    (found : characterOf? number = some character) : isLegal character := by
  by_cases valid : number.isValidChar
  · rw [characterOf?, dif_pos valid] at found
    obtain ⟨legal, same⟩ := Option.ite_none_right_eq_some.mp found
    exact Option.some.inj same ▸ legal
  · rw [characterOf?, dif_neg valid] at found
    cases found

theorem Reference.isLegal_of_predefined? {name : String} {character : Char}
    (found : predefined? name = some character) : isLegal character := by
  rw [predefined?] at found
  repeat' split at found
  all_goals
    cases found
    try decide

/-! ### Tags -/

/-- A name that is being read: what is there of it is part of a name with one colon at most. -/
def PendingName.Sound (name : PendingName) : Prop :=
  match name.colon with
  | .absent => PlainName name.seen.reverse
  | .fresh => ∃ first, name.seen.reverse = first ++ [':'] ∧ PlainName first
  | .passed => ∃ first last, name.seen.reverse = first ++ ':' :: last ∧ PlainName first ∧
      PlainName last

theorem PendingName.start_sound {character : Char} (start : isNameStart character) :
    (PendingName.start character).Sound :=
  ⟨start, by simp⟩

theorem PendingName.extend?_sound {name longer : PendingName} {character : Char}
    (sound : name.Sound) (extended : name.extend? character = some longer) : longer.Sound := by
  obtain ⟨seen, colon⟩ := name
  rw [extend?] at extended
  cases colon with
  | absent =>
    simp only at extended
    split at extended
    · next part =>
      obtain rfl := Option.some.inj extended
      simp only [Sound, List.reverse_cons] at sound ⊢
      exact sound.append (by simpa using part)
    · split at extended
      · next colon =>
        obtain rfl := Option.some.inj extended
        obtain rfl := eq_of_beq colon
        exact ⟨seen.reverse, List.reverse_cons, sound⟩
      · cases extended
  | fresh =>
    simp only at extended
    split at extended
    · next start =>
      obtain rfl := Option.some.inj extended
      obtain ⟨first, parted, plain⟩ := sound
      simp only at parted
      refine ⟨first, [character], ?_, plain, start, by simp⟩
      rw [List.reverse_cons, parted, List.append_assoc]
      rfl
    · cases extended
  | passed =>
    simp only at extended
    split at extended
    · next part =>
      obtain rfl := Option.some.inj extended
      obtain ⟨first, last, parted, plain, rest⟩ := sound
      simp only at parted
      refine ⟨first, last ++ [character], ?_, plain, rest.append (by simpa using part)⟩
      rw [List.reverse_cons, parted, List.append_assoc]
      rfl
    · cases extended

theorem PendingName.qualified_text {name : PendingName} (sound : name.Sound)
    (complete : name.complete) : Qualified PlainName name.text.toList := by
  obtain ⟨seen, colon⟩ := name
  rw [text, String.toList_ofList]
  cases colon with
  | absent => exact .plain sound
  | fresh => cases complete
  | passed =>
    obtain ⟨first, last, parted, plain, rest⟩ := sound
    exact .parted parted plain rest

/-- An attribute as it is written, with a qualified name and a value that may stand there. -/
structure RawAttribute.Sound (given : RawAttribute) : Prop where
  name : Qualified PlainName given.name.toList
  value : AllLegal given.value.toList

/-- A tag with a qualified name and such attributes. -/
structure RawTag.Sound (tag : RawTag) : Prop where
  name : Qualified PlainName tag.name.toList
  attributes : ∀ given ∈ tag.attributes, given.Sound

namespace RawTag

/-- What has been seen of a tag is part of one. -/
def Pending.Sound : Pending → Prop
  | .tagName name => name.Sound
  | .gap tag | .slash tag | .afterValue tag => tag.Sound
  | .attributeName head name => head.tag.Sound ∧ name.Sound
  | .beforeEquals head name | .beforeQuote head name =>
    head.tag.Sound ∧ Qualified PlainName name.toList
  | .attributeValue head name _ _ seen _ =>
    head.tag.Sound ∧ Qualified PlainName name.toList ∧ AllLegal seen

/-- A sound part of a tag, or a sound tag. -/
def SoundProgress : Progress Pending RawTag → Prop
  | .more pending => pending.Sound
  | .done tag => tag.Sound
  | .invalid => True

theorem Sound.follow {tag : RawTag} (sound : tag.Sound) (character : Char) :
    SoundProgress (RawTag.follow tag character) := by
  rw [RawTag.follow]
  split
  · exact sound
  · split
    · exact sound
    · split
      · exact sound
      · trivial

theorem Sound.addAttribute {head : AttributeHead} {name : String} {seen : List Char}
    (sound : head.tag.Sound) (qualified : Qualified PlainName name.toList) (legal : AllLegal seen)
    (start : Position) : (RawTag.addAttribute head name start seen).Sound := by
  refine ⟨sound.name, fun given member => ?_⟩
  rcases List.mem_append.mp member with member | member
  · exact sound.attributes given member
  · obtain rfl := List.mem_singleton.mp member
    refine ⟨qualified, fun character member => ?_⟩
    rw [String.toList_ofList, List.mem_reverse] at member
    exact legal character member

/-- One more character keeps a tag sound. -/
theorem Pending.step_sound {pending : Pending} (sound : pending.Sound) (here : Position)
    (character : Char) : SoundProgress (pending.step here character) := by
  cases pending with
  | tagName name =>
    rw [step]
    split
    · next longer extended => exact PendingName.extend?_sound sound extended
    · split
      · next complete =>
        exact Sound.follow ⟨name.qualified_text sound complete, by simp⟩ character
      · trivial
  | gap tag =>
    rw [step]
    split
    · next start => exact ⟨sound, PendingName.start_sound start⟩
    · exact Sound.follow sound character
  | slash tag =>
    rw [step]
    split
    · exact ⟨sound.name, sound.attributes⟩
    · trivial
  | attributeName head name =>
    rw [step]
    split
    · next longer extended => exact ⟨sound.1, PendingName.extend?_sound sound.2 extended⟩
    · split
      · trivial
      · next complete =>
        have qualified := name.qualified_text sound.2 (by simpa using complete)
        split
        · exact ⟨sound.1, qualified⟩
        · split
          · exact ⟨sound.1, qualified⟩
          · trivial
  | beforeEquals head name =>
    rw [step]
    split
    · exact sound
    · split
      · exact sound
      · trivial
  | beforeQuote head name =>
    rw [step]
    split
    · exact sound
    · split
      · exact ⟨sound.1, sound.2, by simp [AllLegal]⟩
      · trivial
  | attributeValue head name start quote seen reference =>
    obtain ⟨tagSound, qualified, legal⟩ := sound
    cases reference with
    | none =>
      rw [step]
      split
      · exact tagSound.addAttribute qualified legal start
      · split
        · trivial
        · next valid =>
          simp only [Bool.or_eq_true, not_or, Bool.not_eq_true, Bool.not_eq_false'] at valid
          exact ⟨tagSound, qualified, allLegal_cons valid.2 legal⟩
    | some reference =>
      rw [step]
      have valid := @Reference.Pending.isLegal_of_step character reference
      split
      · next progress =>
        exact ⟨tagSound, qualified, allLegal_cons (valid (by simp [progress])) legal⟩
      · next progress =>
        exact ⟨tagSound, qualified, allLegal_cons (valid (by simp [progress])) legal⟩
      · trivial
  | afterValue tag => exact Sound.follow sound character

end RawTag

/-! ### Tokens -/

/-- A character that a document may hold, a sound tag, or any other token. -/
def Token.Sound : Token → Prop
  | character letter => isLegal letter
  | startTag tag => tag.Sound
  | _ => True

/-- What has been seen of a tag is sound; other tokens are not looked at. -/
def Lexeme.Sound : Lexeme → Prop
  | .startTag pending => pending.Sound
  | _ => True

/-- A sound lexeme after some sound tokens. -/
def Lexeme.SoundResult : Except Position (Lexeme × List Token) → Prop
  | .ok (lexeme, tokens) => lexeme.Sound ∧ ∀ token ∈ tokens, token.Sound
  | .error _ => True

namespace Lexeme

theorem SoundResult.none {lexeme : Lexeme} (sound : lexeme.Sound) :
    SoundResult (.ok (lexeme, [])) :=
  ⟨sound, by simp⟩

theorem SoundResult.one {lexeme : Lexeme} {token : Token} (sound : lexeme.Sound)
    (tokenSound : token.Sound) : SoundResult (.ok (lexeme, [token])) :=
  ⟨sound, by simpa using tokenSound⟩

theorem stepText_sound (here : Position) (character : Char) (brackets : Nat) :
    SoundResult (stepText here character brackets) := by
  rw [stepText]
  split
  · exact .none trivial
  · split
    · exact .none trivial
    · split
      · exact .one trivial (by decide : isLegal '\n')
      · split
        · next bracket =>
          obtain rfl := eq_of_beq bracket
          exact .one trivial (by decide : isLegal ']')
        · split
          · trivial
          · next valid =>
            simp only [Bool.or_eq_true, not_or, Bool.not_eq_true, Bool.not_eq_false'] at valid
            exact .one trivial valid.2

/-- A character of a section, behind the brackets that were held back. -/
theorem held_sound (brackets : Nat) {last : Char} (legal : isLegal last) :
    ∀ token ∈ List.replicate brackets (Token.character ']') ++ [.character last], token.Sound := by
  intro token member
  rcases List.mem_append.mp member with member | member
  · obtain rfl := List.eq_of_mem_replicate member
    exact (by decide : isLegal ']')
  · obtain rfl := List.mem_singleton.mp member
    exact legal

theorem stepData_sound (here : Position) (character : Char) (brackets : Nat) :
    SoundResult (stepData here character brackets) := by
  rw [stepData]
  split
  · split
    · exact .one trivial (by decide : isLegal ']')
    · exact .none trivial
  · split
    · exact .none trivial
    · split
      · exact ⟨trivial, held_sound brackets (by decide : isLegal '\n')⟩
      · split
        · next legal => exact ⟨trivial, held_sound brackets legal⟩
        · trivial

theorem stepSectionName_sound (start : Position) (seen : List Char) :
    SoundResult (stepSectionName start seen) := by
  rw [stepSectionName]
  split
  · exact .none trivial
  · split
    · exact .none trivial
    · trivial

/-- One more character keeps a lexeme sound and completes sound tokens. -/
theorem step_sound {lexeme : Lexeme} (sound : lexeme.Sound) (start here : Position)
    (character : Char) : SoundResult (lexeme.step start here character) := by
  cases lexeme with
  | text brackets => exact stepText_sound here character brackets
  | carriage position => exact stepText_sound here character 0
  | data brackets => exact stepData_sound here character brackets
  | dataCarriage position => exact stepData_sound here character 0
  | sectionName seen => exact stepSectionName_sound start _
  | startTag pending =>
    have progress := pending.step_sound sound here character
    rw [step]
    split
    · next more =>
      rw [more] at progress
      exact .none progress
    · next done =>
      rw [done] at progress
      exact .one trivial progress
    · trivial
  | angle =>
    rw [step]
    repeat' split
    all_goals first
      | exact True.intro
      | exact .none trivial
      | exact .none (PendingName.start_sound ‹_›)
  | reference pending | remark pending | bang | endTagGap position name =>
    rw [step]
    repeat' split
    all_goals first
      | exact True.intro
      | exact .none trivial
      | exact .one trivial trivial
  | endTag position seen =>
    cases seen with
    | nil =>
      rw [step]
      split
      · exact .none trivial
      · trivial
    | cons first rest =>
      rw [step]
      case x_1 => exact fun none => List.cons_ne_nil _ _ none
      repeat' split
      all_goals first
        | exact True.intro
        | exact .none trivial
        | exact .one trivial trivial

/-- In the text of an entity, too. -/
theorem stepReplacement_sound {lexeme : Lexeme} (sound : lexeme.Sound) (start here : Position)
    (character : Char) : SoundResult (lexeme.stepReplacement start here character) := by
  have returned : isLegal '\r' := by decide
  cases lexeme with
  | text brackets =>
    rw [stepReplacement]
    split
    · exact .one trivial returned
    · exact stepText_sound here character brackets
  | data brackets =>
    rw [stepReplacement]
    split
    · exact ⟨trivial, held_sound brackets returned⟩
    · exact stepData_sound here character brackets
  | _ => exact step_sound sound start here character

end Lexeme

end ScenarioTree.Xml
