/-
This file follows the two characters that may end a line through everything that looks at characters
one by one. They are blanks that are in no name and begin and end no piece of markup, so whatever
is being read treats both alike: references stop at them, and tags, remarks and literals stop at
both or take both in.

There are two exceptions. In the text of an element and in a section of character data the reader of
a carriage return still waits for a line feed, and remembers where the carriage return stood. And in
the name of a section a line end of two characters counts as two.

Of the state of a reader only one thing has to be known, that the quote of a literal is no line end.
-/

import ScenarioTree.Proofs.Newline
import ScenarioTree.Xml.Doctype.Mark

namespace ScenarioTree

/-! ### Spellings -/

namespace Text

theorem unifyNewlines_of_free {characters : List Char} (free : '\r' ∉ characters) :
    unifyNewlines characters = characters := by
  have whole := unifyNewlines_append free []
  rwa [List.append_nil, unifyNewlines, List.append_nil] at whole

theorem unifyNewlines_unifyNewlines (characters : List Char) :
    unifyNewlines (unifyNewlines characters) = unifyNewlines characters :=
  unifyNewlines_of_free (return_not_mem_unifyNewlines characters)

/-- Where one spelling is used already, nothing is left to be done. -/
theorem unifyInner_unifyNewlines (characters : List Char) :
    unifyInner (unifyNewlines characters) = unifyNewlines characters := by
  have ended : (unifyNewlines characters).getLast? ≠ some '\r' := fun last =>
    return_not_mem_unifyNewlines characters (List.mem_of_getLast? last)
  rw [unifyInner_eq ended, unifyNewlines_unifyNewlines]

/-- A carriage return at the end becomes a line feed. -/
theorem unifyNewlines_concat_return (characters : List Char) :
    unifyNewlines (characters ++ ['\r']) = unifyNewlines characters ++ ['\n'] :=
  unifyNewlines_append_of_apart characters (by decide)

/-- A reader that may still wait for a line feed keeps the carriage return. -/
theorem unifyInner_concat_return (characters : List Char) :
    unifyInner (characters ++ ['\r']) = unifyNewlines characters ++ ['\r'] := by
  induction characters using unifyNewlines.induct with
  | case1 => rfl
  | case2 rest induction => simp only [List.cons_append, unifyNewlines, unifyInner, induction]
  | case3 rest other induction =>
    rw [List.cons_append, unifyNewlines_alone other, unifyInner, induction]
    · rfl
    · intro more same
      cases rest with
      | nil => cases same
      | cons second others =>
        obtain ⟨rfl, -⟩ := List.cons.inj same
        exact other others rfl
    · exact fun none => List.append_ne_nil_of_right_ne_nil rest (by simp) none
  | case4 character rest _ other induction =>
    rw [List.cons_append, unifyNewlines_cons other, unifyInner, induction]
    · rfl
    · exact fun more returned _ => other returned
    · exact fun returned _ => other returned
    · exact other

/-- Without carriage returns no line end has two characters. -/
theorem joinedReturns_of_free {characters : List Char} (free : '\r' ∉ characters) (count : Nat) :
    joinedReturns count characters = 0 := by
  induction count generalizing characters with
  | zero => rw [joinedReturns]
  | succ count induction =>
    cases characters with
    | nil => rfl
    | cons first rest =>
      rw [joinedReturns]
      · exact induction fun member => free (List.mem_cons_of_mem _ member)
      · rintro more rfl rfl
        exact free (by simp)

end Text

namespace Xml

open Text (unifyNewlines)

/-! ### Line ends as characters -/

theorem after_return (here : Position) : here.after '\r' = here.after '\n' := rfl

/-- The two characters that may end a line. They are blanks that belong to no name and begin and end
no piece of markup. -/
inductive EndsLine : Char → Prop where
  | carriageReturn : EndsLine '\r'
  | lineFeed : EndsLine '\n'

namespace EndsLine

variable {character : Char}

theorem isSpace (ends : EndsLine character) : isSpace character = true := by
  cases ends <;> rfl

theorem isLegal (ends : EndsLine character) : isLegal character = true := by
  cases ends <;> rfl

theorem isAsciiLetter (ends : EndsLine character) : isAsciiLetter character = false := by
  cases ends <;> rfl

theorem isNameStart (ends : EndsLine character) : isNameStart character = false := by
  cases ends <;> rfl

theorem isNamePart (ends : EndsLine character) : isNamePart character = false := by
  cases ends <;> rfl

/-- A line end is none of the other signs. -/
theorem beq (ends : EndsLine character) {sign : Char} (other : sign ≠ '\r' ∧ sign ≠ '\n') :
    (character == sign) = false := by
  cases ends with
  | carriageReturn => simpa using Ne.symm other.1
  | lineFeed => simpa using Ne.symm other.2

/-- A line end takes one byte. -/
theorem utf8ByteSize (ends : EndsLine character) (before : List Char) :
    (String.ofList (before ++ [character])).utf8ByteSize =
      (String.ofList before).utf8ByteSize + 1 := by
  rw [String.ofList_append, String.utf8ByteSize_append]
  cases ends <;> rfl

end EndsLine

/-! ### Pieces of markup -/

/-- No reference goes on with a line end. -/
theorem Reference.Pending.step_endsLine {character : Char} (ends : EndsLine character)
    (pending : Pending) : pending.step character = .invalid := by
  cases ends <;> cases pending <;> rfl

/-- A remark goes on with both line ends or with none. -/
theorem Remark.Pending.step_endsLine (pending : Pending) :
    (∀ character, EndsLine character → pending.step character = .invalid) ∨
      ∀ character, EndsLine character → ∃ longer, pending.step character = .more longer := by
  cases pending with
  | dash | targetStart | targetEnd target =>
    refine .inl fun character ends => ?_
    cases ends <;> rfl
  | comment seen dashes =>
    match dashes with
    | 0 | 1 =>
      refine .inr fun character ends => ?_
      cases ends <;> exact ⟨_, rfl⟩
    | more + 2 =>
      refine .inl fun character ends => ?_
      cases ends <;> rfl
  | targetName seen =>
    cases reserved : isReservedTarget (String.ofList seen.reverse) with
    | true =>
      refine .inl fun character ends => ?_
      simp [step, ends.isNamePart, reserved]
    | false =>
      refine .inr fun character ends => ?_
      simp [step, ends.isNamePart, ends.isSpace, reserved]
  | rest target seen question =>
    refine .inr fun character ends => ?_
    cases question <;> cases ends <;> exact ⟨_, rfl⟩

namespace RawTag

theorem follow_endsLine {character : Char} (ends : EndsLine character) (tag : RawTag) :
    follow tag character = .more (.gap tag) := by
  rw [follow, if_pos ends.isSpace]

theorem extend?_endsLine {character : Char} (ends : EndsLine character) (name : PendingName) :
    name.extend? character = none := by
  have colon := ends.beq (by decide : ':' ≠ '\r' ∧ ':' ≠ '\n')
  rw [PendingName.extend?]
  split
  · simp [ends.isNameStart]
  · simp [ends.isNamePart, colon]
  · simp [ends.isNamePart]

/-- A tag goes on with both line ends or with none. -/
theorem Pending.step_endsLine (pending : Pending) (here : Position) :
    (∀ character, EndsLine character → pending.step here character = .invalid) ∨
      ∀ character, EndsLine character → ∃ longer, pending.step here character = .more longer := by
  cases pending with
  | tagName name =>
    cases complete : name.complete with
    | true =>
      refine .inr fun character ends => ⟨.gap ⟨name.text, [], false⟩, ?_⟩
      simp [step, extend?_endsLine ends, complete, follow_endsLine ends]
    | false =>
      refine .inl fun character ends => ?_
      simp [step, extend?_endsLine ends, complete]
  | gap tag =>
    refine .inr fun character ends => ⟨.gap tag, ?_⟩
    simp [step, ends.isNameStart, follow_endsLine ends]
  | slash tag =>
    refine .inl fun character ends => ?_
    cases ends <;> rfl
  | attributeName head name =>
    cases complete : name.complete with
    | true =>
      refine .inr fun character ends => ⟨.beforeEquals head name.text, ?_⟩
      simp [step, extend?_endsLine ends, complete, ends.isSpace]
    | false =>
      refine .inl fun character ends => ?_
      simp [step, extend?_endsLine ends, complete]
  | beforeEquals head name | beforeQuote head name =>
    refine .inr fun character ends => ?_
    cases ends <;> exact ⟨_, rfl⟩
  | attributeValue head name start quote seen reference =>
    cases reference with
    | none =>
      refine .inr fun character ends => ?_
      have less := ends.beq (by decide : '<' ≠ '\r' ∧ '<' ≠ '\n')
      rw [step]
      split
      · exact ⟨_, rfl⟩
      · rw [if_neg (by simp [less, ends.isLegal])]
        exact ⟨_, rfl⟩
    | some reference =>
      refine .inl fun character ends => ?_
      rw [step, reference.step_endsLine ends]
  | afterValue tag =>
    exact .inr fun character ends => ⟨.gap tag, follow_endsLine ends tag⟩

end RawTag

namespace Doctype.Pending

/-- The quote of a literal is no line end. -/
def Regular : Pending → Prop
  | literal quote _ => ¬ EndsLine quote
  | _ => True

/-- What is left of a regular mark. -/
def RegularOutcome : Outcome → Prop
  | .more pending | .before _ pending _ => pending.Regular
  | _ => True

theorem regular_stepIdle (here : Position) (character : Char) :
    RegularOutcome (stepIdle here character) := by
  have quote {sign : Char} (known : sign = '"' ∨ sign = '\'') : ¬ EndsLine sign := by
    rintro ⟨⟩ <;> simp at known
  rw [stepIdle.eq_def]
  repeat' split
  all_goals first
    | exact True.intro
    | exact quote (by simp)

theorem regular_stepWord (here : Position) (character : Char) (kind : WordKind)
    (seen : List Char) : RegularOutcome (stepWord here character kind seen) := by
  rw [stepWord.eq_def]
  repeat' split
  all_goals exact True.intro

/-- One more character keeps a mark regular. -/
theorem step_regular {pending : Pending} (regular : pending.Regular) (here : Position)
    (character : Char) : RegularOutcome (pending.step here character) := by
  cases pending with
  | idle => exact regular_stepIdle here character
  | word kind seen => exact regular_stepWord here character kind seen
  | colon seen =>
    rw [step]
    split
    · exact True.intro
    · exact regular_stepWord here character .other seen
  | literal quote seen =>
    rw [step]
    repeat' split
    · exact True.intro
    · exact regular
    · exact True.intro
  | _ =>
    rw [step]
    repeat' split
    all_goals exact True.intro

/-- What a line end makes of a mark when it does not belong to it: no more of the mark, and no
tag. -/
def Settled : Outcome → Prop
  | .more _ => False
  | .done mark => mark ≠ .rootTag
  | _ => True

theorem settled_alike {pending : Pending} {here : Position}
    (settled : Settled (pending.step here '\n'))
    (alike : pending.step here '\r' = pending.step here '\n') :
    ∃ outcome, Settled outcome ∧
      ∀ character, EndsLine character → pending.step here character = outcome := by
  refine ⟨pending.step here '\n', settled, fun character ends => ?_⟩
  cases ends with
  | carriageReturn => exact alike
  | lineFeed => rfl

/-- Both line ends settle a mark alike, or both belong to a mark that is not complete. -/
theorem step_endsLine {pending : Pending} (regular : pending.Regular) (here : Position) :
    (∃ outcome, Settled outcome ∧
      ∀ character, EndsLine character → pending.step here character = outcome) ∨
    ∀ character, EndsLine character → ∃ longer, longer.finish = .invalid ∧
      pending.step here character = .more longer := by
  cases pending with
  | remark pending =>
    rcases pending.step_endsLine with stops | goesOn
    · refine .inl ⟨.invalid here, trivial, fun character ends => ?_⟩
      rw [step, stops character ends]
    · refine .inr fun character ends => ?_
      obtain ⟨longer, stepped⟩ := goesOn character ends
      exact ⟨.remark longer, rfl, by rw [step, stepped]⟩
  | literal quote seen =>
    refine .inr fun character ends => ⟨.literal quote (character :: seen), rfl, ?_⟩
    have inside : (character == quote) = false := by
      rw [beq_eq_false_iff_ne]
      rintro rfl
      exact regular ends
    rw [step, if_neg (by simp [inside]), if_pos ends.isLegal]
  | idle => exact .inl (settled_alike Doctype.Mark.noConfusion rfl)
  | _ => exact .inl (settled_alike True.intro rfl)

end Doctype.Pending

/-! ### Content -/

namespace Lexeme

/-- Whether a line end is a character of the content here: in text and in a section. -/
def takesLineEnds : Lexeme → Bool
  | text _ | carriage _ | data _ | dataCarriage _ => true
  | _ => false

/-- What is known of the name of a section: it is not as long yet as the right one, in bytes. -/
def Short : Lexeme → Prop
  | sectionName seen => (String.ofList seen.reverse).utf8ByteSize < sectionOpening.length
  | _ => True

theorem short_stepText {here : Position} {character : Char} {brackets : Nat} {onward : Lexeme}
    {tokens : List Token} (stepped : stepText here character brackets = .ok (onward, tokens)) :
    onward.Short := by
  rw [stepText] at stepped
  repeat' split at stepped
  all_goals
    cases stepped
    try exact True.intro

theorem short_stepData {here : Position} {character : Char} {brackets : Nat} {onward : Lexeme}
    {tokens : List Token} (stepped : stepData here character brackets = .ok (onward, tokens)) :
    onward.Short := by
  rw [stepData] at stepped
  repeat' split at stepped
  all_goals
    cases stepped
    try exact True.intro

/-- As soon as the name is long enough it is no longer in hand. -/
theorem short_step {lexeme : Lexeme} {start here : Position} {character : Char} {onward : Lexeme}
    {tokens : List Token} (stepped : lexeme.step start here character = .ok (onward, tokens)) :
    onward.Short := by
  cases lexeme with
  | text brackets | carriage position => exact short_stepText stepped
  | data brackets | dataCarriage position => exact short_stepData stepped
  | sectionName seen =>
    rw [step, stepSectionName] at stepped
    split at stepped
    · next short =>
      cases stepped
      exact short
    · split at stepped
      all_goals
        cases stepped
        try exact True.intro
  | bang =>
    rw [step] at stepped
    repeat' split at stepped
    all_goals
      cases stepped
      try exact True.intro
      try exact (by decide : (String.ofList ([] : List Char).reverse).utf8ByteSize < 6)
  | endTag position seen =>
    cases seen <;> rw [step] at stepped
    case cons.x_1 => exact fun none => List.cons_ne_nil _ _ none
    all_goals
      repeat' split at stepped
      all_goals
        cases stepped
        try exact True.intro
  | _ =>
    rw [step] at stepped
    repeat' split at stepped
    all_goals
      cases stepped
      try exact True.intro

/-- Both line ends differ at the same place from a name that holds none. -/
theorem mismatch?_endsLine (before : List Char) {name : List Char}
    (unbroken : ∀ character ∈ name, ¬ EndsLine character) :
    ∃ place, ∀ character, EndsLine character →
      mismatch? (before ++ [character]) name = some place := by
  induction before generalizing name with
  | nil =>
    cases name with
    | nil => exact ⟨0, fun _ _ => rfl⟩
    | cons first rest =>
      refine ⟨0, fun character ends => ?_⟩
      rw [List.nil_append, mismatch?, if_neg]
      rintro same
      exact unbroken first List.mem_cons_self (eq_of_beq same ▸ ends)
  | cons second more induction =>
    cases name with
    | nil => exact ⟨0, fun _ _ => rfl⟩
    | cons first rest =>
      obtain ⟨place, differs⟩ :=
        induction fun character member => unbroken character (List.mem_cons_of_mem _ member)
      cases same : second == first with
      | true =>
        refine ⟨place + 1, fun character ends => ?_⟩
        rw [List.cons_append, mismatch?, if_pos same, differs character ends]
        rfl
      | false =>
        refine ⟨0, fun character ends => ?_⟩
        rw [List.cons_append, mismatch?, if_neg (by simp [same])]

theorem not_endsLine_of_mem_sectionOpening :
    ∀ character ∈ sectionOpening, ¬ EndsLine character := by
  intro character member ends
  cases ends <;> exact absurd member (by decide)

/-- The name of a section, if that is in hand. -/
def sectionName? : Lexeme → Option (List Char)
  | sectionName seen => some seen
  | _ => none

/-- Elsewhere a line end belongs to markup, which either stops at both line ends or goes on with
them. It goes on as the name of a section if it was one. -/
theorem step_endsLine {lexeme : Lexeme} (markup : lexeme.takesLineEnds = false)
    (start here : Position) :
    (∃ place, ∀ character, EndsLine character →
      lexeme.step start here character = .error place) ∨
    ∀ character, EndsLine character → ∃ onward : Lexeme, onward.takesLineEnds = false ∧
      onward.sectionName? = lexeme.sectionName?.map (character :: ·) ∧
      lexeme.step start here character = .ok (onward, []) := by
  cases lexeme with
  | text brackets | carriage position | data brackets | dataCarriage position => cases markup
  | reference pending =>
    refine .inl ⟨here, fun character ends => ?_⟩
    rw [step, pending.step_endsLine ends]
  | angle | bang =>
    refine .inl ⟨here, fun character ends => ?_⟩
    cases ends <;> rfl
  | remark pending =>
    rcases pending.step_endsLine with stops | goesOn
    · refine .inl ⟨here, fun character ends => ?_⟩
      rw [step, stops character ends]
    · refine .inr fun character ends => ?_
      obtain ⟨longer, stepped⟩ := goesOn character ends
      exact ⟨.remark longer, rfl, rfl, by rw [step, stepped]⟩
  | sectionName seen =>
    obtain ⟨place, differs⟩ :=
      mismatch?_endsLine seen.reverse not_endsLine_of_mem_sectionOpening
    by_cases short :
        (String.ofList seen.reverse).utf8ByteSize + 1 < sectionOpening.length
    · refine .inr fun character ends => ⟨.sectionName (character :: seen), rfl, rfl, ?_⟩
      rw [step, stepSectionName, List.reverse_cons, ends.utf8ByteSize, if_pos short]
    · refine .inl ⟨⟨start.line, start.column + 3 + place⟩, fun character ends => ?_⟩
      simp only [step, stepSectionName, List.reverse_cons, ends.utf8ByteSize, if_neg short,
        differs character ends]
  | startTag pending =>
    rcases pending.step_endsLine here with stops | goesOn
    · refine .inl ⟨here, fun character ends => ?_⟩
      rw [step, stops character ends]
    · refine .inr fun character ends => ?_
      obtain ⟨longer, stepped⟩ := goesOn character ends
      exact ⟨.startTag longer, rfl, rfl, by rw [step, stepped]⟩
  | endTag position seen =>
    cases seen with
    | nil =>
      refine .inl ⟨here, fun character ends => ?_⟩
      rw [step, if_neg (by simp [ends.isNameStart])]
    | cons first rest =>
      refine .inr fun character ends =>
        ⟨.endTagGap position (String.ofList (first :: rest).reverse), rfl, rfl, ?_⟩
      cases ends <;> rfl
  | endTagGap position name =>
    refine .inr fun character ends => ⟨.endTagGap position name, rfl, rfl, ?_⟩
    cases ends <;> rfl

/-- A line end lets go of the brackets that a section holds back. The place of a carriage return is
remembered. -/
theorem step_data_endsLine (start here : Position) (brackets : Nat) :
    let tokens := (List.replicate brackets ']' ++ ['\n']).map Token.character
    (data brackets).step start here '\r' = .ok (.dataCarriage here, tokens) ∧
      (data brackets).step start here '\n' = .ok (.data 0, tokens) := by
  have held : List.replicate brackets (Token.character ']') ++ [.character '\n'] =
      (List.replicate brackets ']' ++ ['\n']).map Token.character := by
    rw [List.map_append, List.map_replicate, List.map_singleton]
  simp only [← held]
  exact ⟨rfl, rfl⟩

/-- The character after an angle bracket completes nothing. -/
theorem tokens_of_angle {start here : Position} {character : Char} {onward : Lexeme}
    {tokens : List Token}
    (stepped : angle.step start here character = .ok (onward, tokens)) : tokens = [] := by
  rw [step] at stepped
  repeat' split at stepped
  all_goals
    cases stepped
    try rfl

end Lexeme

end Xml

end ScenarioTree
