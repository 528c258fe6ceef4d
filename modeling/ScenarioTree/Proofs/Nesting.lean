/-
This file counts how deep tags are nested, once in the tokens that content is split into and once on
the stack of elements that are open, and shows that both counts agree.

What has to be shown for this is that the text of an entity leaves the stack as high as it was. Such
a text is read like content of its own: it may not close an element that was open before it, nor
leave one open. That holds only where an element is open, so a reference may not come before the
first tag is complete.
-/

import ScenarioTree.Proofs.Spelling

namespace ScenarioTree.Xml

/-! ### Tokens -/

/-- Whether a token is a tag. -/
def Token.isTag : Token → Bool
  | .startTag _ | .endTag _ _ => true
  | _ => false

/-- Only a closing bracket completes a start tag. -/
theorem RawTag.Pending.eq_of_done {pending : Pending} {here : Position} {character : Char}
    {tag : RawTag} (done : pending.step here character = .done tag) : character = '>' := by
  have follow (before : RawTag) (found : RawTag.follow before character = .done tag) :
      character = '>' := by
    rw [RawTag.follow] at found
    repeat' split at found
    all_goals first
      | exact eq_of_beq ‹_›
      | cases found
  cases pending with
  | tagName name =>
    rw [step] at done
    split at done
    · cases done
    · split at done
      · exact follow _ done
      · cases done
  | gap tag =>
    rw [step] at done
    split at done
    · cases done
    · exact follow tag done
  | slash tag =>
    rw [step] at done
    split at done
    · exact eq_of_beq ‹_›
    · cases done
  | afterValue tag => exact follow tag done
  | attributeValue head name start quote seen reference =>
    cases reference with
    | none =>
      rw [step] at done
      repeat' split at done
      all_goals cases done
    | some reference =>
      rw [step] at done
      split at done
      all_goals cases done
  | _ =>
    rw [step] at done
    repeat' split at done
    all_goals cases done

namespace Lexeme

/-- What one character may complete: plain characters or one other token, and a tag only if it is a
closing bracket. -/
inductive Completes (character : Char) : List Token → Prop where
  | characters (characters : List Char) : Completes character (characters.map .character)
  | other {token : Token} (untagged : token.isTag = false) : Completes character [token]
  | tag {token : Token} (bracket : character = '>') : Completes character [token]

/-- If the markup is valid, such tokens are completed. -/
def CompletesSome (character : Char) : Except Position (Lexeme × List Token) → Prop
  | .ok (_, tokens) => Completes character tokens
  | .error _ => True

variable {character : Char}

theorem completes_nil : Completes character [] :=
  .characters []

theorem completes_stepText (here : Position) (brackets : Nat) :
    CompletesSome character (stepText here character brackets) := by
  rw [stepText]
  repeat' split
  all_goals first
    | exact True.intro
    | exact completes_nil
    | exact .other rfl

theorem completes_stepData (here : Position) (brackets : Nat) :
    CompletesSome character (stepData here character brackets) := by
  have held (last : Char) : Completes character
      (List.replicate brackets (Token.character ']') ++ [.character last]) := by
    have plain : Completes character ((List.replicate brackets ']' ++ [last]).map .character) :=
      .characters _
    rwa [List.map_append, List.map_replicate, List.map_singleton] at plain
  rw [stepData]
  repeat' split
  all_goals first
    | exact True.intro
    | exact completes_nil
    | exact .other rfl
    | exact held _

theorem completes_step (lexeme : Lexeme) (start here : Position) (character : Char) :
    CompletesSome character (lexeme.step start here character) := by
  cases lexeme with
  | text brackets => exact completes_stepText here brackets
  | carriage position => exact completes_stepText here 0
  | data brackets => exact completes_stepData here brackets
  | dataCarriage position => exact completes_stepData here 0
  | sectionName seen =>
    rw [step, stepSectionName]
    repeat' split
    all_goals first
      | exact True.intro
      | exact completes_nil
  | startTag pending =>
    rw [step]
    split
    · exact completes_nil
    · next done => exact .tag (RawTag.Pending.eq_of_done done)
    · exact True.intro
  | endTag position seen =>
    cases seen with
    | nil =>
      rw [step]
      split
      · exact completes_nil
      · exact True.intro
    | cons first rest =>
      rw [step]
      case x_1 => exact fun none => List.cons_ne_nil _ _ none
      repeat' split
      all_goals first
        | exact True.intro
        | exact completes_nil
        | exact .tag (eq_of_beq ‹_›)
  | _ =>
    rw [step]
    repeat' split
    all_goals first
      | exact True.intro
      | exact completes_nil
      | exact .other rfl
      | exact .tag (eq_of_beq ‹_›)

/-- While a start tag is read no other token is completed, and without it the tag goes on. -/
theorem step_startTag {pending : RawTag.Pending} {start here : Position} {character : Char}
    {onward : Lexeme} {tokens : List Token}
    (stepped : (startTag pending).step start here character = .ok (onward, tokens)) :
    (∃ longer, onward = .startTag longer ∧ tokens = []) ∨
      ∃ tag, tokens = [.startTag tag] := by
  rw [step] at stepped
  split at stepped
  · cases stepped
    exact .inl ⟨_, rfl, rfl⟩
  · cases stepped
    exact .inr ⟨_, rfl⟩
  · cases stepped

end Lexeme

/-! ### Nested tags -/

/-- How deep tags are nested: that many are open, or the first one has been closed. -/
inductive Nesting where
  | inside (depth : Nat)
  | behind
  deriving DecidableEq

/-- The nesting after one more token. -/
def Nesting.step : Nesting → Token → Nesting
  | .inside depth, .startTag tag =>
    if !tag.closed then .inside (depth + 1) else if depth = 0 then .behind else .inside depth
  | .inside depth, .endTag _ _ => if depth ≤ 1 then .behind else .inside (depth - 1)
  | nesting, _ => nesting

/-! ### Nesting and the stack -/

theorem Nesting.foldl_characters (nesting : Nesting) (characters : List Char) :
    (characters.map Token.character).foldl Nesting.step nesting = nesting := by
  induction characters with
  | nil => rfl
  | cons character rest induction =>
    cases nesting <;> exact induction

theorem Nesting.step_ne_inside_zero (depth : Nat) (token : Token) :
    Nesting.step (.inside (depth + 1)) token ≠ .inside 0 := by
  cases token with
  | startTag tag => cases closed : tag.closed <;> simp [Nesting.step, closed]
  | endTag name position =>
    rw [Nesting.step]
    split
    · exact Nesting.noConfusion
    · simp only [ne_eq, Nesting.inside.injEq]
      omega
  | _ => simp [Nesting.step]

/-- Once an element is open no token leads back to where none is. -/
theorem Nesting.foldl_ne_inside_zero {depth : Nat} {character : Char} {tokens : List Token}
    (completes : Lexeme.Completes character tokens) :
    tokens.foldl Nesting.step (.inside (depth + 1)) ≠ .inside 0 := by
  cases completes with
  | characters characters =>
    rw [Nesting.foldl_characters]
    simp
  | other | tag => exact Nesting.step_ne_inside_zero depth _

namespace Content

/-- How deep tags are nested in a tree that is being built. -/
def nesting (content : Content) : Nesting :=
  match content.root with
  | some _ => .behind
  | none => .inside content.frames.length

theorem nesting_eq_inside_iff {content : Content} {depth : Nat} :
    content.nesting = .inside depth ↔ content.root = none ∧ content.frames.length = depth := by
  rw [nesting]
  cases content.root <;> simp

theorem root_flush (content : Content) : content.flush.root = content.root := by
  obtain ⟨buffer, frames, root⟩ := content
  cases buffer with
  | nil => rfl
  | cons character rest => cases frames <;> rfl

theorem length_frames_flush (content : Content) :
    content.flush.frames.length = content.frames.length := by
  obtain ⟨buffer, frames, root⟩ := content
  cases buffer with
  | nil => rfl
  | cons character rest => cases frames <;> rfl

/-- Changing the innermost open element leaves the nesting as it is. -/
theorem nesting_mapFrame (change : Frame → Frame) (content : Content) :
    (content.mapFrame change).nesting = content.nesting := by
  obtain ⟨buffer, frames, root⟩ := content
  cases frames <;> rfl

theorem nesting_flush (content : Content) : content.flush.nesting = content.nesting := by
  rw [nesting, nesting, root_flush, length_frames_flush]

theorem nesting_addRemark (content : Content) (remark : Remark) :
    (content.addRemark remark).nesting = content.nesting := by
  have note (kind : NoteKind) (body : String) :
      (content.addNote kind body).nesting = content.nesting := by
    rw [addNote, nesting_mapFrame, nesting_flush]
  cases remark with
  | comment body => exact note .comment body
  | instruction target rest =>
    rw [addRemark]
    split
    · exact note _ _
    · exact note _ _

theorem nesting_openElement {declared : Declared} {opened : List String} {around : Position}
    {content next : Content} {tag : RawTag} {depth : Nat} (inside : content.nesting = .inside depth)
    (done : content.openElement declared opened around tag = .ok next) :
    next.nesting = .inside (depth + 1) := by
  obtain ⟨written, _, done⟩ := exists_of_bind done
  obtain ⟨frame, _, done⟩ := exists_of_bind done
  obtain rfl := Except.ok.inj done
  obtain ⟨unfinished, length⟩ := nesting_eq_inside_iff.mp inside
  refine nesting_eq_inside_iff.mpr ⟨(root_flush content).trans unfinished, ?_⟩
  rw [List.length_cons, length_frames_flush, length]

/-- Closing the innermost element closes the root if no other is open. -/
theorem nesting_closeFrame {content : Content} {depth : Nat}
    (inside : content.nesting = .inside (depth + 1)) :
    content.closeFrame.nesting = if depth = 0 then .behind else .inside depth := by
  obtain ⟨unfinished, length⟩ := nesting_eq_inside_iff.mp inside
  rw [← length_frames_flush] at length
  rw [closeFrame]
  split
  · next none =>
    rw [none] at length
    cases length
  · next frame only =>
    rw [only] at length
    obtain rfl : depth = 0 := (Nat.succ.inj length).symm
    rfl
  · next frame outer rest more =>
    rw [more] at length
    obtain rfl : depth = rest.length + 1 := (Nat.succ.inj length).symm
    rw [if_neg (Nat.succ_ne_zero _)]
    exact nesting_eq_inside_iff.mpr ⟨unfinished, rfl⟩

/-- Putting in a text leaves the nesting as it is where an element is open. -/
def Replacement.Keeps (replace : Replacement) : Prop :=
  ∀ name text before after depth, before.nesting = .inside (depth + 1) →
    replace name text before = .ok after → after.nesting = .inside (depth + 1)

theorem nesting_addReference {setting : Setting} {opened : List String} {replace : Replacement}
    (keeps : replace.Keeps) {content next : Content} {depth : Nat}
    (inside : content.nesting = .inside (depth + 1)) {reference : Reference}
    (done : content.addReference setting opened replace reference = .ok next) :
    next.nesting = .inside (depth + 1) := by
  cases reference with
  | numbered number =>
    rw [addReference] at done
    split at done
    · obtain rfl := Except.ok.inj done
      exact inside
    · cases done
  | named name =>
    rw [addReference] at done
    split at done
    · obtain rfl := Except.ok.inj done
      exact inside
    · cases done
    · split at done
      · cases done
      · split at done
        · cases done
        · cases done
        · exact keeps _ _ _ _ _ inside done

/-- A token changes the nesting of a tree as it changes that of an outline. -/
theorem nesting_addToken {setting : Setting} {opened : List String} {floor : Nat}
    {replace : Replacement} (keeps : replace.Keeps) {start : Position} {content next : Content}
    {depth : Nat} (inside : content.nesting = .inside depth) {token : Token}
    (entered : depth = 0 → ∃ tag, token = .startTag tag)
    (done : content.addToken setting opened floor replace start token = .ok next) :
    next.nesting = Nesting.step (.inside depth) token := by
  cases token with
  | character character =>
    obtain rfl := Except.ok.inj done
    exact inside
  | reference reference =>
    cases depth with
    | zero =>
      obtain ⟨tag, none⟩ := entered rfl
      cases none
    | succ depth => exact nesting_addReference keeps inside (ok_of_mapError done)
  | startTag tag =>
    obtain ⟨opened, added, done⟩ := exists_of_bind done
    obtain rfl := Except.ok.inj done
    have openedInside := nesting_openElement inside added
    rw [Nesting.step]
    cases tag.closed with
    | false => exact openedInside
    | true => exact nesting_closeFrame openedInside
  | endTag name position =>
    rw [addToken, closeElement] at done
    split at done
    · cases done
    · next frame outer frames =>
      split at done
      · cases done
      · split at done
        · obtain rfl := Except.ok.inj done
          obtain ⟨unfinished, length⟩ := nesting_eq_inside_iff.mp inside
          rw [frames, List.length_cons] at length
          subst length
          rw [nesting_closeFrame inside, Nesting.step]
          cases outer <;> rfl
        · cases done
  | remark remark =>
    rw [addToken] at done
    split at done
    · cases done
    · obtain rfl := Except.ok.inj done
      show _ = Nesting.inside depth
      split
      · rw [nesting_addRemark, inside]
      · exact inside

theorem nesting_foldl_push (characters : List Char) (content : Content) :
    (characters.foldl push content).nesting = content.nesting := by
  induction characters generalizing content with
  | nil => rfl
  | cons character rest induction => exact induction (content.push character)

/-- The tokens of one character change the nesting of a tree as they change that of an outline. -/
theorem nesting_foldlM {setting : Setting} {opened : List String} {floor : Nat}
    {replace : Replacement} (keeps : replace.Keeps) {start : Position} {content next : Content}
    {depth : Nat} (inside : content.nesting = .inside depth) {tokens : List Token}
    {character : Char} (completes : Lexeme.Completes character tokens)
    (entered : depth = 0 → ∀ token ∈ tokens, ∃ tag, token = .startTag tag)
    (done : tokens.foldlM (addToken setting opened floor replace start) content =
      .ok next) :
    next.nesting = tokens.foldl Nesting.step (.inside depth) := by
  have one {token : Token} (entered : depth = 0 → ∀ other ∈ [token], ∃ tag, other = .startTag tag)
      (done : [token].foldlM (addToken setting opened floor replace start) content =
        .ok next) : next.nesting = [token].foldl Nesting.step (.inside depth) := by
    have done : content.addToken setting opened floor replace start token = .ok next := by
      simpa using done
    exact nesting_addToken keeps inside
      (fun zero => entered zero token (List.mem_singleton.mpr rfl)) done
  cases completes with
  | characters characters =>
    rw [foldlM_addToken_characters] at done
    obtain rfl := Except.ok.inj done
    rw [Nesting.foldl_characters, nesting_foldl_push, inside]
  | other | tag => exact one entered done

/-- So many elements are open at least. -/
def Within (floor : Nat) (content : Content) : Prop :=
  ∃ depth, floor ≤ depth ∧ content.nesting = .inside depth

/-- An element is only closed if enough others are open. -/
theorem floor_lt_of_closeElement {start : Position} {floor : Nat} {content next : Content}
    {name : String} {position : Position}
    (done : content.closeElement start floor name position = .ok next) :
    floor < content.frames.length := by
  rw [closeElement] at done
  split at done
  · cases done
  · next frame outer frames =>
    split at done
    · cases done
    · next enough =>
      rw [frames, List.length_cons]
      omega

/-- The elements that have to stay open stay open. -/
theorem Within.addToken {setting : Setting} {opened : List String} {floor : Nat}
    (positive : 0 < floor) {replace : Replacement} (keeps : replace.Keeps) {start : Position}
    {content next : Content} (within : content.Within floor) {token : Token}
    (done : content.addToken setting opened floor replace start token = .ok next) :
    next.Within floor := by
  obtain ⟨depth, enough, inside⟩ := within
  have entered : depth = 0 → ∃ tag, token = .startTag tag := by omega
  have after := nesting_addToken keeps inside entered done
  cases token with
  | character character | reference reference | remark remark => exact ⟨depth, enough, after⟩
  | startTag tag =>
    cases closed : tag.closed with
    | false =>
      refine ⟨depth + 1, by omega, ?_⟩
      simpa [Nesting.step, closed] using after
    | true =>
      refine ⟨depth, enough, ?_⟩
      have some : depth ≠ 0 := by omega
      simpa [Nesting.step, closed, some] using after
  | endTag name position =>
    have stillOpen := floor_lt_of_closeElement done
    rw [(nesting_eq_inside_iff.mp inside).2] at stillOpen
    refine ⟨depth - 1, by omega, ?_⟩
    have more : ¬ depth ≤ 1 := by omega
    simpa [Nesting.step, more] using after

end Content

namespace Scan

open Content (Setting Replacement)

theorem within_step {lexical : Lexical} {setting : Setting} {opened : List String} {floor : Nat}
    (positive : 0 < floor) {replace : Replacement} (keeps : replace.Keeps) {scan next : Scan}
    (within : scan.content.Within floor) {character : Char}
    (done : scan.step lexical setting opened floor replace character = .ok next) :
    next.content.Within floor := by
  rw [step] at done
  split at done
  · cases done
  · obtain ⟨content, ran, done⟩ := exists_of_bind done
    obtain rfl := Except.ok.inj done
    exact foldlM_keeps (Content.Within floor)
      (fun _ _ _ _ before added => before.addToken positive keeps added) within ran

/-- The text of an entity closes what it opens, and nothing else. -/
theorem keeps_replaceEntity (setting : Setting) (fuel : Nat) (opened : List String) :
    Replacement.Keeps (replaceEntity setting fuel opened) := by
  induction fuel generalizing opened with
  | zero =>
    intro name text before after depth _ done
    cases done
  | succ fuel induction =>
    intro name text before after depth inside done
    have length := (Content.nesting_eq_inside_iff.mp inside).2
    rw [replaceEntity] at done
    obtain ⟨scan, ran, done⟩ := exists_of_bind done
    have started : before.Within before.frames.length :=
      ⟨depth + 1, length.le, inside⟩
    have scanned : scan.content.Within before.frames.length :=
      foldlM_keeps (fun scan : Scan => scan.content.Within before.frames.length)
        (fun _ _ _ _ within stepped =>
          within_step (by omega) (induction _) within stepped)
        started (ok_of_mapError ran)
    split at done
    · cases done
    · split at done
      · next same =>
        obtain rfl := Except.ok.inj done
        obtain ⟨reached, _, within⟩ := scanned
        obtain ⟨unfinished, _⟩ := Content.nesting_eq_inside_iff.mp within
        exact Content.nesting_eq_inside_iff.mpr ⟨unfinished, same.trans length⟩
      · cases done

end Scan

end ScenarioTree.Xml
