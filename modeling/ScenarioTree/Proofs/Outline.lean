/-
This file gives the outline of a document: how deep its tags are nested at every point, and where
the first of them is closed. An outline is made from characters alone. It splits them into tokens
and counts start tags and end tags, but it looks up no name, matches no tags and builds no tree.

A reader that has not stopped knows at least as much as the outline. What it has read determines the
outline so far, and one more character leads both to states that still agree. What carries this is
that the first tag is being read as long as no element is open.
-/

import ScenarioTree.Proofs.Nesting

namespace ScenarioTree.Xml

/-! ### Outlines -/

/-- What is known of a document without building its tree: the piece in hand, where it began and
where the next character stands, and how many tags are open. -/
inductive Outline where
  | prolog (pending : Doctype.Pending) (start here : Position)
  | content (lexeme : Lexeme) (start here : Position) (depth : Nat)
  | behind
  deriving DecidableEq

namespace Outline

/-- One more character from the first tag on. -/
def stepContent (start here : Position) (depth : Nat) (lexeme : Lexeme) (character : Char) :
    Option Outline :=
  match lexeme.step start here character with
  | .error _ => none
  | .ok (onward, tokens) =>
    match tokens.foldl Nesting.step (.inside depth) with
    | .inside depth => some (.content onward start (here.after character) depth)
    | .behind => some .behind

/-- One more character before the first tag. -/
def stepProlog (here : Position) (character : Char) :
    Nat → Doctype.Pending → Position → Option Outline
  | 0, _, _ => none
  | limit + 1, pending, start =>
    let start := if pending = .idle then here else start
    match pending.step here character with
    | .more pending => some (.prolog pending start (here.after character))
    | .invalid _ => none
    | .done .rootTag => stepContent start here 0 .angle character
    | .done _ => some (.prolog .idle start (here.after character))
    | .before _ pending position => stepProlog here character limit pending position

/-- One more character. What comes behind the first element is not looked at. -/
def step (outline : Outline) (character : Char) : Option Outline :=
  match outline with
  | .prolog pending start here => stepProlog here character Reader.markLimit pending start
  | .content lexeme start here depth =>
    stepContent (if lexeme.isIdle then here else start) here depth lexeme character
  | .behind => some .behind

/-- Nothing has been looked at. -/
def initial (here : Position) : Outline :=
  .prolog .idle here here

/-- The outline of some characters, before which a byte order mark may stand. -/
def ofCharacters : List Char → Option Outline
  | '\uFEFF' :: characters => characters.foldlM step (initial ⟨1, 1⟩)
  | characters => characters.foldlM step (initial ⟨1, 0⟩)

end Outline

/-! ### The first tag -/

/-- Only an angle bracket begins the root, and a letter goes on with it. -/
theorem Doctype.Pending.letter_of_rootTag {pending : Doctype.Pending} {here : Position}
    {character : Char} (stepped : pending.step here character = .done .rootTag) :
    (isAsciiLetter character || character == '_' || decide (0x80 ≤ character.toNat)) = true := by
  have word (kind : Doctype.WordKind) (seen : List Char) :
      Doctype.Pending.stepWord here character kind seen ≠ .done .rootTag := by
    rw [Doctype.Pending.stepWord.eq_def]
    repeat' split
    all_goals rintro ⟨⟩
  cases pending with
  | angle =>
    rw [Doctype.Pending.step] at stepped
    repeat' split at stepped
    all_goals first
      | assumption
      | cases stepped
  | idle =>
    rw [Doctype.Pending.step, Doctype.Pending.stepIdle.eq_def] at stepped
    repeat' split at stepped
    all_goals cases stepped
  | word kind seen => exact absurd stepped (word kind seen)
  | colon seen =>
    rw [Doctype.Pending.step] at stepped
    split at stepped
    · cases stepped
    · exact absurd stepped (word .other seen)
  | _ =>
    rw [Doctype.Pending.step] at stepped
    repeat' split at stepped
    all_goals cases stepped

/-- There a start tag begins. -/
theorem Lexeme.step_angle_of_letter {character : Char}
    (letter : (isAsciiLetter character || character == '_' ||
      decide (0x80 ≤ character.toNat)) = true) {start here : Position} {onward : Lexeme}
    {tokens : List Token}
    (stepped : Lexeme.angle.step start here character = .ok (onward, tokens)) :
    onward = .startTag (.tagName (.start character)) ∧ tokens = [] := by
  have other (sign : Char) (plain : (isAsciiLetter sign || sign == '_' ||
      decide (0x80 ≤ sign.toNat)) = false) : ¬ (character == sign) = true := by
    intro same
    obtain rfl := eq_of_beq same
    rw [letter] at plain
    cases plain
  rw [Lexeme.step, if_neg (other '!' rfl), if_neg (other '?' rfl), if_neg (other '/' rfl)]
    at stepped
  split at stepped
  · cases stepped
    exact ⟨rfl, rfl⟩
  · cases stepped

namespace Outline

/-- Before the first tag is complete it is being read. -/
def Rooted : Outline → Prop
  | .content lexeme _ _ depth => depth = 0 → ∃ pending, lexeme = .startTag pending
  | _ => True

theorem rooted_stepContent {start here : Position} {depth : Nat} {lexeme : Lexeme}
    (rooted : depth = 0 → ∃ pending, lexeme = .startTag pending) {character : Char}
    {next : Outline} (stepped : stepContent start here depth lexeme character = some next) :
    next.Rooted := by
  rw [stepContent] at stepped
  have completes := lexeme.completes_step start here character
  split at stepped
  · cases stepped
  · next onward tokens found =>
    rw [found] at completes
    split at stepped
    · next reached nested =>
      obtain rfl := Option.some.inj stepped
      rintro rfl
      cases depth with
      | succ depth => exact absurd nested (Nesting.foldl_ne_inside_zero completes)
      | zero =>
        obtain ⟨pending, rfl⟩ := rooted rfl
        rcases Lexeme.step_startTag found with ⟨longer, rfl, _⟩ | ⟨tag, rfl⟩
        · exact ⟨longer, rfl⟩
        · cases closed : tag.closed <;> simp [Nesting.step, closed] at nested
    · obtain rfl := Option.some.inj stepped
      exact True.intro

theorem rooted_stepProlog {here : Position} {character : Char} {limit : Nat}
    {pending : Doctype.Pending} {start : Position} {next : Outline}
    (stepped : stepProlog here character limit pending start = some next) : next.Rooted := by
  induction limit generalizing pending start with
  | zero => cases stepped
  | succ limit induction =>
    rw [stepProlog] at stepped
    split at stepped
    · obtain rfl := Option.some.inj stepped
      exact True.intro
    · cases stepped
    · next found =>
      rw [stepContent] at stepped
      split at stepped
      · cases stepped
      · next onward tokens angle =>
        obtain ⟨rfl, rfl⟩ := Lexeme.step_angle_of_letter
          (Doctype.Pending.letter_of_rootTag found) angle
        obtain rfl := Option.some.inj stepped
        exact fun _ => ⟨_, rfl⟩
    · obtain rfl := Option.some.inj stepped
      exact True.intro
    · exact induction stepped

/-- One more character keeps this. -/
theorem Rooted.step {outline next : Outline} (rooted : outline.Rooted) {character : Char}
    (stepped : outline.step character = some next) : next.Rooted := by
  cases outline with
  | prolog pending start here => exact rooted_stepProlog stepped
  | content lexeme start here depth => exact rooted_stepContent rooted stepped
  | behind =>
    obtain rfl := Option.some.inj stepped
    exact True.intro

end Outline

/-! ### Readers and outlines -/

/-- The outline of what has been scanned. -/
def Scan.outline (scan : Scan) : Outline :=
  match scan.content.nesting with
  | .inside depth => .content scan.lexeme scan.start scan.here depth
  | .behind => .behind

/-- A scan that goes on has the outline that goes on. -/
theorem Scan.outline_advance {setting : Content.Setting} {scan next : Scan} {depth : Nat}
    (inside : scan.content.nesting = .inside depth)
    (rooted : depth = 0 → scan.lexeme = .angle ∨ ∃ pending, scan.lexeme = .startTag pending)
    {character : Char} (done : scan.advance setting character = .ok next) :
    Outline.stepContent (if scan.lexeme.isIdle then scan.here else scan.start) scan.here depth
      scan.lexeme character = some next.outline := by
  rw [Scan.advance, Scan.step] at done
  have completes := scan.lexeme.completes_step
    (if scan.lexeme.isIdle then scan.here else scan.start) scan.here character
  split at done
  · cases done
  · next onward tokens found =>
    rw [found] at completes
    obtain ⟨content, ran, done⟩ := exists_of_bind done
    obtain rfl := Except.ok.inj done
    have entered (zero : depth = 0) : ∀ token ∈ tokens, ∃ tag, token = .startTag tag := by
      intro token member
      rcases rooted zero with angle | ⟨pending, startTag⟩
      · rw [angle] at found
        rw [Lexeme.tokens_of_angle found] at member
        cases member
      · rw [startTag] at found
        rcases Lexeme.step_startTag found with ⟨_, _, rfl⟩ | ⟨tag, rfl⟩
        · cases member
        · exact ⟨tag, List.mem_singleton.mp member⟩
    have nested := Content.nesting_foldlM (keeps_replaceEntity setting _ _) inside completes
      entered ran
    rw [Outline.stepContent, found]
    simp only [Scan.outline, nested]
    split <;> rfl

namespace Reader

/-- The outline of what has been read. -/
def outline (reader : Reader) : Outline :=
  match reader.stage with
  | .prolog pending _ => .prolog pending reader.start reader.here
  | .content _ scan => scan.outline
  | .epilog _ _ => .behind

theorem outline_stepProlog {keep : Bool} {here : Position} {character : Char} {limit : Nat}
    {pending : Doctype.Pending} {state : Doctype.State} {start : Position} {next : Reader}
    (done : stepProlog keep here character limit pending state start = .ok next) :
    Outline.stepProlog here character limit pending start = some next.outline := by
  induction limit generalizing pending state start with
  | zero => cases done
  | succ limit induction =>
    rw [stepProlog] at done
    split at done
    · next found =>
      obtain rfl := Except.ok.inj done
      simp only [Outline.stepProlog, found]
      rfl
    · cases done
    · next found =>
      split at done
      · obtain ⟨scan, advanced, done⟩ := exists_of_bind done
        obtain rfl := Except.ok.inj done
        have started : Content.start.nesting = .inside 0 := rfl
        simp only [Outline.stepProlog, found]
        exact Scan.outline_advance started (fun _ => .inl rfl) advanced
      · cases done
    · next mark other found =>
      obtain ⟨state, _, done⟩ := exists_of_bind done
      obtain rfl := Except.ok.inj done
      simp only [Outline.stepProlog, found]
      rfl
    · next mark rest position found =>
      obtain ⟨state, _, done⟩ := exists_of_bind done
      simp only [Outline.stepProlog, found]
      exact induction done

/-- A reader that goes on has the outline that goes on. -/
theorem outline_step {keep : Bool} {reader next : Reader} (regular : reader.Regular)
    (rooted : reader.outline.Rooted) {character : Char}
    (done : reader.step keep character = .ok next) :
    reader.outline.step character = some next.outline := by
  obtain ⟨stage, start, here⟩ := reader
  cases stage with
  | prolog pending state => exact outline_stepProlog done
  | content declared scan =>
    obtain ⟨advanced, went, done⟩ := exists_of_bind done
    have unfinished : scan.content.root = none := regular.1
    have inside : scan.content.nesting = .inside scan.content.frames.length :=
      Content.nesting_eq_inside_iff.mpr ⟨unfinished, rfl⟩
    have before : scan.outline =
        .content scan.lexeme scan.start scan.here scan.content.frames.length := by
      rw [Scan.outline, inside]
    have rooted : scan.outline.Rooted := rooted
    rw [before] at rooted
    have after := Scan.outline_advance inside (fun zero => .inr (rooted zero)) went
    show scan.outline.step character = _
    rw [before, Outline.step, after]
    split at done
    · next root finished =>
      obtain rfl := Except.ok.inj done
      simp only [Scan.outline, Content.nesting, finished]
      rfl
    · obtain rfl := Except.ok.inj done
      rfl
  | epilog pending root =>
    have behind : next.outline = .behind := by
      simp only [Reader.step, stepEpilog] at done
      repeat' split at done
      all_goals
        cases done
        try rfl
    rw [behind]
    rfl

end Reader

/-! ### Outlines of characters -/

namespace Outline

theorem eq_of_stepContent_behind {start here : Position} {depth : Nat} {lexeme : Lexeme}
    {character : Char} (stepped : stepContent start here depth lexeme character = some .behind) :
    character = '>' := by
  have completes := lexeme.completes_step start here character
  rw [stepContent] at stepped
  split at stepped
  · cases stepped
  · next onward tokens found =>
    rw [found] at completes
    split at stepped
    · cases stepped
    · next nested =>
      cases completes with
      | characters characters =>
        rw [Nesting.foldl_characters] at nested
        cases nested
      | @other token untagged =>
        cases token with
        | startTag tag | endTag name position => cases untagged
        | _ => cases nested
      | tag bracket => exact bracket

/-- Only a closing bracket closes the root. -/
theorem eq_of_step_behind {outline : Outline} {character : Char} (before : outline ≠ .behind)
    (stepped : outline.step character = some .behind) : character = '>' := by
  cases outline with
  | prolog pending start here =>
    rw [step] at stepped
    generalize Reader.markLimit = limit at stepped
    induction limit generalizing pending start with
    | zero => cases stepped
    | succ limit induction =>
      rw [stepProlog] at stepped
      split at stepped
      · cases stepped
      · cases stepped
      · exact eq_of_stepContent_behind stepped
      · cases stepped
      · exact induction _ _ Outline.noConfusion stepped
  | content lexeme start here depth => exact eq_of_stepContent_behind stepped
  | behind => exact absurd rfl before

theorem ofCharacters_of_unmarked {characters : List Char}
    (unmarked : ∀ rest, characters ≠ '\uFEFF' :: rest) :
    ofCharacters characters = characters.foldlM step (initial ⟨1, 0⟩) := by
  rw [ofCharacters]
  exact unmarked

theorem foldlM_behind (characters : List Char) :
    characters.foldlM step .behind = some .behind := by
  induction characters with
  | nil => rfl
  | cons character rest induction => exact induction

/-- What follows goes on with the outline of what came before. -/
theorem ofCharacters_append {first second : List Char}
    (behind : first = [] → ∀ rest, second ≠ '\uFEFF' :: rest) :
    ofCharacters (first ++ second) = (ofCharacters first).bind (second.foldlM step) := by
  rcases Reader.marked_or_unmarked first with ⟨rest, rfl⟩ | unmarked
  · exact List.foldlM_append
  · rw [ofCharacters_of_unmarked unmarked,
      ofCharacters_of_unmarked (Reader.unmarked_append unmarked behind)]
    exact List.foldlM_append

/-- What is behind the root is not looked at. -/
theorem ofCharacters_append_of_behind {first : List Char}
    (behind : ofCharacters first = some .behind) (second : List Char) :
    ofCharacters (first ++ second) = some .behind := by
  rw [ofCharacters_append, behind]
  · exact foldlM_behind second
  · rintro rfl
    cases behind

/-- The last character up to the end of the root, and the outline before it. -/
theorem exists_of_concat_behind {first : List Char} {last : Char}
    (reached : ofCharacters (first ++ [last]) = some .behind) :
    ∃ before, ofCharacters first = some before ∧ before.step last = some .behind := by
  rw [ofCharacters_append] at reached
  · obtain ⟨before, found, stepped⟩ := Option.bind_eq_some_iff.mp reached
    exact ⟨before, found, by simpa using stepped⟩
  · rintro rfl rest same
    obtain ⟨rfl, -⟩ := List.cons.inj same
    cases reached

end Outline

namespace Reader

/-- A reader that has not stopped has an outline, and the outline is that of the characters. -/
theorem outline_foldlM {keep : Bool} {here : Position} {characters : List Char} {reader : Reader}
    (ran : characters.foldlM (step keep) (initial here) = .ok reader) :
    characters.foldlM Outline.step (Outline.initial here) = some reader.outline := by
  suffices run : ∀ before : Reader, before.Regular → before.outline.Rooted →
      characters.foldlM (step keep) before = .ok reader →
      characters.foldlM Outline.step before.outline = some reader.outline from
    run (initial here) True.intro True.intro ran
  clear ran
  induction characters with
  | nil =>
    intro before _ _ ran
    obtain rfl := Except.ok.inj ran
    rfl
  | cons character rest induction =>
    intro before regular rooted ran
    rw [List.foldlM_cons] at ran
    obtain ⟨next, stepped, ran⟩ := exists_of_bind ran
    have outlined := outline_step regular rooted stepped
    rw [List.foldlM_cons, outlined]
    exact induction next (regular.step stepped) (rooted.step outlined) ran

theorem outline_of_reach {keep : Bool} {characters : List Char} {reader : Reader}
    (reached : reach keep characters = .ok reader) :
    Outline.ofCharacters characters = some reader.outline := by
  rcases marked_or_unmarked characters with ⟨rest, rfl⟩ | unmarked
  · exact outline_foldlM reached
  · rw [reach_of_unmarked keep unmarked] at reached
    rw [Outline.ofCharacters_of_unmarked unmarked]
    exact outline_foldlM reached

end Reader

end ScenarioTree.Xml
