/-
This file says what the queries of a tree find. A path leads from an element to whatever can be
reached by its steps, one member down at each of them; notes are members too, but no step leads to a
note. The places that are reached are lists of positions among members, and document order is the
order of these lists. A query gives what is reached at all of these places, once for each and in
their order.

Selection goes through the tree in depth, so that document order is the order in which it meets the
elements. Going down level by level, with all elements of a level in hand, comes to the same.
-/

import ScenarioTree.Proofs.Note

namespace ScenarioTree

/-! ### Written paths -/

namespace Text

variable (separator : Char)

theorem pieces_ne_nil (characters : List Char) : pieces separator characters ≠ [] := by
  cases characters with
  | nil => simp [pieces]
  | cons character rest =>
    rw [pieces]
    split
    · simp
    · split <;> simp

/-- The pieces of two texts with a separator between them are those of both. -/
theorem pieces_append (first second : List Char) :
    pieces separator (first ++ separator :: second) =
      pieces separator first ++ pieces separator second := by
  induction first with
  | nil => simp [pieces]
  | cons character rest induction =>
    rw [List.cons_append, pieces, pieces, induction]
    split
    · rfl
    · cases cut : pieces separator rest with
      | nil => exact absurd cut (pieces_ne_nil separator rest)
      | cons piece more => rfl

theorem intercalate_cons (piece : List Char) {more : List (List Char)} (some : more ≠ []) :
    [separator].intercalate (piece :: more) =
      piece ++ separator :: [separator].intercalate more := by
  cases more with
  | nil => exact absurd rfl some
  | cons second others => simp [List.intercalate, List.intersperse]

/-- The pieces with separators between them are the text again. -/
theorem intercalate_pieces (characters : List Char) :
    [separator].intercalate (pieces separator characters) = characters := by
  induction characters with
  | nil => rfl
  | cons character rest induction =>
    rw [pieces]
    split
    · next same =>
      rw [intercalate_cons _ _ (pieces_ne_nil separator rest), induction, beq_iff_eq.mp same,
        List.nil_append]
    · cases cut : pieces separator rest with
      | nil => exact absurd cut (pieces_ne_nil separator rest)
      | cons piece more =>
        rw [cut] at induction
        rw [← induction]
        cases more with
        | nil => rfl
        | cons second others =>
          have some : second :: others ≠ [] := List.cons_ne_nil _ _
          rw [intercalate_cons _ piece some, intercalate_cons _ (character :: piece) some,
            List.cons_append]

theorem not_mem_of_mem_pieces {characters piece : List Char}
    (member : piece ∈ pieces separator characters) : separator ∉ piece := by
  induction characters generalizing piece with
  | nil =>
    obtain rfl := List.mem_singleton.mp member
    exact List.not_mem_nil
  | cons character rest induction =>
    rw [pieces] at member
    split at member
    · rcases List.mem_cons.mp member with rfl | later
      · exact List.not_mem_nil
      · exact induction later
    · next other =>
      have different : separator ≠ character := fun same => other (beq_iff_eq.mpr same.symm)
      cases cut : pieces separator rest with
      | nil => exact absurd cut (pieces_ne_nil separator rest)
      | cons first more =>
        rw [cut] at member induction
        rcases List.mem_cons.mp member with rfl | later
        · rw [List.mem_cons, not_or]
          exact ⟨different, induction List.mem_cons_self⟩
        · exact induction (List.mem_cons_of_mem _ later)

end Text

namespace Xml

/-- The steps of a path as they are written: with slashes between them they are the text, and none
of them has a slash itself. -/
structure Path.Splits (text : String) (path : Path) : Prop where
  joined : "/".intercalate path = text
  plain : ∀ step ∈ path, '/' ∉ step.toList
  some : path ≠ []

theorem Path.splits_ofText (text : String) : Path.Splits text (.ofText text) := by
  have mapped : (Path.ofText text).map String.toList = Text.pieces '/' text.toList := by
    rw [Path.ofText, List.map_map]
    exact (List.map_congr_left fun _ _ => String.toList_ofList).trans (List.map_id _)
  constructor
  · apply String.toList_injective
    rw [String.toList_intercalate, mapped]
    exact Text.intercalate_pieces '/' text.toList
  · intro step member
    exact Text.not_mem_of_mem_pieces '/' (mapped ▸ List.mem_map.mpr ⟨step, member, rfl⟩)
  · intro none
    exact Text.pieces_ne_nil '/' text.toList (by rw [← mapped, none, List.map_nil])

theorem Path.ofText_append (first second : String) :
    Path.ofText (first ++ "/" ++ second) = Path.ofText first ++ Path.ofText second := by
  rw [ofText, String.toList_append, String.toList_append, List.append_assoc]
  exact (congrArg (List.map String.ofList) (Text.pieces_append '/' _ _)).trans List.map_append

namespace Element

/-! ### What is reached -/

/-- What the steps of a path reach from an element, with the way that leads there. A step leads to a
member that is an element and has the tag of the step, or any tag if the step is a star; the way is
the list of the positions of these members. -/
inductive Reaches : Element → Path → Place → Element → Prop where
  | here {element : Element} : Reaches element [] [] element
  | down {element child found : Element} {step : String} {path : Path} {position : Nat}
      {way : Place} (stands : element.members[position]? = some (.element child))
      (answers : step = "*" ∨ child.tag = step) (onward : Reaches child path way found) :
      Reaches element (step :: path) (position :: way) found

/-- The children of an element with their positions among the members. -/
def positioned (element : Element) : List (Nat × Element) :=
  element.members.zipIdx.filterMap fun entry => entry.1.element?.map fun child => (entry.2, child)

theorem mem_positioned {element child : Element} {position : Nat} :
    (position, child) ∈ element.positioned ↔
      element.members[position]? = some (.element child) := by
  simp only [positioned, List.mem_filterMap, Prod.exists, List.mem_zipIdx_iff_getElem?]
  constructor
  · rintro ⟨member, index, stands, is⟩
    obtain ⟨found, named, same⟩ := Option.map_eq_some_iff.mp is
    cases same
    cases member with
    | note note => cases named
    | element other =>
      obtain rfl := Option.some.inj named
      exact stands
  · intro stands
    exact ⟨_, position, stands, rfl⟩

theorem map_snd_positioned (element : Element) :
    element.positioned.map Prod.snd = element.children := by
  rw [positioned, List.map_filterMap, ← elements_members]
  have same (members : List Member) (start : Nat) :
      (members.zipIdx start).filterMap (fun entry =>
          (entry.1.element?.map fun child => (entry.2, child)).map Prod.snd) =
        members.filterMap Member.element? := by
    induction members generalizing start with
    | nil => rfl
    | cons member rest induction =>
      rw [List.zipIdx_cons, List.filterMap_cons, List.filterMap_cons, induction]
      cases member <;> rfl
  exact same element.members 0

theorem pairwise_positioned (element : Element) :
    element.positioned.Pairwise fun first second => first.1 < second.1 := by
  rw [positioned, List.pairwise_filterMap]
  refine (pairwise_zipIdx element.members 0).imp ?_
  intro first second earlier entry is other isOther
  obtain ⟨_, _, rfl⟩ := Option.map_eq_some_iff.mp is
  obtain ⟨_, _, rfl⟩ := Option.map_eq_some_iff.mp isOther
  exact earlier

/-- What a path reaches, with the ways, in depth. -/
def located (element : Element) : Path → List (Place × Element)
  | [] => [([], element)]
  | step :: path =>
    (element.positioned.filter (·.2.answers step)).flatMap fun entry =>
      (entry.2.located path).map fun found => (entry.1 :: found.1, found.2)

theorem answers_iff {element : Element} {step : String} :
    element.answers step = true ↔ step = "*" ∨ element.tag = step := by
  rw [answers, Bool.or_eq_true, beq_iff_eq, beq_iff_eq]

/-- What is located is what is reached. -/
theorem mem_located {element found : Element} {path : Path} {way : Place} :
    (way, found) ∈ element.located path ↔ element.Reaches path way found := by
  induction path generalizing element way with
  | nil =>
    rw [located, List.mem_singleton]
    constructor
    · intro same
      cases same
      exact .here
    · intro reached
      cases reached
      rfl
  | cons step path induction =>
    simp only [located, List.mem_flatMap, List.mem_filter, List.mem_map, Prod.exists]
    constructor
    · rintro ⟨position, child, ⟨stands, answers⟩, rest, other, below, same⟩
      cases same
      exact .down (mem_positioned.mp stands) (answers_iff.mp answers) (induction.mp below)
    · intro reached
      cases reached with
      | down stands answers onward =>
        exact ⟨_, _, ⟨mem_positioned.mpr stands, answers_iff.mpr answers⟩, _, _,
          induction.mpr onward, rfl⟩

/-- Without the ways, what is located is what is selected. -/
theorem map_snd_located (element : Element) (path : Path) :
    (element.located path).map Prod.snd = element.select path := by
  induction path generalizing element with
  | nil => rfl
  | cons step path induction =>
    have below (entry : Nat × Element) :
        ((entry.2.located path).map fun found => (entry.1 :: found.1, found.2)).map Prod.snd =
          entry.2.select path := by
      rw [List.map_map, ← induction]
      rfl
    rw [located, List.map_flatMap, select, ← map_snd_positioned, List.filter_map,
      List.flatMap_map]
    exact List.flatMap_congr fun entry _ => below entry

/-- The ways come in the order of the document, each of them once. -/
theorem pairwise_located (element : Element) (path : Path) :
    (element.located path).Pairwise fun first second => first.1 < second.1 := by
  induction path generalizing element with
  | nil => exact List.pairwise_singleton _ _
  | cons step path induction =>
    rw [located, List.pairwise_flatMap]
    constructor
    · intro entry _
      refine List.pairwise_map.mpr ((induction entry.2).imp fun earlier => ?_)
      exact List.cons_lt_cons_iff.mpr (.inr ⟨rfl, earlier⟩)
    · refine (element.pairwise_positioned.filter _).imp ?_
      intro entry other before first firstMember second secondMember
      obtain ⟨_, _, rfl⟩ := List.mem_map.mp firstMember
      obtain ⟨_, _, rfl⟩ := List.mem_map.mp secondMember
      exact List.cons_lt_cons_iff.mpr (.inl before)

/-! ### Ways through the levels -/

/-- A longer path is followed from whatever the first part of it leads to. -/
theorem select_append (element : Element) (first second : Path) :
    element.select (first ++ second) = (element.select first).flatMap (·.select second) := by
  induction first generalizing element with
  | nil => rw [List.nil_append, select, List.flatMap_singleton]
  | cons step path induction =>
    rw [List.cons_append, select, select, List.flatMap_assoc]
    exact List.flatMap_congr fun child _ => induction child

/-- One level down: the children of all elements in hand that answer a step. Notes are passed
over. -/
def nextLevel (level : List Element) (step : String) : List Element :=
  level.flatMap fun parent => (parent.members.filterMap Member.element?).filter (·.answers step)

theorem foldl_nextLevel (level : List Element) (path : Path) :
    path.foldl nextLevel level = level.flatMap (·.select path) := by
  induction path generalizing level with
  | nil => exact (List.flatMap_singleton' level).symm
  | cons step path induction =>
    have children (parent : Element) :
        parent.members.filterMap Member.element? = parent.children := parent.elements_members
    rw [List.foldl_cons, induction, nextLevel, List.flatMap_assoc]
    simp only [children, select]

/-- Going down level by level selects the same elements in the same order. -/
theorem select_eq_foldl (element : Element) (path : Path) :
    element.select path = path.foldl nextLevel [element] := by
  rw [foldl_nextLevel, List.flatMap_singleton]

/-! ### Queries -/

/-- Whether matches with their ways are what a path selects: everything that it reaches, each way
once, in document order. -/
structure Matches (element : Element) (path : Path) (found : List (Place × Element)) : Prop where
  selected : found.map Prod.snd = element.select path
  reached : ∀ way other, (way, other) ∈ found ↔ element.Reaches path way other
  ordered : found.Pairwise fun first second => first.1 < second.1

theorem matches_located (element : Element) (path : Path) :
    element.Matches path (element.located path) :=
  ⟨element.map_snd_located path, fun _ _ => mem_located, element.pairwise_located path⟩

/-- Nothing is selected first if nothing is reached. -/
theorem selectFirst?_eq_none {element : Element} {path : Path} :
    element.selectFirst? path = none ↔ ∀ way found, ¬ element.Reaches path way found := by
  rw [selectFirst?, List.head?_eq_none_iff, ← map_snd_located, List.map_eq_nil_iff]
  constructor
  · intro empty way found reached
    rw [← mem_located, empty] at reached
    cases reached
  · intro none
    refine List.eq_nil_iff_forall_not_mem.mpr fun entry member => ?_
    exact none entry.1 entry.2 (mem_located.mp member)

/-- What is selected first is reached by the first of all ways. -/
theorem selectFirst?_eq_some {element found : Element} {path : Path} :
    element.selectFirst? path = some found ↔
      ∃ way, element.Reaches path way found ∧
        ∀ earlier < way, ∀ other, ¬ element.Reaches path earlier other := by
  have ordered := element.pairwise_located path
  have reached {way : Place} {other : Element} :=
    @mem_located element other path way
  rw [selectFirst?, ← map_snd_located, List.head?_map]
  generalize element.located path = entries at ordered reached
  cases entries with
  | nil =>
    constructor
    · intro same
      cases same
    · rintro ⟨way, here, _⟩
      exact absurd (reached.mpr here) List.not_mem_nil
  | cons first rest =>
    obtain ⟨later, _⟩ := List.pairwise_cons.mp ordered
    have least {way : Place} {other : Element} (here : element.Reaches path way other) :
        first = (way, other) ∨ first.1 < way := by
      rcases List.mem_cons.mp (reached.mpr here) with same | member
      · exact .inl same.symm
      · exact .inr (later _ member)
    constructor
    · intro same
      obtain rfl := Option.some.inj same
      refine ⟨first.1, reached.mp List.mem_cons_self, fun earlier before other here => ?_⟩
      rcases least here with rfl | after
      · exact List.lt_irrefl _ before
      · exact List.lt_asymm before after
    · rintro ⟨way, here, none⟩
      rcases least here with rfl | after
      · rfl
      · exact absurd (reached.mp List.mem_cons_self) (none first.1 after first.2)

/-- What the queries of an element come to, for every written path. -/
structure AnswersQueries (element : Element) : Prop where
  split : ∀ text, Path.Splits text (.ofText text)
  matched : ∀ path, ∃ found, element.Matches path found
  levels : ∀ path, element.select path = path.foldl nextLevel [element]
  joined : ∀ first second : String, element.select (.ofText (first ++ "/" ++ second)) =
    (element.select (.ofText first)).flatMap (·.select (.ofText second))
  head : ∀ path, element.selectFirst? path = (element.select path).head?
  none : ∀ path, element.selectFirst? path = none ↔
    ∀ way found, ¬ element.Reaches path way found
  first : ∀ path found, element.selectFirst? path = some found ↔
    ∃ way, element.Reaches path way found ∧
      ∀ earlier < way, ∀ other, ¬ element.Reaches path earlier other
  child : element.firstChild? = element.selectFirst? (.ofText "*")

/-- Queries find exactly what their paths reach, in document order. -/
theorem answers_queries (element : Element) : element.AnswersQueries where
  split := Path.splits_ofText
  matched path := ⟨_, element.matches_located path⟩
  levels := element.select_eq_foldl
  joined first second := by rw [Path.ofText_append, select_append]
  head _ := rfl
  none _ := selectFirst?_eq_none
  first _ _ := selectFirst?_eq_some
  child := by
    have star : Path.ofText "*" = ["*"] := by decide
    rw [star, selectFirst?, Build.select_star, firstChild?]

end Element

end Xml

end ScenarioTree
