/-
This file brings the line ends of a tree to one spelling. That can be done before the tree is
written or after, with the same result: names and attributes are written without a carriage return,
and behind a text there is a tag, so no line end is parted between two pieces of the markup.
-/

import ScenarioTree.Proofs.Markup
import ScenarioTree.Proofs.Prefix

namespace ScenarioTree

/-! ### Texts -/

namespace Text

theorem unifyNewlines_cons {character : Char} (other : character ≠ '\r') (rest : List Char) :
    unifyNewlines (character :: rest) = character :: unifyNewlines rest := by
  rw [unifyNewlines]
  · exact fun _ same _ => other same
  · exact other

/-- A carriage return is a line end of its own unless a line feed follows. -/
theorem unifyNewlines_alone {rest : List Char} (alone : ∀ more, rest = '\n' :: more → False) :
    unifyNewlines ('\r' :: rest) = '\n' :: unifyNewlines rest := by
  rw [unifyNewlines]
  exact alone

theorem unifyNewlines_return {rest : List Char} (apart : rest.head? ≠ some '\n') :
    unifyNewlines ('\r' :: rest) = '\n' :: unifyNewlines rest := by
  refine unifyNewlines_alone ?_
  rintro more rfl
  exact apart rfl

theorem unifyNewlines_append {first : List Char} (free : '\r' ∉ first) (second : List Char) :
    unifyNewlines (first ++ second) = first ++ unifyNewlines second := by
  induction first with
  | nil => rfl
  | cons character rest induction =>
    rw [List.mem_cons, not_or] at free
    rw [List.cons_append, unifyNewlines_cons (Ne.symm free.1), induction free.2, List.cons_append]

/-- Line ends are brought to one spelling on both sides of a place that does not part one. -/
theorem unifyNewlines_append_of_apart (first : List Char) {second : List Char}
    (apart : second.head? ≠ some '\n') :
    unifyNewlines (first ++ second) = unifyNewlines first ++ unifyNewlines second := by
  induction first using unifyNewlines.induct with
  | case1 => rfl
  | case2 rest induction => simp only [List.cons_append, unifyNewlines, induction]
  | case3 rest alone induction =>
    have still : (rest ++ second).head? ≠ some '\n' := by
      cases rest with
      | nil => exact apart
      | cons character more =>
        intro line
        obtain rfl := Option.some.inj line
        exact alone more rfl
    rw [List.cons_append, unifyNewlines_return still, unifyNewlines_alone alone, induction,
      List.cons_append]
  | case4 character rest _ other induction =>
    rw [List.cons_append, unifyNewlines_cons other, unifyNewlines_cons other, induction,
      List.cons_append]

/-- No carriage return is left. -/
theorem return_not_mem_unifyNewlines (characters : List Char) :
    '\r' ∉ unifyNewlines characters := by
  induction characters using unifyNewlines.induct with
  | case1 => simp [unifyNewlines]
  | case2 rest induction => simpa [unifyNewlines] using induction
  | case3 rest alone induction =>
    rw [unifyNewlines_alone alone]
    simpa using induction
  | case4 character rest _ other induction =>
    rw [unifyNewlines_cons other, List.mem_cons, not_or]
    exact ⟨Ne.symm other, induction⟩

/-- All other characters are. -/
theorem mem_unifyNewlines {character : Char} (other : character ≠ '\r') {characters : List Char}
    (member : character ∈ characters) : character ∈ unifyNewlines characters := by
  induction characters using unifyNewlines.induct with
  | case1 => cases member
  | case2 rest induction =>
    rw [unifyNewlines, List.mem_cons]
    simp only [List.mem_cons, other, false_or] at member
    exact member.imp_right induction
  | case3 rest alone induction =>
    rw [unifyNewlines_alone alone, List.mem_cons]
    exact .inr (induction ((List.mem_cons.mp member).resolve_left other))
  | case4 first rest _ different induction =>
    rw [unifyNewlines_cons different, List.mem_cons]
    exact (List.mem_cons.mp member).imp_right induction

theorem unifyNewlines_eq_nil_iff {characters : List Char} :
    unifyNewlines characters = [] ↔ characters = [] := by
  constructor
  · intro empty
    cases characters with
    | nil => rfl
    | cons character rest =>
      by_cases returned : character = '\r'
      · subst returned
        rw [unifyNewlines.eq_def] at empty
        split at empty <;> simp_all
      · rw [unifyNewlines_cons returned] at empty
        cases empty
  · rintro rfl
    rfl

/-- What is there afterwards was there before, or ends a line. -/
theorem mem_of_mem_unifyNewlines {character : Char} {characters : List Char}
    (member : character ∈ unifyNewlines characters) :
    character ∈ characters ∨ character = '\n' := by
  induction characters using unifyNewlines.induct with
  | case1 => exact .inl member
  | case2 rest induction =>
    rw [unifyNewlines] at member
    rcases List.mem_cons.mp member with rfl | member
    · exact .inr rfl
    · exact (induction member).imp_left fun member => by simp [member]
  | case3 rest _ induction =>
    rw [unifyNewlines] at member
    · rcases List.mem_cons.mp member with rfl | member
      · exact .inr rfl
      · exact (induction member).imp_left fun member => by simp [member]
    · assumption
  | case4 first rest _ _ induction =>
    rw [unifyNewlines] at member
    · rcases List.mem_cons.mp member with rfl | member
      · exact .inl List.mem_cons_self
      · exact (induction member).imp_left (List.mem_cons_of_mem _)
    all_goals assumption

/-- A source that does not end in a carriage return waits for no line feed. -/
theorem unifyInner_eq {characters : List Char} (ended : characters.getLast? ≠ some '\r') :
    unifyInner characters = unifyNewlines characters := by
  induction characters using unifyInner.induct with
  | case1 => rfl
  | case2 rest induction =>
    rw [unifyInner, unifyNewlines, induction]
    cases rest with
    | nil => simp
    | cons second others => simpa using ended
  | case3 => simp at ended
  | case4 rest line more induction =>
    rw [unifyInner, unifyNewlines, induction]
    · cases rest with
      | nil => exact (more rfl).elim
      | cons second others => simpa using ended
    all_goals assumption
  | case5 character rest _ _ other induction =>
    rw [unifyNewlines_cons other, unifyInner, induction]
    · cases rest with
      | nil => simp
      | cons second others => simpa using ended
    all_goals assumption

end Text

namespace Xml

open Text (unifyNewlines unifyNewlines_alone unifyNewlines_cons unifyNewlines_return
  unifyNewlines_append)

theorem AllLegal.unifyNewlines {characters : List Char} (legal : AllLegal characters) :
    AllLegal (Text.unifyNewlines characters) := by
  intro character member
  rcases Text.mem_of_mem_unifyNewlines member with member | rfl
  · exact legal character member
  · decide

/-! ### Escapes -/

theorem return_not_mem_escapedInText {character : Char} (other : character ≠ '\r') :
    '\r' ∉ (escapedInText character).toList := by
  have free : ∀ entry ∈ textReferences, '\r' ∉ entry.2 := by decide
  rcases escapedInText_cases character with ⟨_, written⟩ | member
  · rw [written]
    simpa using Ne.symm other
  · exact free _ member

theorem return_not_mem_escapedInValue (character : Char) :
    '\r' ∉ (escapedInValue character).toList := by
  rw [escapedInValue.eq_def]
  split
  · decide
  · decide
  · decide
  · decide
  · next other _ _ => exact return_not_mem_escapedInText other

theorem return_not_mem_escapeValue (value : String) : '\r' ∉ (escapeValue value).toList := by
  rw [escapeValue, String.toList_join, List.flatMap_map, List.mem_flatMap]
  rintro ⟨character, _, member⟩
  exact return_not_mem_escapedInValue character member

/-- A text without a line feed at its beginning is escaped to one. -/
theorem head?_escapedInText {character : Char} (other : character ≠ '\n') (rest : List Char) :
    ((escapedInText character).toList ++ rest).head? ≠ some '\n' := by
  have ampersand : ∀ entry ∈ textReferences, entry.2.head? = some '&' := by decide
  rw [List.head?_append]
  rcases escapedInText_cases character with ⟨_, written⟩ | member
  · rw [written]
    simpa using other
  · rw [ampersand _ member]
    simp

/-- A text as it is with one spelling of line ends. -/
def unifyText (text : String) : String :=
  String.ofList (unifyNewlines text.toList)

theorem toList_unifyText (text : String) : (unifyText text).toList = unifyNewlines text.toList :=
  String.toList_ofList

/-- Escaping and the spelling of line ends exchange, if no line feed follows. -/
theorem unifyNewlines_escapeText (text : String) {rest : List Char}
    (apart : rest.head? ≠ some '\n') :
    unifyNewlines ((escapeText text).toList ++ rest) =
      (escapeText (unifyText text)).toList ++ unifyNewlines rest := by
  rw [Reader.toList_escapeText, Reader.toList_escapeText, toList_unifyText]
  induction text.toList using Text.unifyNewlines.induct with
  | case1 => rfl
  | case2 others induction =>
    have line : (escapedInText '\n').toList = ['\n'] := rfl
    have returned : (escapedInText '\r').toList = ['\r'] := rfl
    rw [unifyNewlines, List.flatMap_cons, List.flatMap_cons, List.flatMap_cons, line, returned]
    simp only [List.cons_append, List.nil_append]
    rw [unifyNewlines, induction]
  | case3 others alone induction =>
    have line : (escapedInText '\n').toList = ['\n'] := rfl
    have returned : (escapedInText '\r').toList = ['\r'] := rfl
    have open' : ((others.flatMap fun character => (escapedInText character).toList) ++
        rest).head? ≠ some '\n' := by
      cases others with
      | nil => exact apart
      | cons second more =>
        rw [List.flatMap_cons, List.append_assoc]
        refine head?_escapedInText ?_ _
        rintro rfl
        exact alone more rfl
    rw [unifyNewlines_alone alone, List.flatMap_cons, List.flatMap_cons, line, returned]
    simp only [List.cons_append, List.nil_append]
    rw [unifyNewlines_return open', induction]
  | case4 character others _ other induction =>
    rw [unifyNewlines_cons other, List.flatMap_cons, List.flatMap_cons, List.append_assoc,
      unifyNewlines_append (return_not_mem_escapedInText other), induction, List.append_assoc]

/-! ### Trees -/

/-- A run with one spelling of line ends. -/
def Run.unified (run : Run) : Run :=
  ⟨unifyText run.text, run.notes⟩

theorem Run.isEmpty_unified (run : Run) : run.unified.isEmpty = run.isEmpty := by
  have same : (unifyText run.text).isEmpty = run.text.isEmpty := by
    rw [Bool.eq_iff_iff, String.isEmpty_iff, String.isEmpty_iff, ← String.toList_eq_nil_iff,
      ← String.toList_eq_nil_iff, toList_unifyText, Text.unifyNewlines_eq_nil_iff]
  rw [isEmpty, isEmpty, unified, same]

/-- A run without notes is written as its text. -/
theorem Run.WellFormed.write {run : Run} (formed : run.WellFormed) :
    run.write = escapeText run.text := by
  rw [Run.write, formed.bare]
  exact String.append_empty

theorem Run.WellFormed.unified {run : Run} (formed : run.WellFormed) : run.unified.WellFormed where
  bare := formed.bare
  legal := by
    rw [Run.unified, toList_unifyText]
    exact formed.legal.unifyNewlines

theorem Run.WellFormed.unifyNewlines {run : Run} (formed : run.WellFormed) {rest : List Char}
    (apart : rest.head? ≠ some '\n') :
    unifyNewlines (run.write.toList ++ rest) = run.unified.write.toList ++ unifyNewlines rest := by
  rw [formed.write, formed.unified.write]
  exact unifyNewlines_escapeText run.text apart

namespace Element

mutual

/-- An element with one spelling of line ends in its texts and tails. Attributes stay as they
are. -/
def unified : Element → Element
  | ⟨name, attributes, text, children, tail⟩ =>
    ⟨name, attributes, text.unified, unifiedChildren children, tail.unified⟩

/-- Several elements with one spelling of line ends. -/
def unifiedChildren : List Element → List Element
  | [] => []
  | child :: rest => child.unified :: unifiedChildren rest

end

theorem unifiedChildren_eq (children : List Element) :
    unifiedChildren children = children.map unified := by
  induction children with
  | nil => rfl
  | cons child rest induction => rw [unifiedChildren, induction, List.map_cons]

theorem unified_eq (element : Element) :
    element.unified = ⟨element.name, element.attributes, element.text.unified,
      element.children.map unified, element.tail.unified⟩ := by
  obtain ⟨name, attributes, text, children, tail⟩ := element
  rw [unified, unifiedChildren_eq]

/-- What is declared does not depend on line ends. -/
theorem names_unified (element : Element) : element.unified.names = element.names := by
  induction element using Element.induction with
  | step element inner =>
    rw [unified_eq, names_eq, names_eq element, List.flatMap_map]
    have same : element.children.flatMap (fun child => child.unified.names) =
        element.children.flatMap names := by
      rw [List.flatMap_def, List.flatMap_def, List.map_congr_left inner]
    rw [same]

theorem prefixes_unified (element : Element) : element.unified.prefixes = element.prefixes := by
  rw [prefixes_eq, prefixes_eq, names_unified]

/-! ### Markup -/

/-- What is written behind the attributes of an element. -/
def closing (prefixes : Prefixes) (element : Element) : List Char :=
  if element.text.isEmpty && element.children.isEmpty then " />".toList
  else
    '>' :: (element.text.write.toList ++ ((writeChildren prefixes element.children).toList ++
      '<' :: '/' :: ((prefixes.write element.name).toList ++ ['>'])))

/-- The parts of an element in the order in which they are written. -/
theorem toList_writeWith (prefixes : Prefixes) (declarations : String) (element : Element) :
    (element.writeWith prefixes declarations).toList =
      '<' :: ((prefixes.write element.name).toList ++ (declarations.toList ++
        ((String.join (element.attributes.map (·.write prefixes))).toList ++
          element.closing prefixes))) := by
  obtain ⟨name, attributes, text, children, tail⟩ := element
  rw [writeWith, closing]
  by_cases empty : (text.isEmpty && children.isEmpty) = true
  · rw [if_pos empty, if_pos empty]
    simp [String.toList_append]
  · rw [if_neg empty, if_neg empty]
    simp [String.toList_append]

/-- Whatever follows an element in its parent begins with markup or with its tail. -/
theorem unifyNewlines_writeChildren {prefixes : Prefixes} {children : List Element}
    (tails : ∀ child ∈ children, child.tail.WellFormed)
    (inner : ∀ child ∈ children, ∀ rest : List Char,
      unifyNewlines ((child.writeWith prefixes "").toList ++ rest) =
        (child.unified.writeWith prefixes "").toList ++ unifyNewlines rest)
    {rest : List Char} (apart : rest.head? ≠ some '\n') :
    unifyNewlines ((writeChildren prefixes children).toList ++ rest) =
      (writeChildren prefixes (children.map unified)).toList ++ unifyNewlines rest := by
  induction children with
  | nil => rfl
  | cons child others induction =>
    have following := induction (fun other member => tails other (List.mem_cons_of_mem _ member))
      fun other member => inner other (List.mem_cons_of_mem _ member)
    have open' : ((writeChildren prefixes others).toList ++ rest).head? ≠ some '\n' := by
      cases others with
      | nil => exact apart
      | cons second more =>
        rw [writeChildren, String.toList_append, String.toList_append, toList_writeWith]
        simp
    have tail : child.unified.tail = child.tail.unified := by rw [unified_eq]
    rw [List.map_cons, writeChildren, writeChildren, tail]
    simp only [String.toList_append, List.append_assoc]
    rw [inner child List.mem_cons_self,
      (tails child List.mem_cons_self).unifyNewlines open', following]

/-- The markup of an element has the line ends of its texts and of nothing else. -/
theorem WellFormed.unifyNewlines_writeWith {element : Element} (formed : element.WellFormed)
    {prefixes : Prefixes} (free : ∀ name ∈ element.names, '\r' ∉ (prefixes.write name).toList)
    {declarations : String} (undivided : '\r' ∉ declarations.toList) (rest : List Char) :
    unifyNewlines ((element.writeWith prefixes declarations).toList ++ rest) =
      (element.unified.writeWith prefixes declarations).toList ++ unifyNewlines rest := by
  induction element using Element.induction generalizing declarations rest with
  | step element inner =>
    obtain ⟨_, _, _, _, text, _, children⟩ := formed
    obtain ⟨written, attributeNames, childNames⟩ := forall_mem_names.mp free
    have attributes : '\r' ∉ (String.join (element.attributes.map (·.write prefixes))).toList := by
      rw [String.toList_join, List.flatMap_map, List.mem_flatMap]
      rintro ⟨given, member, returned⟩
      have name := attributeNames given member
      simp [Attribute.write, String.toList_append, name, return_not_mem_escapeValue] at returned
    have inside (rest : List Char) (apart : rest.head? ≠ some '\n') :
        unifyNewlines ((writeChildren prefixes element.children).toList ++ rest) =
          (writeChildren prefixes (element.children.map unified)).toList ++ unifyNewlines rest := by
      refine unifyNewlines_writeChildren (fun child member => (children child member).tail)
        (fun child member rest => ?_) apart
      exact inner child member (children child member) (childNames child member) (by simp) rest
    have closed : unifyNewlines (element.closing prefixes ++ rest) =
        element.unified.closing prefixes ++ unifyNewlines rest := by
      have ending : '\r' ∉ '<' :: '/' :: ((prefixes.write element.name).toList ++ ['>']) := by
        simp [written]
      have apart : ((writeChildren prefixes element.children).toList ++
          ('<' :: '/' :: ((prefixes.write element.name).toList ++ ['>']) ++ rest)).head? ≠
            some '\n' := by
        cases element.children with
        | nil => simp [writeChildren]
        | cons first others =>
          rw [writeChildren, String.toList_append, String.toList_append, toList_writeWith]
          simp
      rw [unified_eq, closing, closing, Run.isEmpty_unified, List.isEmpty_map]
      split
      · exact unifyNewlines_append (by decide) rest
      · simp only [List.cons_append, List.append_assoc] at apart ending ⊢
        rw [unifyNewlines_cons (by decide), text.unifyNewlines apart]
        have closed := unifyNewlines_append ending rest
        simp only [List.cons_append, List.append_assoc] at closed
        rw [inside _ (by simp), closed]
    rw [toList_writeWith, toList_writeWith]
    have same : element.unified.name = element.name ∧
        element.unified.attributes = element.attributes := by
      rw [unified_eq]
      exact ⟨rfl, rfl⟩
    rw [same.1, same.2]
    simp only [List.cons_append, List.append_assoc]
    rw [unifyNewlines_cons (by decide), unifyNewlines_append written,
      unifyNewlines_append undivided, unifyNewlines_append attributes, closed]

end Element

end Xml

end ScenarioTree
