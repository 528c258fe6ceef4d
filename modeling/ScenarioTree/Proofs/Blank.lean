/-
This file gives the laws of trimming. Nothing is left of a text exactly when all of it is blank, a
text without blanks is left as it is, and blanks around a text make no difference.
-/

import Mathlib.Data.List.TakeWhile
import ScenarioTree.Text.Blank

namespace ScenarioTree.Text

theorem trimRight_eq_nil_iff {characters : List Char} :
    trimRight characters = [] ↔ ∀ character ∈ characters, isBlank character := by
  rw [trimRight, List.reverse_eq_nil_iff, List.dropWhile_eq_nil_iff]
  simp only [List.mem_reverse]

theorem mem_of_mem_trimRight {character : Char} {characters : List Char}
    (member : character ∈ trimRight characters) : character ∈ characters := by
  rw [trimRight, List.mem_reverse] at member
  exact List.mem_reverse.mp (List.dropWhile_sublist _ |>.subset member)

/-- What is left of a text does not end in a blank. -/
theorem visible_of_getLast?_trimRight {character : Char} {characters : List Char}
    (last : (trimRight characters).getLast? = some character) : isBlank character = false := by
  rw [trimRight, List.getLast?_reverse] at last
  have visible := List.head?_dropWhile_not isBlank characters.reverse
  rw [last] at visible
  exact visible

/-- A text that does not end in a blank is left whole, whatever follows it. -/
theorem trimRight_append {first : List Char} {last : Char} (ended : first.getLast? = some last)
    (visible : isBlank last = false) (second : List Char) :
    trimRight (first ++ second) = first ++ trimRight second := by
  have kept : first.reverse.dropWhile isBlank = first.reverse := by
    rw [← List.head?_reverse] at ended
    obtain ⟨rest, split⟩ := List.head?_eq_some_iff.mp ended
    rw [split, List.dropWhile_cons, visible]
    rfl
  rw [trimRight, trimRight, List.reverse_append, List.dropWhile_append]
  split
  · next blank =>
    rw [List.isEmpty_iff.mp blank, kept]
    simp
  · simp

/-- Nothing is left exactly when everything is blank. -/
theorem trim_eq_nil_iff {characters : List Char} :
    trim characters = [] ↔ ∀ character ∈ characters, isBlank character := by
  rw [trim, trimRight_eq_nil_iff, trimLeft]
  induction characters with
  | nil => rfl
  | cons character rest induction =>
    rw [List.dropWhile_cons]
    split
    · next blank => simpa [blank] using induction
    · next visible => rfl

theorem dropWhile_of_visible {characters : List Char}
    (visible : ∀ character ∈ characters, isBlank character = false) :
    characters.dropWhile isBlank = characters := by
  cases characters with
  | nil => rfl
  | cons first rest =>
    rw [List.dropWhile_cons, visible first List.mem_cons_self]
    rfl

/-- A text without blanks is left as it is. -/
theorem trim_of_visible {characters : List Char}
    (visible : ∀ character ∈ characters, isBlank character = false) :
    trim characters = characters := by
  have backwards : ∀ character ∈ characters.reverse, isBlank character = false := by
    intro character member
    exact visible character (List.mem_reverse.mp member)
  rw [trim, trimLeft, dropWhile_of_visible visible, trimRight, dropWhile_of_visible backwards,
    List.reverse_reverse]

/-! ### Blanks around a text -/

/-- A text with nothing but blanks in front of another one and behind it. -/
inductive Padded (inner : List Char) : List Char → Prop where
  | intro {before after : List Char} (front : ∀ character ∈ before, isBlank character)
      (behind : ∀ character ∈ after, isBlank character) : Padded inner (before ++ (inner ++ after))

theorem trimRight_append_of_blank {after : List Char}
    (behind : ∀ character ∈ after, isBlank character) (inner : List Char) :
    trimRight (inner ++ after) = trimRight inner := by
  have blank : ∀ character ∈ after.reverse, isBlank character :=
    fun character member => behind character (List.mem_reverse.mp member)
  rw [trimRight, List.reverse_append, List.dropWhile_append_of_pos blank, trimRight]

/-- Blanks around a text make no difference. -/
theorem Padded.trim_eq {inner text : List Char} (padded : Padded inner text) :
    trim text = trim inner := by
  obtain ⟨front, behind⟩ := padded
  rw [trim, trim, trimLeft, List.dropWhile_append_of_pos front, trimLeft, List.dropWhile_append]
  split
  · next nothing =>
    rw [List.dropWhile_eq_nil_iff.mpr behind, List.isEmpty_iff.mp nothing]
  · exact trimRight_append_of_blank behind _

end ScenarioTree.Text
