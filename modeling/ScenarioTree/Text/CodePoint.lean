/-
This file holds texts as they may come from elsewhere: lists of code points, some of which may be
surrogates. A surrogate stands for no character and has no encoding, so a text can only be read if
it has none.
-/

namespace ScenarioTree.Text

/-- A code point: the number of a character, or a surrogate. -/
abbrev CodePoint := Fin 0x110000

/-- The character of a code point that is no surrogate. -/
def CodePoint.char? (point : CodePoint) : Option Char :=
  if valid : point.val.isValidChar then some (Char.ofNatAux point.val valid) else none

/-- The code point of a character. -/
def pointOf (character : Char) : CodePoint :=
  ⟨character.toNat, character.valid.elim (Nat.lt_trans · (by decide)) And.right⟩

/-- The code points of a text. -/
def pointsOf (text : String) : List CodePoint :=
  text.toList.map pointOf

/-- The text that code points spell, if there is no surrogate among them. -/
def spelled? (points : List CodePoint) : Option String :=
  (points.mapM CodePoint.char?).map String.ofList

theorem char?_pointOf (character : Char) : (pointOf character).char? = some character := by
  have valid : (pointOf character).val.isValidChar := character.valid
  rw [CodePoint.char?, dif_pos valid]
  rfl

/-- A text is spelled by its own code points. -/
theorem spelled?_pointsOf (text : String) : spelled? (pointsOf text) = some text := by
  have spelled (characters : List Char) :
      (characters.map pointOf).mapM CodePoint.char? = some characters := by
    induction characters with
    | nil => rfl
    | cons character rest induction =>
      rw [List.map_cons, List.mapM_cons, char?_pointOf, induction]
      rfl
  rw [spelled?, pointsOf, spelled, Option.map_some, String.ofList_toList]

/-- Only a surrogate keeps code points from spelling a text. -/
theorem exists_surrogate {points : List CodePoint} (unspelled : spelled? points = none) :
    ∃ point ∈ points, point.char? = none := by
  rw [spelled?, Option.map_eq_none_iff] at unspelled
  induction points with
  | nil => cases unspelled
  | cons point rest induction =>
    cases first : point.char? with
    | none => exact ⟨point, List.mem_cons_self, first⟩
    | some character =>
      cases behind : rest.mapM CodePoint.char? with
      | none =>
        obtain ⟨other, member, surrogate⟩ := induction behind
        exact ⟨other, List.mem_cons_of_mem _ member, surrogate⟩
      | some characters =>
        rw [List.mapM_cons, first, behind] at unspelled
        cases unspelled

end ScenarioTree.Text
