/-
This file says what names in documents look like. A plain name begins with a character that may
begin a name, and characters of names follow; no such character is a colon or any other sign of the
markup, so the one colon of a qualified name shows where its parts are.

The local part of a declared attribute is less: its first character need not be one that begins a
name, since declarations do not look at it.
-/

import Mathlib.Data.List.TakeWhile
import ScenarioTree.Xml.Namespace
import ScenarioTree.Xml.Tag

namespace ScenarioTree.Xml

/-! ### Characters of names -/

theorem isNamePart_of_isNameStart {character : Char} (start : isNameStart character) :
    isNamePart character := by
  rw [isNameStart] at start
  rw [isNamePart]
  split at start
  · next ascii =>
    rw [if_pos ascii]
    rcases (Bool.or_eq_true _ _).mp start with letter | line
    · simp [letter]
    · simp [line]
  · next beyond => rw [if_neg beyond, start, Bool.true_or]

theorem lt_of_within {ranges : List (Nat × Nat)} {code bound : Nat}
    (below : ∀ range ∈ ranges, range.2 < bound) (inside : within ranges code) : code < bound := by
  obtain ⟨range, member, bounds⟩ := List.any_eq_true.mp inside
  rw [Bool.and_eq_true, decide_eq_true_iff, decide_eq_true_iff] at bounds
  exact Nat.lt_of_le_of_lt bounds.2 (below range member)

theorem lt_of_mem_letterRanges : ∀ range ∈ letterRanges, range.2 < 0xFFFE := by
  decide +kernel

theorem lt_of_mem_markRanges : ∀ range ∈ markRanges, range.2 < 0xFFFE := by
  decide +kernel

/-- A document may hold every character of names. -/
theorem isLegal_of_isNamePart {character : Char} (part : isNamePart character) :
    isLegal character := by
  rw [isNamePart] at part
  split at part
  · next ascii =>
    have visible : 0x20 ≤ character.toNat := by
      by_contra control
      have none : ∀ code < 0x20, isNamePart (Char.ofNat code) = false := by decide
      have refused := none character.toNat (by omega)
      rw [Char.ofNat_toNat, isNamePart, if_pos ascii, part] at refused
      cases refused
    simp [isLegal]
    omega
  · next beyond =>
    have bound : character.toNat < 0xFFFE := by
      rcases (Bool.or_eq_true _ _).mp part with letter | mark
      · exact lt_of_within lt_of_mem_letterRanges letter
      · exact lt_of_within lt_of_mem_markRanges mark
    simp [isLegal]
    omega

/-- A character of names is none of those that are not. -/
theorem ne_of_isNamePart {character : Char} (part : isNamePart character) (sign : Char)
    (other : isNamePart sign = false) : character ≠ sign := by
  rintro rfl
  rw [part] at other
  cases other

/-! ### Plain names -/

/-- Characters of which a document may hold each. -/
def AllLegal (characters : List Char) : Prop :=
  ∀ character ∈ characters, isLegal character

theorem allLegal_cons {character : Char} {seen : List Char} (legal : isLegal character)
    (rest : AllLegal seen) : AllLegal (character :: seen) := by
  intro other member
  rcases List.mem_cons.mp member with rfl | member
  · exact legal
  · exact rest other member

/-- A name that is not parted by a colon. -/
def PlainName : List Char → Prop
  | [] => False
  | first :: rest => isNameStart first ∧ ∀ character ∈ rest, isNamePart character

/-- What may stand behind the colon of a declared name. -/
def NameRest (characters : List Char) : Prop :=
  characters ≠ [] ∧ ∀ character ∈ characters, isNamePart character

instance : DecidablePred AllLegal :=
  fun characters => decidable_of_iff (characters.all isLegal) List.all_eq_true

instance : DecidablePred PlainName
  | [] => isFalse id
  | first :: rest =>
    decidable_of_iff (isNameStart first && rest.all isNamePart)
      ((Bool.and_eq_true_iff).trans (and_congr_right fun _ => List.all_eq_true))

theorem PlainName.part {name : List Char} (plain : PlainName name) :
    ∀ character ∈ name, isNamePart character := by
  cases name with
  | nil => exact plain.elim
  | cons first rest =>
    intro character member
    rcases List.mem_cons.mp member with rfl | member
    · exact isNamePart_of_isNameStart plain.1
    · exact plain.2 character member

theorem PlainName.nameRest {name : List Char} (plain : PlainName name) : NameRest name := by
  refine ⟨?_, plain.part⟩
  rintro rfl
  exact plain

theorem PlainName.append {name rest : List Char} (plain : PlainName name)
    (parts : ∀ character ∈ rest, isNamePart character) : PlainName (name ++ rest) := by
  cases name with
  | nil => exact plain.elim
  | cons first others =>
    refine ⟨plain.1, fun character member => ?_⟩
    rcases List.mem_append.mp member with member | member
    · exact plain.2 character member
    · exact parts character member

theorem NameRest.append {name : List Char} (rest : NameRest name) {character : Char}
    (part : isNamePart character) : NameRest (name ++ [character]) := by
  refine ⟨by simp, fun other member => ?_⟩
  rcases List.mem_append.mp member with member | member
  · exact rest.2 other member
  · obtain rfl := List.mem_singleton.mp member
    exact part

/-! ### Qualified names -/

/-- A name that is plain, or has a plain prefix before its colon and behind it what is asked for. -/
inductive Qualified (asked : List Char → Prop) (name : List Char) : Prop where
  | plain (plain : PlainName name)
  | parted {first last : List Char} (parted : name = first ++ ':' :: last)
      (plain : PlainName first) (asked : asked last)

theorem Qualified.weaken {asked other : List Char → Prop} {name : List Char}
    (qualified : Qualified asked name) (weaker : ∀ last, asked last → other last) :
    Qualified other name := by
  cases qualified with
  | plain plain => exact .plain plain
  | parted parted plain asked => exact .parted parted plain (weaker _ asked)

theorem Qualified.append {name : List Char} (qualified : Qualified NameRest name)
    {character : Char} (part : isNamePart character) :
    Qualified NameRest (name ++ [character]) := by
  cases qualified with
  | plain plain => exact .plain (plain.append (by simpa using part))
  | parted parted plain rest =>
    refine .parted ?_ plain (rest.append part)
    rw [parted, List.append_assoc]
    rfl

theorem splitName_of_plain {name : String} (plain : PlainName name.toList) :
    splitName name = (none, name) := by
  have whole : name.toList.dropWhile (· != ':') = [] := by
    refine List.dropWhile_eq_nil_iff.mpr fun character member => ?_
    simpa using ne_of_isNamePart (plain.part character member) ':' (by decide)
  rw [splitName, whole]

theorem splitName_of_parted {name : String} {first last : List Char}
    (parted : name.toList = first ++ ':' :: last) (plain : PlainName first) :
    splitName name = (some (String.ofList first), String.ofList last) := by
  have kept : ∀ character ∈ first, (character != ':') = true := by
    intro character member
    simpa using ne_of_isNamePart (plain.part character member) ':' (by decide)
  have before : name.toList.takeWhile (· != ':') = first := by
    rw [parted, List.takeWhile_append_of_pos kept]
    simp
  have behind : name.toList.dropWhile (· != ':') = ':' :: last := by
    rw [parted, List.dropWhile_append_of_pos kept]
    simp
  rw [splitName, before, behind]

end ScenarioTree.Xml
