/-
This file shows that comparing nodes is comparing their views. Both go through nodes of one kind
field by field, and nodes of different kinds have different views, since a view names the kind.

Numbers are compared by their exact values, so comparing never rounds, and a chain of integers and
doubles cannot lead to a number of another value. A number without a value is not even the same as
itself. Up to this the comparison is an equivalence: it is transitive on all data, and for nodes
also symmetric.
-/

import ScenarioTree.Data.Equality
import ScenarioTree.Node.Equality
import ScenarioTree.Node.View
import ScenarioTree.Proofs.Double
import ScenarioTree.Proofs.Gap

namespace ScenarioTree

/-! ### Numbers -/

namespace Number

/-- The exact value of a number: a rational one, or infinity with a sign. -/
inductive Quantity where
  | finite (value : ℚ)
  | infinite (negative : Bool)

/-- The exact value that a number has, if it has one. -/
def quantity? : Number → Option Quantity
  | .integer value => some (.finite value)
  | .real (.finite value) => some (.finite value.toRat)
  | .real (.infinite negative) => some (.infinite negative)
  | .real .undefined => none

/-- The exact value that a measure stands for. -/
def Measure.quantity? : Measure → Option Quantity
  | .units value => some (.finite (value * unit))
  | .infinite negative => some (.infinite negative)
  | .undefined => none

theorem quantity?_measure (number : Number) : number.measure.quantity? = number.quantity? := by
  cases number with
  | integer value =>
    obtain ⟨exponent, last⟩ : ∃ exponent, exponent = 1074 := ⟨_, rfl⟩
    have whole : ((value * Nat.pow 2 exponent : ℤ) : ℚ) * unit = value := by
      rw [Nat.pow_eq, Int.cast_mul, Int.cast_natCast, Nat.cast_pow, Nat.cast_ofNat, mul_assoc,
        mul_comm _ unit, unit_mul_pow last, mul_one]
    rw [measure, ← last, Measure.quantity?, whole, quantity?]
  | real value =>
    cases value with
    | finite value =>
      have same : (value.signedUnits : ℚ) * unit = value.toRat := by
        rw [Finite.toRat_eq, withMinus, Finite.signedUnits]
        split
        · push_cast
          exact neg_mul _ _
        · rfl
      rw [measure, Measure.quantity?, same, quantity?]
    | infinite negative => rfl
    | undefined => rfl

theorem Measure.same_iff {left right : Measure} :
    left.same right ↔ ∃ value, left.quantity? = some value ∧ right.quantity? = some value := by
  have cancel : ∀ first second : ℤ, (second : ℚ) * unit = first * unit ↔ first = second := by
    intro first second
    rw [mul_left_inj' unit_pos.ne', Int.cast_inj, eq_comm]
  cases left <;> cases right <;>
    simp only [Measure.same, Measure.quantity?, Option.some.injEq, exists_eq_left', beq_iff_eq,
      Quantity.finite.injEq, Quantity.infinite.injEq, cancel, reduceCtorEq, and_false, false_and,
      exists_false, Bool.false_eq_true]
  case infinite.infinite => exact eq_comm

/-- Two numbers are the same if they have a value, and the same one. -/
theorem same_iff {left right : Number} :
    left.same right ↔ ∃ value, left.quantity? = some value ∧ right.quantity? = some value := by
  rw [same, Measure.same_iff, quantity?_measure, quantity?_measure]

example : (Number.integer (2 ^ 53 + 1)).same (.real (.finite ⟨false, 1076 * 2 ^ 52, by decide⟩)) =
    false := by
  decide +kernel

variable {left middle right : Number}

theorem same_comm : left.same right = right.same left := by
  rw [Bool.eq_iff_iff, same_iff, same_iff]
  simp only [and_comm]

theorem same_trans (first : left.same middle) (second : middle.same right) : left.same right := by
  obtain ⟨value, before, between⟩ := same_iff.mp first
  obtain ⟨other, same, behind⟩ := same_iff.mp second
  obtain rfl := Option.some.inj (between.symm.trans same)
  exact same_iff.mpr ⟨value, before, behind⟩

theorem same_self (determined : left ≠ .real .undefined) : left.same left := by
  rw [same_iff]
  cases left with
  | integer => exact ⟨_, rfl, rfl⟩
  | real double =>
    cases double with
    | undefined => exact absurd rfl determined
    | _ => exact ⟨_, rfl, rfl⟩

end Number

/-! ### Data -/

namespace Data

section Forms

variable {items items' : List Data} {fields fields' : List (String × Data)}

@[simp]
theorem same_null : null.same null = true := rfl

@[simp]
theorem same_string (left right : String) : (string left).same (string right) = (left == right) :=
  rfl

@[simp]
theorem same_number (left right : Number) : (number left).same (number right) = left.same right :=
  rfl

@[simp]
theorem same_optional (left right : Option String) :
    (left.elim null string).same (right.elim null string) = (left == right) := by
  cases left <;> cases right <;> rfl

@[simp]
theorem same_list : (list items).same (list items') = sameItems items items' := rfl

@[simp]
theorem same_object : (object fields).same (object fields') =
    (fields.length == fields'.length && sameFields fields fields') := rfl

end Forms

theorem string_same_iff {value : String} {right : Data} :
    (string value).same right ↔ right = string value := by
  cases right <;> simp [same, sameNumber, number?, @eq_comm String]

theorem list_same_iff {lefts : List Data} {right : Data} :
    (list lefts).same right ↔ ∃ rights, right = list rights ∧ sameItems lefts rights := by
  cases right <;> simp [same, sameNumber, number?]

theorem object_same_iff {lefts : List (String × Data)} {right : Data} :
    (object lefts).same right ↔ ∃ rights, right = object rights ∧
      lefts.length = rights.length ∧ sameFields lefts rights := by
  cases right <;> simp [same, sameNumber, number?]

example : (object [("yes", .boolean true), ("no", .null)]).same
    (.object [("no", .null), ("yes", .number (.integer 1))]) = true := by
  decide +kernel

/-- What is the same as a number is a number. -/
theorem sameNumber_iff {left right : Data} : left.sameNumber right ↔ ∃ first second,
    left.number? = some first ∧ right.number? = some second ∧ first.same second := by
  rw [sameNumber]
  split
  · next first second leftFound rightFound => simp [leftFound, rightFound]
  · next none =>
    simp only [Bool.false_eq_true, false_iff, not_exists]
    exact fun first second found => none first second found.1 found.2.1

theorem same_eq_sameNumber {left right : Data} {value : Number}
    (number : left.number? = some value) : left.same right = left.sameNumber right := by
  cases left with
  | boolean | number => exact same.eq_5 _ _ (by simp) (by simp) (by simp) (by simp)
  | _ => cases number

@[simp]
theorem same_boolean (left right : Bool) :
    (boolean left).same (boolean right) = (left == right) := by
  rw [Bool.eq_iff_iff, same_eq_sameNumber rfl, sameNumber_iff]
  cases left <;> cases right <;> simp [number?, Number.same_iff, Number.quantity?]

theorem sameFields_iff {lefts rights : List (String × Data)} : sameFields lefts rights ↔
    ∀ field ∈ lefts, ∃ right, rights.lookup field.1 = some right ∧ field.2.same right := by
  induction lefts with
  | nil => simp [sameFields]
  | cons field lefts induction =>
    obtain ⟨name, left⟩ := field
    rw [sameFields, Bool.and_eq_true, induction, List.forall_mem_cons]
    cases rights.lookup name <;> simp

/-- Each comparison leads on from data to data, by induction on how the first two are compared. -/
theorem same_trans_all :
    (∀ left middle : Data, left.same middle → ∀ right, middle.same right → left.same right) ∧
    (∀ lefts middles, sameFields lefts middles → ∀ rights, sameFields middles rights →
      sameFields lefts rights) ∧
    ∀ lefts middles, sameItems lefts middles → ∀ rights, sameItems middles rights →
      sameItems lefts rights := by
  apply same.mutual_induct
  case case1 => exact fun _ _ second => second
  case case2 =>
    intro left middle first right second
    rwa [← string.inj (string_same_iff.mp first)]
  case case3 =>
    intro lefts middles items first right second
    obtain ⟨rights, rfl, behind⟩ := list_same_iff.mp second
    rw [same] at first ⊢
    exact items first rights behind
  case case4 =>
    intro lefts middles fields first right second
    obtain ⟨rights, rfl, length, behind⟩ := object_same_iff.mp second
    obtain ⟨_, same, length', before⟩ := object_same_iff.mp first
    cases same
    exact object_same_iff.mpr ⟨rights, rfl, length'.trans length, fields before rights behind⟩
  -- what is left are numbers and truth values
  case case5 =>
    intro left middle null string list object first right second
    rw [same.eq_5 left middle null string list object] at first
    obtain ⟨number, other, found, foundOther, before⟩ := sameNumber_iff.mp first
    rw [same_eq_sameNumber foundOther] at second
    obtain ⟨again, last, foundAgain, foundLast, behind⟩ := sameNumber_iff.mp second
    obtain rfl := Option.some.inj (foundOther.symm.trans foundAgain)
    rw [same_eq_sameNumber found]
    exact sameNumber_iff.mpr ⟨number, last, found, foundLast, Number.same_trans before behind⟩
  case case6 => exact fun _ _ second => second
  case case7 =>
    intro left lefts middle middles entry items first rights second
    cases rights with
    | nil => simp [sameItems] at second
    | cons right rights =>
      rw [sameItems, Bool.and_eq_true] at first second ⊢
      exact ⟨entry first.1 right second.1, items first.2 rights second.2⟩
  -- lists of different lengths
  case case8 =>
    intro lefts middles nil cons first
    rw [sameItems.eq_3 lefts middles nil cons] at first
    cases first
  case case9 => exact fun _ _ _ _ => rfl
  -- what is found for a name is itself a field, for whose name a third one is found
  case case10 =>
    intro name left lefts middles entry fields first rights second
    rw [sameFields_iff, List.forall_mem_cons, ← sameFields_iff] at first ⊢
    obtain ⟨⟨middle, found, before⟩, others⟩ := first
    refine ⟨?_, fields others rights second⟩
    obtain ⟨front, back, split, -⟩ := List.lookup_eq_some_iff.mp found
    have among : (name, middle) ∈ middles := split ▸ List.mem_append_right front List.mem_cons_self
    obtain ⟨right, foundRight, behind⟩ := sameFields_iff.mp second _ among
    exact ⟨right, foundRight, entry middle before right behind⟩

/-- What is the same as data that is the same as other data is the same as the latter. -/
theorem same_trans {left middle right : Data} (first : left.same middle)
    (second : middle.same right) : left.same right :=
  same_trans_all.1 left middle first right second

end Data

/-! ### Nodes -/

namespace Node

/-- Views name the kind of the node. -/
theorem same_view_of_kind_ne {left right : Node} (other : left.kind ≠ right.kind) :
    left.view.same right.view = false := by
  simp [view, Data.sameFields, other]

/-- Comparing nodes, sequences or slots is comparing their views. -/
theorem same_eq_same_view_all :
    (∀ left right : Node, left.same right = left.view.same right.view) ∧
    (∀ lefts rights, sameSlots lefts rights = Data.sameItems (viewSlots lefts) (viewSlots rights)) ∧
    ∀ left right, sameSlot left right = (viewSlot left).same (viewSlot right) := by
  apply same.mutual_induct
  -- nodes that are not of one form are not of one kind
  case case28 =>
    intro left right
    intros
    have kinds : left.kind ≠ right.kind := by
      cases left <;> cases right <;> first | (simp [kind]; done) | grind
    have different : left.same right = false := by apply same.eq_28 <;> assumption
    rw [different, same_view_of_kind_ne kinds]
  case case31 =>
    intro lefts rights nil cons
    cases lefts <;> cases rights <;> first | rfl | grind
  case case34 =>
    intro left right none some
    cases left <;> cases right <;> first | rfl | grind
  all_goals
    intros
    simp [same, sameSlots, sameSlot, view, viewSlots, viewSlot, fields, kind, Data.sameItems,
      Data.sameFields, List.lookup_cons, Bool.and_assoc, *]

/-- What is the same as something else can be compared the other way round. -/
theorem same_symm_all : (∀ left right : Node, left.same right → right.same left) ∧
    (∀ lefts rights, sameSlots lefts rights → sameSlots rights lefts) ∧
    ∀ left right, sameSlot left right → sameSlot right left := by
  apply same.mutual_induct
  case case28 =>
    intro left right
    intros
    have different : left.same right = false := by apply same.eq_28 <;> assumption
    simp_all
  all_goals
    intros
    simp_all [same, sameSlots, sameSlot, Number.same_comm]

/-- A node in which every number has a value. -/
inductive Determined : Node → Prop where
  | node {node : Node} (own : node ≠ .number (.real .undefined))
      (inner : ∀ part, some part ∈ node.slots → Determined part) : Determined node

theorem sameSlot_self {slot : Slot} (inner : ∀ part, slot = some part → part.same part) :
    sameSlot slot slot := by
  cases slot with
  | none => rfl
  | some part => exact inner part rfl

theorem sameSlots_self {slots : List Slot} (inner : ∀ slot ∈ slots, sameSlot slot slot) :
    sameSlots slots slots := by
  induction slots with
  | nil => rfl
  | cons slot rest induction =>
    rw [sameSlots, Bool.and_eq_true]
    exact ⟨inner slot List.mem_cons_self,
      induction fun other member => inner other (List.mem_cons_of_mem _ member)⟩

theorem sameSlot_entry {slot : Slot} (inner : sameSlot (entryValue slot) (entryValue slot)) :
    sameSlot slot slot := by
  rw [entryValue.eq_def] at inner
  split at inner
  · simpa [sameSlot, same] using inner
  · simpa [sameSlot, same] using inner
  · exact inner

/-- A node is the same as itself if its own number has a value and the inner nodes are. -/
theorem same_self {node : Node} (own : node ≠ .number (.real .undefined))
    (inner : ∀ part, some part ∈ node.slots → part.same part) : node.same node := by
  have one : ∀ slot ∈ node.slots, sameSlot slot slot := fun slot member =>
    sameSlot_self fun part filled => inner part (filled ▸ member)
  have several {items : List Slot} (among : items ⊆ node.slots) : sameSlots items items :=
    sameSlots_self fun slot member => one slot (among member)
  have entries {items : List Slot} (among : items.map entryValue ⊆ node.slots) :
      sameSlots items items := sameSlots_self fun item member =>
    sameSlot_entry (one _ (among (List.mem_map_of_mem member)))
  cases node with
  | number value =>
    rw [same]
    exact Number.same_self fun undefined => own (congrArg number undefined)
  | list | template | actionwords | scenarios =>
    rw [same]
    exact several (List.Subset.refl _)
  | dict | call => simpa [same] using entries (List.Subset.refl _)
  | conditional condition thenBody elseBody =>
    have first := @several thenBody (by simp [slots])
    have second := @several elseBody (by simp [slots])
    simp [slots] at one
    simp [same, one, first, second]
  | loop condition body =>
    have inside := @several body (by simp [slots])
    simp [slots] at one
    simp [same, one, inside]
  | actionword name tags parameters body | scenario name _ tags parameters body =>
    have first := @several tags (by simp [slots])
    have second := @several parameters (by simp [slots])
    have third := @several body (by simp [slots])
    simp [same, first, second, third]
  | _ =>
    simp [slots] at one
    simp [same, one]

theorem Determined.same_self {node : Node} (determined : node.Determined) : node.same node := by
  induction determined with
  | node own _ induction => exact Node.same_self own induction

/-- The comparison of nodes is an equivalence up to numbers without a value, and it is the
comparison of their views, in which numbers are compared by the same exact values. Views of nodes of
different kinds are never the same. -/
theorem comparing_is_comparing_views :
    (∀ left right : Number, left.same right ↔
      ∃ value, left.quantity? = some value ∧ right.quantity? = some value) ∧
    (∀ node : Node, node.Determined → node.same node) ∧
    (∀ left right : Node, left.same right → right.same left) ∧
    (∀ first second third : Node, first.same second → second.same third → first.same third) ∧
    (∀ left right : Node, left.same right ↔ left.view.same right.view) ∧
    (∀ left right : Slot, sameSlot left right ↔ (viewSlot left).same (viewSlot right)) ∧
    ∀ left right : Node, left.kind ≠ right.kind → left.view.same right.view = false := by
  have views := same_eq_same_view_all.1
  refine ⟨fun left right => Number.same_iff, fun node => Determined.same_self, same_symm_all.1,
    ?_, fun left right => by rw [views], fun left right => by rw [same_eq_same_view_all.2.2],
    fun left right => same_view_of_kind_ne⟩
  intro first second third before behind
  rw [views] at before behind ⊢
  exact Data.same_trans before behind

end Node

end ScenarioTree
