/-
This file picks the outermost of some places. Of things recorded at places of one document those are
outermost that do not lie strictly inside another one. Things recorded inside places that are apart
do not concern each other, so what is outermost can be found place by place; and inside one place
that is itself recorded nothing else is outermost.
-/

import Mathlib.Data.List.Pairwise
import Mathlib.Data.List.Basic
import ScenarioTree.Proofs.Place

namespace ScenarioTree.Xml

/-- Whether the second place lies inside the first and is not the first. -/
def Place.Encloses (outer inner : Place) : Prop :=
  outer <+: inner ∧ outer ≠ inner

instance (outer inner : Place) : Decidable (outer.Encloses inner) :=
  inferInstanceAs (Decidable (_ ∧ _))

variable {α β : Type}

/-- The entries that do not lie inside another entry. -/
def outermost (entries : List (Place × α)) : List (Place × α) :=
  entries.filter fun entry => ∀ other ∈ entries, ¬ other.1.Encloses entry.1

theorem mem_outermost {entries : List (Place × α)} {entry : Place × α} :
    entry ∈ outermost entries ↔
      entry ∈ entries ∧ ∀ other ∈ entries, ¬ other.1.Encloses entry.1 := by
  rw [outermost, List.mem_filter, decide_eq_true_iff]

theorem outermost_singleton (entry : Place × α) : outermost [entry] = [entry] := by
  refine List.filter_eq_self.mpr fun other member => ?_
  obtain rfl := List.mem_singleton.mp member
  rw [decide_eq_true_iff]
  intro again same encloses
  obtain rfl := List.mem_singleton.mp same
  exact encloses.2 rfl

/-- Entries seen from further above. -/
def under (place : Place) (entries : List (Place × α)) : List (Place × α) :=
  entries.map fun entry => (place ++ entry.1, entry.2)

theorem encloses_append_iff {place outer inner : Place} :
    Place.Encloses (place ++ outer) (place ++ inner) ↔ outer.Encloses inner := by
  rw [Place.Encloses, Place.Encloses, List.prefix_append_right_inj, ne_eq,
    List.append_cancel_left_eq]

/-- Seeing entries from further above does not change which are outermost. -/
theorem outermost_under (place : Place) (entries : List (Place × α)) :
    outermost (under place entries) = under place (outermost entries) := by
  rw [under, outermost, List.filter_map]
  refine congrArg _ (List.filter_congr fun entry _ => ?_)
  simp only [Function.comp_apply, List.mem_map, forall_exists_index, and_imp,
    forall_apply_eq_imp_iff₂, encloses_append_iff]

/-- An entry at the top encloses all others. -/
theorem outermost_append_top (entries : List (Place × α)) (value : α)
    (below : ∀ entry ∈ entries, entry.1 ≠ []) :
    outermost (entries ++ [([], value)]) = [([], value)] := by
  rw [outermost, List.filter_append]
  have covered : entries.filter (fun entry =>
      ∀ other ∈ entries ++ [([], value)], ¬ other.1.Encloses entry.1) = [] := by
    refine List.filter_eq_nil_iff.mpr fun entry member kept => ?_
    rw [decide_eq_true_iff] at kept
    exact kept ([], value) (List.mem_append_right _ (List.mem_singleton_self _))
      ⟨List.nil_prefix, (below entry member).symm⟩
  have top : List.filter (fun entry : Place × α =>
      ∀ other ∈ entries ++ [([], value)], ¬ other.1.Encloses entry.1) [([], value)] =
        [([], value)] := by
    refine List.filter_eq_self.mpr fun entry member => ?_
    obtain rfl := List.mem_singleton.mp member
    rw [decide_eq_true_iff]
    intro other _ encloses
    exact encloses.2 (List.prefix_nil.mp encloses.1)
  rw [covered, top, List.nil_append]

/-- Entries inside places that are apart are outermost place by place. -/
theorem outermost_flatMap {sites : List β} {place : β → Place} {entries : β → List (Place × α)}
    (inside : ∀ site ∈ sites, ∀ entry ∈ entries site, place site <+: entry.1)
    (apart : sites.Pairwise fun first second => (place first).Apart (place second)) :
    outermost (sites.flatMap entries) = sites.flatMap fun site => outermost (entries site) := by
  have symmetric : Std.Symm fun first second : β => (place first).Apart (place second) :=
    ⟨fun _ _ apart => apart.symm⟩
  have separate {site other : β} (member : site ∈ sites) (otherMember : other ∈ sites)
      (different : site ≠ other) : (place site).Apart (place other) :=
    apart.forall member otherMember different
  rw [outermost, List.filter_flatMap]
  refine List.flatMap_congr fun site member => List.filter_congr fun entry entryMember => ?_
  rw [decide_eq_decide]
  constructor
  · intro free other otherMember
    exact free other (List.mem_flatMap.mpr ⟨site, member, otherMember⟩)
  · intro free other otherMember encloses
    obtain ⟨elsewhere, elsewhereMember, otherMember⟩ := List.mem_flatMap.mp otherMember
    by_cases same : site = elsewhere
    · subst same
      exact free other otherMember encloses
    · -- both sites would lead to the entry
      rcases List.prefix_or_prefix_of_prefix (inside site member entry entryMember)
        ((inside elsewhere elsewhereMember other otherMember).trans encloses.1) with nested | nested
      · exact (separate member elsewhereMember same).1 nested
      · exact (separate member elsewhereMember same).2 nested

/-- Every entry lies inside an outermost one, or is one. -/
theorem exists_outermost {entries : List (Place × α)} {entry : Place × α}
    (member : entry ∈ entries) : ∃ outer ∈ outermost entries, outer.1 <+: entry.1 := by
  induction depth : entry.1.length using Nat.strongRecOn generalizing entry with
  | ind depth induction =>
    by_cases free : ∀ other ∈ entries, ¬ other.1.Encloses entry.1
    · exact ⟨entry, mem_outermost.mpr ⟨member, free⟩, List.prefix_rfl⟩
    · simp only [not_forall, not_not] at free
      obtain ⟨other, otherMember, encloses⟩ := free
      have shorter : other.1.length < entry.1.length := by
        refine Nat.lt_of_le_of_ne encloses.1.length_le fun level => ?_
        exact encloses.2 (encloses.1.eq_of_length level)
      obtain ⟨outer, outerMember, inside⟩ := induction _ (depth ▸ shorter) otherMember rfl
      exact ⟨outer, outerMember, inside.trans encloses.1⟩

theorem outermost_eq_nil_iff {entries : List (Place × α)} :
    outermost entries = [] ↔ entries = [] := by
  constructor
  · intro none
    refine List.eq_nil_iff_forall_not_mem.mpr fun entry member => ?_
    obtain ⟨outer, outerMember, _⟩ := exists_outermost member
    rw [none] at outerMember
    cases outerMember
  · rintro rfl
    rfl

end ScenarioTree.Xml
