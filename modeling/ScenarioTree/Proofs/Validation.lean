/-
This file says exactly which options files are accepted and what is wrong with the others. What a
document denotes decides: nothing, an empty mapping, or the one option with a truth value.
Everything else is refused for the first fault of a fixed list, so the order in which a mapping has
its entries is never seen. What makes this work is that no two entries of a mapping have the same
key, which the reader of documents takes care of.

A refusal names what it refuses. An integer with too many digits cannot be written down, so where
one would have to be shown there is no problem to report and loading breaks off.
-/

import ScenarioTree.Options
import ScenarioTree.Proofs.Accounting

namespace ScenarioTree

open ScenarioTree.Build (exists_of_bind_ok)
open ScenarioTree.Yaml (Value)

/-! ### Keys of mappings -/

namespace Yaml

namespace Value

/-- A value that is no mapping, or a mapping in which no key stands twice. -/
def KeysDiffer : Value → Prop
  | mapping entries => (entries.map Prod.fst).Nodup
  | _ => True

theorem sameKey_self (key : Value) : key.sameKey key := by
  rw [sameKey]
  cases key.keyNumber? with
  | some number => simp
  | none => cases key.keyMoment? <;> simp

/-- Entries no two of which count as having the same key. -/
def Separate (entries : List (Value × Value)) : Prop :=
  entries.Pairwise fun first second => first.1.sameKey second.1 = false

theorem Separate.nodup {entries : List (Value × Value)} (separate : Separate entries) :
    (entries.map Prod.fst).Nodup := by
  refine List.pairwise_map.mpr (separate.imp fun {first second} apart same => ?_)
  rw [same, sameKey_self] at apart
  cases apart

/-- An entry that is put into a mapping has its key, or takes the place of one with that key. -/
theorem key_of_mem_put {key value : Value} {entries : List (Value × Value)}
    {entry : Value × Value} (member : entry ∈ put key value entries) :
    entry.1 = key ∨ entry.1 ∈ entries.map Prod.fst := by
  induction entries with
  | nil => exact .inl (congrArg Prod.fst (List.mem_singleton.mp member))
  | cons first rest induction =>
    rw [put] at member
    split at member
    · exact .inr (by
        rcases List.mem_cons.mp member with rfl | later
        · exact List.mem_cons_self
        · exact List.mem_cons_of_mem _ (List.mem_map_of_mem later))
    · rcases List.mem_cons.mp member with rfl | later
      · exact .inr List.mem_cons_self
      · exact (induction later).imp_right (List.mem_cons_of_mem _)

theorem Separate.put {entries : List (Value × Value)} (separate : Separate entries)
    (key value : Value) : Separate (put key value entries) := by
  induction entries with
  | nil => exact List.pairwise_singleton _ _
  | cons first rest induction =>
    obtain ⟨apart, separate⟩ := List.pairwise_cons.mp separate
    rw [Value.put]
    split
    · exact List.pairwise_cons.mpr ⟨apart, separate⟩
    · next other =>
      refine List.pairwise_cons.mpr ⟨fun entry member => ?_, induction separate⟩
      rcases key_of_mem_put member with same | known
      · rw [same]
        exact (Bool.not_eq_true _).mp other
      · obtain ⟨known, member, same⟩ := List.mem_map.mp known
        exact same ▸ apart known member

/-! ### Integers inside of values -/

/-- The integers that a value is or has somewhere inside. -/
inductive Holds : Value → Int → Prop where
  | itself (number : Int) : Holds (.number (.integer number)) number
  | item {items : List Value} {item : Value} {number : Int} (member : item ∈ items)
      (held : Holds item number) : Holds (.list items) number
  | first {first second : Value} {number : Int} (held : Holds first number) :
      Holds (.pair first second) number
  | second {first second : Value} {number : Int} (held : Holds second number) :
      Holds (.pair first second) number
  | member {members : List Value} {value : Value} {number : Int} (member : value ∈ members)
      (held : Holds value number) : Holds (.set members) number
  | key {entries : List (Value × Value)} {entry : Value × Value} {number : Int}
      (member : entry ∈ entries) (held : Holds entry.1 number) : Holds (.mapping entries) number
  | value {entries : List (Value × Value)} {entry : Value × Value} {number : Int}
      (member : entry ∈ entries) (held : Holds entry.2 number) : Holds (.mapping entries) number

/-- An integer of too many digits, its sign aside. -/
def Overlong (number : Int) : Prop :=
  Number.digitLimit < (Nat.toDigits 10 number.natAbs).length

theorem isShowable_integer_iff (number : Int) :
    (Value.number (.integer number)).isShowable ↔ ¬ Overlong number := by
  have few : (Nat.toDigits 10 number.natAbs).length ≤ Number.digitLimit ↔
      number.natAbs < 10 ^ Number.digitLimit :=
    Nat.length_toDigits_le_iff (by decide) (by decide)
  rw [isShowable, decide_eq_true_iff, Nat.pow_eq, Overlong, Nat.not_lt, few]

theorem areShowable_iff {values : List Value} :
    areShowable values ↔ ∀ value ∈ values, value.isShowable := by
  induction values with
  | nil => simp [areShowable]
  | cons first rest induction => simp [areShowable, induction]

theorem entriesAreShowable_iff {entries : List (Value × Value)} :
    entriesAreShowable entries ↔
      ∀ entry ∈ entries, entry.1.isShowable ∧ entry.2.isShowable := by
  induction entries with
  | nil => simp [entriesAreShowable]
  | cons first rest induction => simp [entriesAreShowable, induction]

/-- What can be shown holds no overlong integer. -/
theorem Holds.not_overlong {value : Value} {number : Int} (held : value.Holds number)
    (showable : value.isShowable) : ¬ Overlong number := by
  induction held with
  | itself number => exact (isShowable_integer_iff number).mp showable
  | item member _ induction | member member _ induction =>
    rw [isShowable, areShowable_iff] at showable
    exact induction (showable _ member)
  | first _ induction =>
    rw [isShowable, Bool.and_eq_true] at showable
    exact induction showable.1
  | second _ induction =>
    rw [isShowable, Bool.and_eq_true] at showable
    exact induction showable.2
  | key member _ induction =>
    rw [isShowable, entriesAreShowable_iff] at showable
    exact induction (showable _ member).1
  | value member _ induction =>
    rw [isShowable, entriesAreShowable_iff] at showable
    exact induction (showable _ member).2

/-- What cannot be shown holds an overlong integer. -/
theorem exists_overlong_all :
    (∀ value : Value, value.isShowable = false → ∃ number, value.Holds number ∧ Overlong number) ∧
    (∀ entries, entriesAreShowable entries = false → ∃ entry ∈ entries, ∃ number,
      (entry.1.Holds number ∨ entry.2.Holds number) ∧ Overlong number) ∧
    ∀ values, areShowable values = false →
      ∃ value ∈ values, ∃ number, value.Holds number ∧ Overlong number := by
  apply isShowable.mutual_induct
  case case1 =>
    intro number hidden
    refine ⟨number, .itself number, Classical.not_not.mp fun short => ?_⟩
    rw [(isShowable_integer_iff number).mpr short] at hidden
    cases hidden
  case case2 | case4 =>
    intro values inner hidden
    rw [isShowable] at hidden
    obtain ⟨value, member, number, held, long⟩ := inner hidden
    exact ⟨number, by constructor <;> assumption, long⟩
  case case3 =>
    intro first second inFirst inSecond hidden
    rw [isShowable, Bool.and_eq_false_iff] at hidden
    rcases hidden with hidden | hidden
    · obtain ⟨number, held, long⟩ := inFirst hidden
      exact ⟨number, .first held, long⟩
    · obtain ⟨number, held, long⟩ := inSecond hidden
      exact ⟨number, .second held, long⟩
  case case5 =>
    intro entries inner hidden
    rw [isShowable] at hidden
    obtain ⟨entry, member, number, held | held, long⟩ := inner hidden
    · exact ⟨number, .key member held, long⟩
    · exact ⟨number, .value member held, long⟩
  case case6 =>
    intro value integer list pair set mapping hidden
    rw [isShowable.eq_6 value integer list pair set mapping] at hidden
    cases hidden
  case case7 | case9 => rintro ⟨⟩
  case case8 =>
    intro first rest inFirst inRest hidden
    rw [areShowable, Bool.and_eq_false_iff] at hidden
    rcases hidden with hidden | hidden
    · exact ⟨first, List.mem_cons_self, inFirst hidden⟩
    · obtain ⟨value, member, found⟩ := inRest hidden
      exact ⟨value, List.mem_cons_of_mem _ member, found⟩
  case case10 =>
    intro key value rest inKey inValue inRest hidden
    rw [entriesAreShowable, Bool.and_eq_false_iff, Bool.and_eq_false_iff] at hidden
    rcases hidden with (hidden | hidden) | hidden
    · obtain ⟨number, held, long⟩ := inKey hidden
      exact ⟨_, List.mem_cons_self, number, .inl held, long⟩
    · obtain ⟨number, held, long⟩ := inValue hidden
      exact ⟨_, List.mem_cons_self, number, .inr held, long⟩
    · obtain ⟨entry, member, found⟩ := inRest hidden
      exact ⟨entry, List.mem_cons_of_mem _ member, found⟩

theorem exists_overlong {value : Value} (hidden : ¬ value.isShowable) :
    ∃ number, value.Holds number ∧ Overlong number :=
  exists_overlong_all.1 value ((Bool.not_eq_true _).mp hidden)

end Value

open Value (Separate)

/-- Entries that are read one after another stay separate. -/
theorem separate_entryValues {nodes : List (Node × Node)} {known entries : List (Value × Value)}
    (separate : Separate known) (read : entryValues nodes known = .ok entries) :
    Separate entries := by
  induction nodes generalizing known with
  | nil =>
    rw [entryValues] at read
    exact Except.ok.inj read ▸ separate
  | cons node rest induction =>
    rw [entryValues] at read
    obtain ⟨key, _, read⟩ := exists_of_bind_ok read
    split at read
    · obtain ⟨value, _, read⟩ := exists_of_bind_ok read
      exact induction (separate.put key value) read
    · cases read

theorem keysDiffer_of_map {α : Type} {result : Except Fault α} {make : α → Value} {value : Value}
    (read : result.map make = .ok value) (plain : ∀ part, (make part).KeysDiffer) :
    value.KeysDiffer := by
  cases result with
  | error fault => cases read
  | ok part => exact Except.ok.inj read ▸ plain part

theorem keysDiffer_scalarValue {tag : Tag} {text : String} {value : Value}
    (read : scalarValue tag text = .ok value) : value.KeysDiffer := by
  rw [scalarValue.eq_def] at read
  split at read
  case h_3 | h_4 => exact keysDiffer_of_map read fun _ => trivial
  case h_5 =>
    split at read
    · exact keysDiffer_of_map read fun _ => trivial
    · cases read
  all_goals
    repeat' split at read
    all_goals
      cases read
    all_goals trivial

/-- What a node denotes has no key twice at its outermost level. -/
theorem keysDiffer_value {node : Node} {value : Value} (read : node.value = .ok value) :
    value.KeysDiffer := by
  rw [Node.value.eq_def] at read
  split at read
  case h_1 => exact keysDiffer_scalarValue read
  case h_6 =>
    obtain ⟨entries, put, read⟩ := exists_of_bind_ok read
    obtain rfl := Except.ok.inj read
    exact (separate_entryValues List.Pairwise.nil put).nodup
  case h_5 | h_8 => cases read
  case h_9 =>
    cases read
    trivial
  all_goals
    obtain ⟨_, _, read⟩ := exists_of_bind_ok read
    cases read
    trivial

/-- A document that denotes a mapping has no key twice. -/
theorem keysDiffer_of_read {text : String} {value : Value} (denoted : read text = .ok value) :
    value.KeysDiffer := by
  obtain ⟨tokens, _, denoted⟩ := exists_of_bind_ok denoted
  obtain ⟨node?, _, denoted⟩ := exists_of_bind_ok denoted
  cases node? with
  | none =>
    cases denoted
    trivial
  | some node =>
    obtain ⟨merged, _, denoted⟩ := exists_of_bind_ok denoted
    exact keysDiffer_value denoted

end Yaml

namespace Options

open ScenarioTree.File (Found Location)

/-! ### What is accepted and what is refused -/

/-- The key of the one option that there is. -/
def key : Value := .text "verbose"

theorem isKnown_iff {value : Value} : isKnown value ↔ value = key := by
  cases value <;> simp [isKnown, key]

instance : DecidablePred (· = key) := fun _ => decidable_of_iff _ isKnown_iff

/-- The keys of a mapping that are not the key of the option. -/
def strangers (entries : List (Value × Value)) : List Value :=
  (entries.map Prod.fst).filter (· ≠ key)

/-- Whether a text comes before another one by the code points of their characters. -/
def Precedes (first second : String) : Prop :=
  List.Lex (fun left right : Char => left.toNat < right.toNat) first.toList second.toList

/-- The names under which keys are listed: the text of each key, in the order of code points. -/
structure Lists (keys : List Value) (names : List String) : Prop where
  each : names.Perm (keys.map Value.keyText)
  ordered : names.Pairwise fun first second => ¬ Precedes second first

/-- The values that give options, with the options. -/
inductive Accepted : Value → Options → Prop where
  | nothing : Accepted .null { verbose := false }
  | empty : Accepted (.mapping []) { verbose := false }
  | single (verbose : Bool) : Accepted (.mapping [(key, .boolean verbose)]) { verbose := verbose }

/-- The values that give none, with what a message has to show and the message. -/
inductive Refused : Value → List Value → String → Prop where
  | notMapping {value : Value} (some : value ≠ .null)
      (other : ∀ entries, value ≠ .mapping entries) :
      Refused value [] "Options file must contain a mapping"
  | unknown {entries : List (Value × Value)} {names : List String}
      (some : strangers entries ≠ []) (listed : Lists (strangers entries) names) :
      Refused (.mapping entries) (strangers entries)
        ("Unknown option(s): " ++ ", ".intercalate names)
  | notTruth {value : Value} (other : ∀ verbose, value ≠ .boolean verbose) :
      Refused (.mapping [(key, value)]) [value]
        ("'verbose' must be true or false, got " ++ value.shown)

/-! ### Names -/

theorem not_precedes_iff {first second : String} : ¬ Precedes second first ↔ first ≤ second :=
  Iff.rfl

theorem lists_names (keys : List Value) : Lists keys (Fault.names keys) where
  each := List.mergeSort_perm _ _
  ordered := by
    have sorted := @List.pairwise_mergeSort String (fun first second => decide (first ≤ second))
      (fun _ _ _ first second => decide_eq_true
        (String.le_trans (of_decide_eq_true first) (of_decide_eq_true second)))
      (fun first second => by simpa using String.le_total first second) (keys.map Value.keyText)
    exact sorted.imp fun before => not_precedes_iff.mpr (of_decide_eq_true before)

/-- Names are listed in one way. -/
theorem Lists.unique {keys : List Value} {names others : List String} (listed : Lists keys names)
    (again : Lists keys others) : names = others :=
  (listed.each.trans again.each.symm).eq_of_pairwise
    (fun _ _ _ _ before after => String.le_antisymm before after) listed.ordered again.ordered

theorem Lists.perm {keys others : List Value} {names : List String} (listed : Lists keys names)
    (same : others.Perm keys) : Lists others names :=
  ⟨listed.each.trans (same.map _).symm, listed.ordered⟩

theorem names_eq_of_perm {keys others : List Value} (same : others.Perm keys) :
    Fault.names others = Fault.names keys :=
  (lists_names others).unique ((lists_names keys).perm same)

/-! ### Values by what becomes of them -/

theorem unknownKeys_eq (entries : List (Value × Value)) :
    unknownKeys entries = strangers entries := by
  refine List.filter_congr fun key _ => ?_
  rw [Bool.eq_iff_iff, Bool.not_eq_true', ← Bool.not_eq_true, isKnown_iff, decide_eq_true_iff]

/-- The values that are told apart: nothing, what else is no mapping, mappings without an entry,
with the one option and with other keys. -/
inductive Form : Value → Prop where
  | nothing : Form .null
  | plain {value : Value} (some : value ≠ .null) (other : ∀ entries, value ≠ .mapping entries) :
      Form value
  | empty : Form (.mapping [])
  | single (value : Value) : Form (.mapping [(key, value)])
  | strange {entries : List (Value × Value)} (some : strangers entries ≠ []) :
      Form (.mapping entries)

/-- Without strangers there is at most the one option. -/
theorem form_mapping {entries : List (Value × Value)} (differ : (entries.map Prod.fst).Nodup) :
    Form (.mapping entries) := by
  by_cases strange : strangers entries = []
  · have known : ∀ entry ∈ entries, entry.1 = key := fun entry member => by
      simpa using List.filter_eq_nil_iff.mp strange entry.1 (List.mem_map_of_mem member)
    match entries, differ, known with
    | [], _, _ => exact .empty
    | [(_, value)], _, known =>
      obtain rfl := known _ List.mem_cons_self
      exact .single value
    | first :: second :: rest, differ, known =>
      have same : first.1 = second.1 := (known first List.mem_cons_self).trans
        (known second (List.mem_cons_of_mem _ List.mem_cons_self)).symm
      exact absurd (same ▸ List.mem_cons_self) (List.nodup_cons.mp differ).1
  · exact .strange strange

theorem form_of_keysDiffer {value : Value} (differ : value.KeysDiffer) : Form value := by
  cases value with
  | null => exact .nothing
  | mapping entries => exact form_mapping differ
  | _ => exact .plain Value.noConfusion fun _ => Value.noConfusion

theorem ofEntries_of_strange {entries : List (Value × Value)} (strange : strangers entries ≠ []) :
    ofEntries entries = .error (.unknown (strangers entries)) := by
  rw [ofEntries, unknownKeys_eq]
  split
  · next none => exact absurd none strange
  · rfl

theorem ofEntries_single (value : Value) :
    ofEntries [(key, value)] =
      match value with
      | .boolean verbose => .ok { verbose := verbose }
      | other => .error (.notTruth other) := by
  cases value <;> rfl

theorem ofValue_plain {value : Value} (some : value ≠ .null)
    (other : ∀ entries, value ≠ .mapping entries) : ofValue value = .error .notMapping := by
  cases value with
  | null => exact absurd rfl some
  | mapping entries => exact absurd rfl (other entries)
  | _ => rfl

/-- A value gives the options for which it is accepted. -/
theorem ofValue_ok_iff {value : Value} (differ : value.KeysDiffer) {options : Options} :
    ofValue value = .ok options ↔ Accepted value options := by
  constructor
  · intro given
    cases form_of_keysDiffer differ with
    | nothing | empty =>
      obtain rfl := Except.ok.inj given
      constructor
    | plain some other =>
      rw [ofValue_plain some other] at given
      cases given
    | single held =>
      rw [ofValue, ofEntries_single] at given
      split at given
      · obtain rfl := Except.ok.inj given
        exact .single _
      · cases given
    | strange some =>
      rw [ofValue, ofEntries_of_strange some] at given
      cases given
  · rintro (_ | _ | verbose)
    all_goals rfl

/-- A value gives a fault if it is refused, and the fault shows and says what the refusal does. -/
theorem ofValue_error_iff {value : Value} (differ : value.KeysDiffer) {subjects : List Value}
    {message : String} :
    (∃ fault, ofValue value = .error fault ∧ fault.subjects = subjects ∧ fault.message = message) ↔
      Refused value subjects message := by
  constructor
  · rintro ⟨fault, given, rfl, rfl⟩
    cases form_of_keysDiffer differ with
    | nothing | empty => cases given
    | plain some other =>
      rw [ofValue_plain some other] at given
      cases given
      exact .notMapping some other
    | single held =>
      rw [ofValue, ofEntries_single] at given
      split at given
      · cases given
      · next other =>
        cases given
        exact .notTruth other
    | strange some =>
      rw [ofValue, ofEntries_of_strange some] at given
      cases given
      exact .unknown some (lists_names _)
  · intro refused
    cases refused with
    | notMapping some other => exact ⟨.notMapping, ofValue_plain some other, rfl, rfl⟩
    | unknown some listed =>
      refine ⟨.unknown _, ofEntries_of_strange some, rfl, ?_⟩
      rw [← (lists_names _).unique listed]
      rfl
    | @notTruth held other =>
      refine ⟨.notTruth held, ?_, rfl, rfl⟩
      rw [ofValue, ofEntries_single]
      split
      · next verbose => exact absurd rfl (other verbose)
      · rfl

/-! ### Files -/

theorem load_of_text {look : Location → Found} {location : Location} {text : String}
    (readable : (look location).text = .ok text) :
    load look location = ofDenoted location (Yaml.read text) := by
  simp only [load, Found.isThere_of_text readable, readable, if_true, ofText]

/-- What comes of a refusal at a location: a problem that says the message, if what it has to show
can be shown. -/
inductive Told (location : Location) (subjects : List Value) (message : String) :
    Obstacle → Prop where
  | said (short : ∀ subject ∈ subjects, ∀ number, subject.Holds number → ¬ Value.Overlong number) :
      Told location subjects message
        (.problem ⟨.options, message, none, some location.text⟩)
  | unsaid {subject : Value} {number : Int} (member : subject ∈ subjects)
      (held : subject.Holds number) (long : Value.Overlong number) :
      Told location subjects message (.noValue .outOfRange)

theorem told_iff {location : Location} {subjects : List Value} {message : String}
    {found : Obstacle} :
    Told location subjects message found ↔
      found = if subjects.all Value.isShowable then .problem (problemAt location message)
        else .noValue .outOfRange := by
  constructor
  · rintro (short | ⟨member, held, long⟩)
    · have showable : subjects.all Value.isShowable := by
        refine List.all_eq_true.mpr fun subject member => ?_
        by_contra hidden
        obtain ⟨number, held, long⟩ := Value.exists_overlong hidden
        exact short subject member number held long
      rw [if_pos showable]
      rfl
    · rw [if_neg]
      intro showable
      exact held.not_overlong (List.all_eq_true.mp showable _ member) long
  · rintro rfl
    split
    · next showable =>
      exact .said fun subject member number held =>
        held.not_overlong (List.all_eq_true.mp showable subject member)
    · next hidden =>
      simp only [List.all_eq_true, not_forall, exists_prop] at hidden
      obtain ⟨subject, member, hidden⟩ := hidden
      obtain ⟨number, held, long⟩ := Value.exists_overlong hidden
      exact .unsaid member held long

theorem told_obstacle (location : Location) (fault : Fault) :
    Told location fault.subjects fault.message (obstacle location fault) :=
  told_iff.mpr rfl

/-- The order of unknown keys does not matter. -/
theorem obstacle_unknown_of_perm (location : Location) {keys others : List Value}
    (same : others.Perm keys) :
    obstacle location (.unknown others) = obstacle location (.unknown keys) := by
  have message : (Fault.unknown others).message = (Fault.unknown keys).message :=
    congrArg (fun names => "Unknown option(s): " ++ ", ".intercalate names) (names_eq_of_perm same)
  have subjects : (Fault.unknown others).subjects.all Value.isShowable =
      (Fault.unknown keys).subjects.all Value.isShowable := same.all_eq
  rw [obstacle, obstacle, message, subjects]

/-- The order of the entries of a mapping does not matter. -/
theorem ofDenoted_of_perm (location : Location) {entries others : List (Value × Value)}
    (differ : (entries.map Prod.fst).Nodup) (same : others.Perm entries) :
    ofDenoted location (.ok (.mapping others)) = ofDenoted location (.ok (.mapping entries)) := by
  cases form_mapping differ with
  | plain _ other => exact absurd rfl (other entries)
  | empty => rw [same.eq_nil]
  | single value => rw [List.perm_singleton.mp same]
  | strange some =>
    have moved : (strangers others).Perm (strangers entries) := (same.map Prod.fst).filter _
    have strange : strangers others ≠ [] := fun none => some (List.nil_perm.mp (none ▸ moved))
    rw [ofDenoted, ofDenoted, ofValue, ofValue, ofEntries_of_strange some,
      ofEntries_of_strange strange]
    exact congrArg Except.error (obstacle_unknown_of_perm location moved)

theorem ofDenoted_ok_iff (location : Location) {value : Value} (differ : value.KeysDiffer)
    {options : Options} :
    ofDenoted location (.ok value) = .ok options ↔ Accepted value options := by
  rw [← ofValue_ok_iff differ, ofDenoted]
  cases ofValue value <;> simp [Except.mapError]

theorem ofDenoted_error_iff (location : Location) {value : Value} (differ : value.KeysDiffer)
    {found : Obstacle} :
    ofDenoted location (.ok value) = .error found ↔
      ∃ subjects message, Refused value subjects message ∧
        Told location subjects message found := by
  rw [ofDenoted]
  constructor
  · intro failed
    cases given : ofValue value with
    | ok options =>
      rw [given] at failed
      cases failed
    | error fault =>
      rw [given] at failed
      obtain rfl := Except.error.inj failed
      exact ⟨_, _, (ofValue_error_iff differ).mp ⟨fault, given, rfl, rfl⟩,
        told_obstacle location fault⟩
  · rintro ⟨subjects, message, refused, told⟩
    obtain ⟨fault, given, rfl, rfl⟩ := (ofValue_error_iff differ).mpr refused
    rw [given, told_iff.mp told]
    rfl

/-- A problem of an options file is one of options, and it names the file. -/
theorem kind_of_load {look : Location → Found} {location : Location} {problem : Problem}
    (refused : load look location = .error (.problem problem)) :
    problem.kind = .options ∧ problem.path = some location.text := by
  have known {fault : Fault} (same : obstacle location fault = .problem problem) :
      problem.kind = .options ∧ problem.path = some location.text := by
    rw [obstacle] at same
    split at same
    · cases same
      exact ⟨rfl, rfl⟩
    · cases same
  rw [load] at refused
  split at refused
  · split at refused
    · cases refused
    · next text _ =>
      rw [ofText] at refused
      cases denoted : Yaml.read text with
      | error fault =>
        rw [denoted] at refused
        cases fault with
        | malformed => exact known (Except.error.inj refused)
        | _ => cases refused
      | ok value =>
        rw [denoted, ofDenoted] at refused
        cases given : ofValue value with
        | ok options =>
          rw [given] at refused
          cases refused
        | error fault =>
          rw [given] at refused
          exact known (Except.error.inj refused)
  · cases refused
    exact ⟨rfl, rfl⟩

/-- Options files are validated completely. A file that can be read is judged by what its text
denotes, and that is never a mapping with a key twice. A text that is malformed is a problem. A
value gives options exactly if it is accepted, and otherwise comes to what is told of the one
refusal that there is for it; in which order a mapping has its entries makes no difference. -/
theorem options_validated (location : Location) :
    (∀ look text, (look location).text = .ok text →
      load look location = ofDenoted location (Yaml.read text)) ∧
    (∀ text value, Yaml.read text = .ok value → value.KeysDiffer) ∧
    ofDenoted location (.error .malformed) = .error (.problem
      ⟨.options, "Invalid YAML: the text is not one well-formed document", none,
        some location.text⟩) ∧
    ∀ value : Value, value.KeysDiffer →
      (∀ options, ofDenoted location (.ok value) = .ok options ↔ Accepted value options) ∧
      (∀ found, ofDenoted location (.ok value) = .error found ↔
        ∃ subjects message, Refused value subjects message ∧
          Told location subjects message found) ∧
      ∀ entries others, value = .mapping entries → others.Perm entries →
        ofDenoted location (.ok (.mapping others)) = ofDenoted location (.ok value) := by
  refine ⟨fun _ _ => load_of_text, fun _ _ => Yaml.keysDiffer_of_read, rfl, fun value differ => ?_⟩
  refine ⟨fun _ => ofDenoted_ok_iff location differ,
    fun _ => ofDenoted_error_iff location differ, ?_⟩
  rintro entries others rfl same
  exact ofDenoted_of_perm location differ same

/-- A mapping with one key, which names no option and cannot be shown. -/
def overlongEntries : List (Value × Value) :=
  [(.number (.integer (Nat.pow 10 Number.digitLimit)), .null)]

theorem overlong_power : Value.Overlong (Nat.pow 10 Number.digitLimit) := by
  rw [Value.Overlong, Int.natAbs_natCast, Nat.pow_eq, ← Nat.not_le,
    Nat.length_toDigits_le_iff (by decide) (by decide)]
  simp only [Nat.lt_irrefl, not_false_iff]

/-- Not everything that is refused is told as a problem. -/
theorem overlong_key_is_untold :
    (Value.mapping overlongEntries).KeysDiffer ∧
      (∀ options, ¬ Accepted (.mapping overlongEntries) options) ∧
      ∀ location problem,
        ofDenoted location (.ok (.mapping overlongEntries)) ≠ .error (.problem problem) := by
  have differ : (Value.mapping overlongEntries).KeysDiffer :=
    List.pairwise_singleton _ _
  refine ⟨differ, fun options accepted => ?_, fun location problem same => ?_⟩
  · cases accepted
  · obtain ⟨subjects, message, refused, told⟩ := (ofDenoted_error_iff location differ).mp same
    cases told with
    | said short =>
      cases refused with
      | notMapping _ other => exact other _ rfl
      | unknown => exact short _ List.mem_cons_self _ (.itself _) overlong_power

end Options

end ScenarioTree
