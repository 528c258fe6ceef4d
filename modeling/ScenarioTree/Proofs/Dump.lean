/-
This file shows that a dump loses nothing. Data whose numbers can be denoted, and whose objects have
no two fields of one name, is printed as a text that denotes this data and nothing else; the text is
ASCII. The view of a project is such data, since only finite numbers are ever built, and each kind
of node has fields of different names.
-/

import ScenarioTree.Command.Run
import ScenarioTree.Proofs.Image
import ScenarioTree.Proofs.Accounting
import ScenarioTree.Proofs.Json

namespace ScenarioTree

open ScenarioTree.Build (Assembly assemble)
open ScenarioTree.Json (Gap Phrase Spelled Spells Written gap_nil)
open ScenarioTree.Xml (Element)
open ScenarioTree.Yaml (hexNumber?)

/-! ### Hexadecimal digits -/

namespace Text

theorem length_hexDigits (width number : Nat) : (hexDigits width number).length = width := by
  induction width generalizing number with
  | zero => rfl
  | succ width induction => rw [hexDigits, List.length_append, induction, List.length_singleton]

theorem hexValue?_hexDigit : ∀ digit < 16, Yaml.hexValue? (hexDigit digit) = some digit := by
  decide

/-- Digits are read as the number of which they are the last. -/
theorem hexNumber?_hexDigits (width number : Nat) :
    hexNumber? (hexDigits width number) = some (number % 16 ^ width) := by
  induction width generalizing number with
  | zero =>
    rw [Nat.pow_zero, Nat.mod_one]
    rfl
  | succ width induction =>
    have last := hexValue?_hexDigit (number % 16) (Nat.mod_lt _ (by decide))
    have leading := induction (number / 16)
    rw [hexNumber?] at leading ⊢
    rw [hexDigits, List.foldlM_append, leading, Nat.pow_succ', Nat.mod_mul]
    simp [last, Nat.add_comm]

end Text

namespace Data

/-! ### Strings -/

/-- Nothing but ASCII characters. -/
def Ascii (text : List Char) : Prop :=
  ∀ character ∈ text, character.toNat < 0x80

theorem ascii_nil : Ascii [] := fun _ member => absurd member List.not_mem_nil

theorem ascii_cons {first : Char} {rest : List Char} :
    Ascii (first :: rest) ↔ first.toNat < 0x80 ∧ Ascii rest :=
  List.forall_mem_cons

theorem ascii_append {first second : List Char} :
    Ascii (first ++ second) ↔ Ascii first ∧ Ascii second :=
  List.forall_mem_append

theorem ascii_hexDigit : ∀ digit < 16, (Text.hexDigit digit).toNat < 0x80 := by
  decide

theorem ascii_hexDigits (width number : Nat) : Ascii (Text.hexDigits width number) := by
  induction width generalizing number with
  | zero => exact ascii_nil
  | succ width induction =>
    have last := ascii_hexDigit (number % 16) (Nat.mod_lt _ (by decide))
    exact ascii_append.mpr ⟨induction _, ascii_cons.mpr ⟨last, ascii_nil⟩⟩

theorem ascii_unitEscape (unit : Nat) : Ascii (unitEscape unit) :=
  ascii_cons.mpr ⟨by decide, ascii_cons.mpr ⟨by decide, ascii_hexDigits 4 unit⟩⟩

/-- The number of a UTF-16 unit is written with four digits. -/
theorem hexNumber?_unit {unit : Nat} (small : unit < 0x10000) :
    hexNumber? (Text.hexDigits 4 unit) = some unit := by
  have whole : unit % 16 ^ 4 = unit := Nat.mod_eq_of_lt small
  rw [Text.hexNumber?_hexDigits, whole]

/-- A character is spelled by what stands for it. -/
theorem spells_escapedCharacter (character : Char) :
    Spells (escapedCharacter character) character := by
  rw [escapedCharacter.eq_def]
  simp only
  split
  all_goals try exact .short rfl
  · next unquoted unescaped _ _ _ _ _ =>
    have valid : character.toNat < 0xD800 ∨ 0xDFFF < character.toNat ∧ character.toNat < 0x110000 :=
      character.valid
    split
    · next visible =>
      simp only [Bool.and_eq_true, decide_eq_true_iff] at visible
      exact .plain visible.1 unquoted unescaped
    split
    · next small => exact .unit (Text.length_hexDigits _ _) (hexNumber?_unit small)
    · next large =>
      have highBound : (character.toNat - 0x10000) / 0x400 < 0x400 := by omega
      have lowBound : (character.toNat - 0x10000) % 0x400 < 0x400 := Nat.mod_lt _ (by decide)
      exact .pair (Text.length_hexDigits _ _) (Text.length_hexDigits _ _)
        (hexNumber?_unit (by omega)) highBound (hexNumber?_unit (by omega)) lowBound (by omega)

theorem ascii_escapedCharacter (character : Char) : Ascii (escapedCharacter character) := by
  rw [escapedCharacter.eq_def]
  simp only
  split
  all_goals try (simp [Ascii]; done)
  split
  · next visible =>
    simp only [Bool.and_eq_true, decide_eq_true_iff] at visible
    exact ascii_cons.mpr ⟨by omega, ascii_nil⟩
  split
  · exact ascii_unitEscape _
  · exact ascii_append.mpr ⟨ascii_unitEscape _, ascii_unitEscape _⟩

theorem spelled_flatMap (characters : List Char) :
    Spelled (characters.flatMap escapedCharacter) characters := by
  induction characters with
  | nil => exact .nil
  | cons first rest induction => exact .cons (spells_escapedCharacter first) induction

theorem ascii_flatMap (characters : List Char) : Ascii (characters.flatMap escapedCharacter) := by
  intro character member
  obtain ⟨written, _, member⟩ := List.mem_flatMap.mp member
  exact ascii_escapedCharacter written character member

/-! ### Values -/

/-- Data that has a text: numbers can be denoted, and no two fields of an object have one name. -/
inductive Sound : Data → Prop where
  | null : Sound .null
  | boolean (value : Bool) : Sound (.boolean value)
  | number {value : Number} (denotable : value.Denotable) : Sound (.number value)
  | string (value : String) : Sound (.string value)
  | list {items : List Data} (inner : ∀ item ∈ items, Sound item) : Sound (.list items)
  | object {fields : List (String × Data)} (inner : ∀ field ∈ fields, Sound field.2)
      (distinct : (fields.map Prod.fst).Nodup) : Sound (.object fields)

/-- How a phrase is printed: as this phrase, and in ASCII. -/
structure Prints (text : List Char) (phrase : Phrase) : Prop where
  written : Written text phrase
  ascii : Ascii text

theorem gap_lineBreak (depth : Nat) : Gap (lineBreak depth) := by
  intro character member
  rcases List.mem_cons.mp member with rfl | member
  · rfl
  · rw [List.eq_of_mem_replicate member]
    rfl

theorem ascii_of_gap {gap : List Char} (blank : Gap gap) : Ascii gap := by
  intro character member
  have blank := blank character member
  simp only [Json.isBlank, Bool.or_eq_true, beq_iff_eq] at blank
  rcases blank with ((rfl | rfl) | rfl) | rfl <;> decide

theorem ascii_of_numeral {text : List Char} (numeral : Number.Numeral text) : Ascii text := by
  intro character member
  have part := Json.isNumberCharacter_of_numeral numeral character member
  rw [Json.isNumberCharacter, Bool.or_eq_true] at part
  rcases part with digit | sign
  · rw [Number.isDigit, Bool.and_eq_true, decide_eq_true_iff, decide_eq_true_iff] at digit
    have upper : character.toNat ≤ 57 := digit.2
    omega
  · simp only [List.contains_iff_mem, List.mem_cons, List.not_mem_nil, or_false] at sign
    rcases sign with rfl | rfl | rfl | rfl | rfl <;> decide

theorem prints_string (value : String) :
    Prints (stringCharacters value) (.value (.string value)) where
  written := by
    have written := Written.string (spelled_flatMap value.toList)
    rwa [String.ofList_toList] at written
  ascii := ascii_cons.mpr ⟨by decide,
    ascii_append.mpr ⟨ascii_flatMap _, ascii_cons.mpr ⟨by decide, ascii_nil⟩⟩⟩

theorem prints_field (name : String) {text : List Char} {value : Data}
    (printed : Prints text (.value value)) :
    Prints (stringCharacters name ++ [':', ' '] ++ text) (.field name value) where
  written := by
    have space : Gap [' '] := by
      intro character member
      rw [List.mem_singleton.mp member]
      rfl
    have written := Written.field (spelled_flatMap name.toList) gap_nil space printed.written
    rw [String.ofList_toList] at written
    simpa [stringCharacters] using written
  ascii := ascii_append.mpr ⟨ascii_append.mpr ⟨(prints_string name).ascii, by simp [Ascii]⟩,
    printed.ascii⟩

theorem ascii_entry {sign : Char} (plain : sign.toNat < 0x80) (depth : Nat)
    {first others : List Char} (firstAscii : Ascii first) (othersAscii : Ascii others) :
    Ascii (sign :: (lineBreak depth ++ (first ++ others))) :=
  ascii_cons.mpr ⟨plain, ascii_append.mpr ⟨ascii_of_gap (gap_lineBreak depth),
    ascii_append.mpr ⟨firstAscii, othersAscii⟩⟩⟩

theorem prints_items {items : List Data} {depth deeper : Nat}
    (inner : ∀ item ∈ items, Prints (item.characters deeper) (.value item)) :
    Prints (itemCharacters deeper items ++ (lineBreak depth ++ [']'])) (.items items) := by
  induction items with
  | nil =>
    rw [itemCharacters, List.nil_append]
    exact ⟨.lastItem (gap_lineBreak depth), ascii_append.mpr
      ⟨ascii_of_gap (gap_lineBreak depth), by simp [Ascii]⟩⟩
  | cons item rest induction =>
    have first := inner item List.mem_cons_self
    have others := induction fun other member => inner other (List.mem_cons_of_mem _ member)
    have printed : Prints ([] ++ ',' :: (lineBreak deeper ++ (item.characters deeper ++
        (itemCharacters deeper rest ++ (lineBreak depth ++ [']']))))) (.items (item :: rest)) :=
      ⟨.nextItem gap_nil (gap_lineBreak deeper) first.written others.written,
        ascii_entry (by decide) deeper first.ascii others.ascii⟩
    simpa [itemCharacters] using printed

theorem prints_fields {fields : List (String × Data)} {depth deeper : Nat}
    (inner : ∀ field ∈ fields, Prints (field.2.characters deeper) (.value field.2)) :
    Prints (fieldCharacters deeper fields ++ (lineBreak depth ++ ['\x7d'])) (.fields fields) := by
  induction fields with
  | nil =>
    rw [fieldCharacters, List.nil_append]
    exact ⟨.lastField (gap_lineBreak depth), ascii_append.mpr
      ⟨ascii_of_gap (gap_lineBreak depth), by simp [Ascii]⟩⟩
  | cons field rest induction =>
    obtain ⟨name, value⟩ := field
    have first := prints_field name (inner (name, value) List.mem_cons_self)
    have others := induction fun other member => inner other (List.mem_cons_of_mem _ member)
    have printed : Prints ([] ++ ',' :: (lineBreak deeper ++ (stringCharacters name ++ [':', ' '] ++
        value.characters deeper ++ (fieldCharacters deeper rest ++ (lineBreak depth ++ ['\x7d'])))))
        (.fields ((name, value) :: rest)) :=
      ⟨.nextField gap_nil (gap_lineBreak deeper) first.written others.written,
        ascii_entry (by decide) deeper first.ascii others.ascii⟩
    simpa [fieldCharacters] using printed

theorem prints_list {items : List Data} {depth : Nat}
    (inner : ∀ item ∈ items, Prints (item.characters (depth + 1)) (.value item)) :
    Prints ((list items).characters depth) (.value (.list items)) := by
  cases items with
  | nil => exact ⟨.noItems gap_nil, by simp [characters, Ascii]⟩
  | cons item rest =>
    have first := inner item List.mem_cons_self
    have others := @prints_items rest depth (depth + 1) fun other member =>
      inner other (List.mem_cons_of_mem _ member)
    have printed : Prints ('[' :: (lineBreak (depth + 1) ++ (item.characters (depth + 1) ++
        (itemCharacters (depth + 1) rest ++ (lineBreak depth ++ [']'])))))
        (.value (.list (item :: rest))) :=
      ⟨.list (gap_lineBreak _) first.written others.written,
        ascii_entry (by decide) _ first.ascii others.ascii⟩
    simpa [characters] using printed

theorem prints_object {fields : List (String × Data)} {depth : Nat}
    (inner : ∀ field ∈ fields, Prints (field.2.characters (depth + 1)) (.value field.2))
    (distinct : (fields.map Prod.fst).Nodup) :
    Prints ((object fields).characters depth) (.value (.object fields)) := by
  cases fields with
  | nil => exact ⟨.noFields gap_nil, by simp [characters, Ascii]⟩
  | cons field rest =>
    obtain ⟨name, value⟩ := field
    have first := prints_field name (inner (name, value) List.mem_cons_self)
    have others := @prints_fields rest depth (depth + 1) fun other member =>
      inner other (List.mem_cons_of_mem _ member)
    have printed : Prints ('\x7b' :: (lineBreak (depth + 1) ++ (stringCharacters name ++
        [':', ' '] ++ value.characters (depth + 1) ++ (fieldCharacters (depth + 1) rest ++
        (lineBreak depth ++ ['\x7d']))))) (.value (.object ((name, value) :: rest))) :=
      ⟨.object (gap_lineBreak _) first.written others.written distinct,
        ascii_entry (by decide) _ first.ascii others.ascii⟩
    simpa [characters] using printed

/-- Data is printed as a text that denotes it. -/
theorem Sound.prints {data : Data} (sound : data.Sound) (depth : Nat) :
    Prints (data.characters depth) (.value data) := by
  induction sound generalizing depth with
  | null => exact ⟨.null, by simp [characters, Ascii]⟩
  | boolean value =>
    cases value with
    | true => exact ⟨.yes, by simp [characters, Ascii]⟩
    | false => exact ⟨.no, by simp [characters, Ascii]⟩
  | number denotable =>
    obtain ⟨numeral, denoted⟩ := denotable.read_text
    rw [characters]
    exact ⟨.number numeral denoted, ascii_of_numeral numeral⟩
  | string value =>
    rw [characters]
    exact prints_string value
  | list inner induction => exact prints_list fun item member => induction item member _
  | object inner distinct induction =>
    exact prints_object (fun field member => induction field member _) distinct

example : (Data.list [.string "\"é😀", .null]).print =
    "[\n  \"\\\"\\u00e9\\ud83d\\ude00\",\n  null\n]" := by
  decide +kernel

end Data

/-! ### Views -/

namespace Node

theorem sound_viewSlot {slot : Slot} (inner : ∀ part, slot = some part → part.view.Sound) :
    (viewSlot slot).Sound := by
  cases slot with
  | none => exact .null
  | some part => exact inner part rfl

theorem sound_viewSlots {slots : List Slot} (inner : ∀ slot ∈ slots, (viewSlot slot).Sound) :
    (Data.list (viewSlots slots)).Sound := by
  refine .list ?_
  induction slots with
  | nil => exact fun item member => absurd member List.not_mem_nil
  | cons slot rest induction =>
    rw [viewSlots]
    exact List.forall_mem_cons.mpr ⟨inner slot List.mem_cons_self,
      induction fun other member => inner other (List.mem_cons_of_mem _ member)⟩

/-- The fields of a node have different names, so a view has a text if all values have one. -/
theorem sound_of_fields {node : Node} (values : ∀ field ∈ node.fields, field.2.Sound) :
    node.view.Sound := by
  have distinct : (("kind" :: node.fields.map Prod.fst)).Nodup := by
    cases node <;> simp only [fields, List.map_cons, List.map_nil] <;> decide
  exact .object (List.forall_mem_cons.mpr ⟨.string _, values⟩) distinct

theorem sound_entry {slot : Slot} (inner : ∀ part, entryValue slot = some part → part.view.Sound) :
    (viewSlot slot).Sound := by
  rw [entryValue.eq_def] at inner
  split at inner
  · exact sound_of_fields (List.forall_mem_cons.mpr ⟨.string _,
      List.forall_mem_singleton.mpr (sound_viewSlot inner)⟩)
  · exact sound_of_fields (List.forall_mem_cons.mpr ⟨.string _,
      List.forall_mem_singleton.mpr (sound_viewSlot inner)⟩)
  · exact sound_viewSlot inner

/-- A view has a text if the views of the inner nodes have one, and if a number can be denoted. -/
theorem sound_view {node : Node} (denotable : ∀ value, node = .number value → value.Denotable)
    (inner : ∀ part, some part ∈ node.slots → part.view.Sound) : node.view.Sound := by
  have one : ∀ slot ∈ node.slots, (viewSlot slot).Sound := fun slot member =>
    sound_viewSlot fun part filled => inner part (filled ▸ member)
  have several {items : List Slot} (among : items ⊆ node.slots) :
      (Data.list (viewSlots items)).Sound := sound_viewSlots fun slot member =>
    one slot (among member)
  have entries {items : List Slot} (among : items.map entryValue ⊆ node.slots) :
      (Data.list (viewSlots items)).Sound := sound_viewSlots fun item member =>
    sound_entry fun part filled => inner part (filled ▸ among (List.mem_map_of_mem member))
  refine sound_of_fields ?_
  cases node with
  | number value => exact List.forall_mem_singleton.mpr (.number (denotable value rfl))
  | tag key value => cases value <;> simp [fields, Data.Sound.string, Data.Sound.null]
  | list _ | template _ | actionwords _ | scenarios _ =>
    exact List.forall_mem_singleton.mpr (several (List.Subset.refl _))
  | dict _ => exact List.forall_mem_singleton.mpr (entries (List.Subset.refl _))
  | call name _ => simp [fields, Data.Sound.string, entries (List.Subset.refl _)]
  | conditional condition thenBody elseBody =>
    have first := @several thenBody (by simp [slots])
    have second := @several elseBody (by simp [slots])
    simp [slots] at one
    simp [fields, one, first, second]
  | loop condition body =>
    have inside := @several body (by simp [slots])
    simp [slots] at one
    simp [fields, one, inside]
  | actionword name tags parameters body | scenario name _ tags parameters body =>
    have first := @several tags (by simp [slots])
    have second := @several parameters (by simp [slots])
    have third := @several body (by simp [slots])
    simp [fields, Data.Sound.string, first, second, third]
  | _ =>
    simp [slots] at one
    simp [fields, one, Data.Sound.string, Data.Sound.boolean]

theorem WellShaped.sound_view {node : Node} (shaped : node.WellShaped) : node.view.Sound := by
  induction shaped with
  | node shaped inner sound =>
    refine Node.sound_view ?_ sound
    rintro value rfl
    exact shaped

end Node

namespace Build

/-- The view of a project has a text. -/
theorem Assembly.sound_view {root : Element} {assembly : Assembly}
    (assembled : assemble root = .ok assembly) : assembly.project.node.view.Sound := by
  obtain ⟨source, _, _, owed⟩ := assemble_ok assembled
  refine Node.sound_view (fun value impossible => nomatch impossible) fun part member => ?_
  have kept : some part ∈ assembly.project.node.owed source := member
  rw [owed] at kept
  obtain ⟨⟨place, found | vacant⟩, _, filled⟩ := List.mem_map.mp kept
  · exact (wellShaped_of_build (slotOf_eq_some_iff.mp filled)).sound_view
  · cases filled

end Build

/-! ### Dumps -/

namespace Command

theorem toList_dumped (project : Project) :
    (dumped project).toList = project.node.view.characters 0 ++ ['\n'] := by
  rw [dumped, String.toList_append, Data.print, String.toList_ofList]
  rfl

/-- A dump is a text in ASCII that denotes the view of its project, and nothing else. This is what
the command writes when the project is that of its file. -/
theorem dump_lossless {root : Element} {assembly : Assembly}
    (assembled : assemble root = .ok assembly) :
    (∀ character ∈ (dumped assembly.project).toList, character.toNat < 0x80) ∧
      (∀ data, Json.Denotes (dumped assembly.project) data ↔
        data = assembly.project.node.view) ∧
      ∀ look file choice options, optionsOf look choice = .ok options →
        assembleFile look file = .ok assembly →
          ∃ lines, (Request.dump file choice).run look =
            .ok ⟨0, dumped assembly.project, lines⟩ := by
  have printed := (Assembly.sound_view assembled).prints 0
  have newline : Gap ['\n'] := by
    intro character member
    rw [List.mem_singleton.mp member]
    rfl
  have denotes : Json.Denotes (dumped assembly.project) assembly.project.node.view :=
    .intro (toList_dumped _) gap_nil newline printed.written
  refine ⟨?_, fun data => ⟨fun other => other.unique denotes, ?_⟩, ?_⟩
  · rw [toList_dumped]
    exact Data.ascii_append.mpr ⟨printed.ascii, Data.ascii_of_gap newline⟩
  · rintro rfl
    exact denotes
  · intro look file choice options chosen built
    refine ⟨reports options.verbose assembly.failures, ?_⟩
    rw [Request.run, Request.attempt, showing, chosen]
    simp only [built]
    rfl

/-- A document with a name that needs escapes, a scenario that fails, and a number. -/
def escapedDocument : Element :=
  .branch "project"
    [.leaf "name" "\"é😀", .leaf "description" "",
      .branch "scenarios" [.branch "scenario" []],
      .branch "actionwords" [.branch "actionword" [.leaf "name" "press", .branch "parameters"
        [.branch "parameter" [.leaf "name" "times",
          .branch "default_value" [.leaf "numeric" "12"]]]]]]

/-- Its project. -/
def escapedProject : Project :=
  ⟨"\"é😀", "", [none],
    [some (.actionword "press" [] [some (.parameter "times" (some (.number (.integer 12))))] [])]⟩

theorem dump_lossless_escaped :
    ∃ failures, assemble escapedDocument = .ok ⟨escapedProject, failures⟩ ∧
      ∀ data, Json.Denotes (dumped escapedProject) data ↔ data = escapedProject.node.view :=
  ⟨_, rfl, (@dump_lossless escapedDocument _ rfl).2.1⟩

end Command

end ScenarioTree
