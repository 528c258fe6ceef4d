/-
This file loads documents whose texts are spelled in pieces. A draft is what an author puts between
two tags: pieces, and elements between them, which are drafts again. It is loaded as the tree whose
texts are what the pieces denote, so two drafts that say the same in different spellings are one
document, and nothing that is built from them differs.

The induction is on the draft. Between two tags the tree is described as it will be once the waiting
characters are put into their run, and a whole draft fills the innermost open element.
-/

import ScenarioTree.Proofs.Image
import ScenarioTree.Proofs.Piece
import ScenarioTree.Proofs.RoundTrip

namespace ScenarioTree

namespace Xml

open Text (unifyNewlines unifyNewlines_cons unifyNewlines_append)

/-! ### Drafts -/

/-- What stands between two tags: pieces, or pieces before an element and what stands in it and
behind it. -/
inductive Draft where
  | last (pieces : List Piece)
  | child (before : List Piece) (name : List Char) (inside after : Draft)

/-- What is written between the tags of an element, with them. -/
def tagged (name inside : List Char) : List Char :=
  '<' :: (name ++ '>' :: (inside ++ '<' :: '/' :: (name ++ ['>'])))

namespace Draft

/-- Whether the pieces are proper and the names are plain. -/
def Proper : Draft → Prop
  | last pieces => ∀ piece ∈ pieces, piece.Proper
  | child before name inside after =>
    (∀ piece ∈ before, piece.Proper) ∧ PlainName name ∧ inside.Proper ∧ after.Proper

/-- A draft as it is written. -/
def write : Draft → List Char
  | last pieces => writePieces pieces
  | child before name inside after =>
    writePieces before ++ (tagged name inside.write ++ after.write)

/-- What the pieces before the first element denote. -/
def text : Draft → String
  | last pieces | child pieces _ _ _ => String.ofList (denoted pieces)

/-- The elements of a draft. -/
def children : Draft → List Element
  | last _ => []
  | child _ name inside after =>
    ⟨⟨"", String.ofList name⟩, [], .ofText inside.text, inside.children, .ofText after.text⟩ ::
      after.children

/-- The element that holds a draft. -/
def element (draft : Draft) (name : List Char) : Element :=
  ⟨⟨"", String.ofList name⟩, [], .ofText draft.text, draft.children, .empty⟩

/-- Drafts that say the same, each text in a spelling of its own. -/
inductive Alike : Draft → Draft → Prop where
  | last {pieces others : List Piece} (same : denoted pieces = denoted others) :
      Alike (last pieces) (last others)
  | child {before others : List Piece} {name : List Char} {inside within after behind : Draft}
      (same : denoted before = denoted others) (inner : Alike inside within)
      (outer : Alike after behind) :
      Alike (child before name inside after) (child others name within behind)

theorem Alike.parts {draft other : Draft} (alike : Alike draft other) :
    draft.text = other.text ∧ draft.children = other.children := by
  induction alike with
  | last same => exact ⟨congrArg String.ofList same, rfl⟩
  | child same _ _ inner outer =>
    refine ⟨congrArg String.ofList same, ?_⟩
    rw [children, children, inner.1, inner.2, outer.1, outer.2]

theorem Alike.element {draft other : Draft} (alike : Alike draft other) (name : List Char) :
    draft.element name = other.element name := by
  rw [Draft.element, Draft.element, alike.parts.1, alike.parts.2]

/-! ### Line ends of drafts -/

/-- A draft as it is written with one spelling of line ends. -/
def writeUnified : Draft → List Char
  | last pieces => writePieces ((Piece.gathered [] pieces).map Piece.unified)
  | child before name inside after =>
    writePieces ((Piece.gathered [] before).map Piece.unified) ++
      (tagged name inside.writeUnified ++ after.writeUnified)

end Draft

theorem unifyNewlines_tagged {name inside : List Char} (plain : PlainName name)
    {unified : List Char}
    (inner : ∀ rest : List Char, rest.head? ≠ some '\n' →
      unifyNewlines (inside ++ rest) = unified ++ unifyNewlines rest) (rest : List Char) :
    unifyNewlines (tagged name inside ++ rest) = tagged name unified ++ unifyNewlines rest := by
  have free : '\r' ∉ name := Element.return_not_mem_of_parts plain.part
  have opened : '\r' ∉ '<' :: (name ++ ['>']) := by simpa using free
  have closed : '\r' ∉ '<' :: '/' :: (name ++ ['>']) := by simpa using free
  have whole (inside rest : List Char) : tagged name inside ++ rest =
      ('<' :: (name ++ ['>'])) ++ (inside ++ (('<' :: '/' :: (name ++ ['>'])) ++ rest)) := by
    simp [tagged]
  rw [whole, whole, unifyNewlines_append opened, inner _ (by simp), unifyNewlines_append closed]

theorem Draft.Proper.unifyNewlines_write {draft : Draft} (proper : draft.Proper)
    {rest : List Char} (apart : rest.head? ≠ some '\n') :
    unifyNewlines (draft.write ++ rest) = draft.writeUnified ++ unifyNewlines rest := by
  induction draft generalizing rest with
  | last pieces => exact Piece.unifyNewlines_writePieces proper apart
  | child before name inside after inner outer =>
    obtain ⟨pieces, plain, insideProper, afterProper⟩ := proper
    have tag := unifyNewlines_tagged plain (fun _ apart => inner insideProper apart)
      (after.write ++ rest)
    have begins : (tagged name inside.write ++ (after.write ++ rest)).head? ≠ some '\n' := by
      simp [tagged]
    rw [write, writeUnified, List.append_assoc, List.append_assoc,
      Piece.unifyNewlines_writePieces pieces begins, tag, outer afterProper apart]
    simp only [List.append_assoc]

/-! ### Reading drafts -/

namespace Frame

/-- An open element with a draft read into it. -/
def filled (frame : Frame) (draft : Draft) : Frame :=
  { frame.mapRun (·.append draft.text) with
    children := draft.children.reverse ++ (frame.mapRun (·.append draft.text)).children }

/-- An element that has just been opened, without attributes. -/
def opened (name : List Char) (scope : Scope) : Frame :=
  ⟨String.ofList name, ⟨"", String.ofList name⟩, [], scope, .empty, []⟩

theorem scope_mapRun (frame : Frame) (change : Run → Run) :
    (frame.mapRun change).scope = frame.scope := by
  obtain ⟨_, _, _, _, _, children⟩ := frame
  cases children <;> rfl

theorem close_filled (name : List Char) (scope : Scope) (draft : Draft) :
    ((opened name scope).filled draft).close = draft.element name := by
  simp [filled, opened, mapRun, close, Draft.element, Run.append, Run.empty, Run.ofText]

/-- A draft is filled in piece by piece. -/
theorem filled_child (frame : Frame) (before : List Piece) (name : List Char)
    (inside after : Draft) :
    frame.filled (.child before name inside after) =
      filled { frame.mapRun (·.append (String.ofList (denoted before))) with
        children := inside.element name ::
          (frame.mapRun (·.append (String.ofList (denoted before)))).children } after := by
  simp [filled, mapRun, Draft.text, Draft.children, Draft.element, Run.append, Run.empty,
    Run.ofText]

end Frame

namespace Reader

variable {content : Content} {frames : List Frame} {name : List Char}

theorem serves_plain (plain : PlainName name) : Serves [] ⟨"", String.ofList name⟩ [] := by
  have given : PlainName (String.ofList name).toList := by rwa [String.toList_ofList]
  refine ⟨Prefixes.sound_nil, ⟨Name.comesApart_of_nameRest given.nameRest, .inl rfl⟩, given, ?_, ?_,
    ?_, List.nodup_nil⟩
  all_goals simp

/-- A start tag without attributes opens its element. -/
theorem leads_tag (plain : PlainName name) {first : Char} {rest : List Char}
    (split : name = first :: rest) (undone : Prefixes.Undone [] content.scope)
    (flushed : content.flush = ⟨[], frames, none⟩) :
    Leads (At (Tagging (· = .tagName (.start first))) content) (rest ++ ['>'])
      (At InText ⟨[], .opened name content.scope :: frames, none⟩) := by
  have unfinished : content.root = none := root_of_flush flushed
  have serves := serves_plain plain
  have same : Prefixes.write [] ⟨"", String.ofList name⟩ = String.ofList name :=
    Prefixes.write_of_space serves.covers.apart rfl []
  have written : (Prefixes.write [] ⟨"", String.ofList name⟩).toList = first :: rest := by
    rw [same, String.toList_ofList, split]
  have opening := leads_opening serves declares_nil (by simp) unfinished written
  have nothing : (String.join ((givens [] [] []).map writeGiven)).toList = [] := rfl
  rw [nothing, List.append_nil] at opening
  refine opening.append (leads_opened unfinished (fun tag reads start => ?_)
    fun tag reads => reads.unclosed)
  have made := serves.openElement declares_nil undone flushed reads start
  rw [same] at made
  exact made

/-- A draft is read into the innermost open element. -/
theorem leads_draft {draft : Draft} (proper : draft.Proper) {frame : Frame} {outer : List Frame}
    (undone : Prefixes.Undone [] frame.scope) :
    Leads (At InText ⟨[], frame :: outer, none⟩) draft.writeUnified
      (Within ⟨[], frame.filled draft :: outer, none⟩) := by
  induction draft generalizing frame outer with
  | last pieces =>
    refine (Piece.leads_denoted proper rfl).weaken fun reader reached => ⟨_, ?_, reached⟩
    exact Content.flush_pushAll frame outer none (denoted pieces)
  | child before name inside after inner outerInduction =>
    obtain ⟨pieces, plain, insideProper, afterProper⟩ := proper
    obtain ⟨first, rest, split⟩ := (Qualified.plain plain : Qualified PlainName name).eq_cons
    have start : isNameStart first := by
      rw [split] at plain
      exact plain.1
    -- The pieces in front wait until the tag puts them into their run.
    let waiting : Content := Content.pushAll ⟨[], frame :: outer, none⟩ (denoted before)
    let filled : Frame := frame.mapRun (·.append (String.ofList (denoted before)))
    have flushed : waiting.flush = ⟨[], filled :: outer, none⟩ :=
      Content.flush_pushAll frame outer none (denoted before)
    have front : Leads (At InText ⟨[], frame :: outer, none⟩) _ (At InText waiting) :=
      Piece.leads_denoted pieces rfl
    have tag := (@leads_angle waiting rfl _ start).append
      (leads_tag plain split undone flushed)
    have within := @inner insideProper (.opened name frame.scope) (filled :: outer) undone
    have ended := @leads_endTag (Frame.filled (.opened name frame.scope) inside) (filled :: outer)
      name (.plain plain) rfl
    have scope : filled.scope = frame.scope := frame.scope_mapRun _
    have behind := @outerInduction afterProper
      { filled with children := inside.element name :: filled.children } outer (scope ▸ undone)
    rw [Frame.close_filled] at ended
    rw [← Frame.filled_child] at behind
    have whole : tagged name inside.writeUnified ++ after.writeUnified =
        (['<', first] ++ (rest ++ ['>'])) ++ (inside.writeUnified ++
          (('<' :: '/' :: (name ++ ['>'])) ++ after.writeUnified)) := by
      simp [tagged, split]
    rw [Draft.writeUnified, whole]
    exact front.append (tag.append (within.append (ended.append behind)))

/-- Behind a document that is a draft between two tags, its tree is finished. -/
theorem foldlM_tagged {draft : Draft} (proper : draft.Proper) (plain : PlainName name) :
    ∃ reader, (tagged name draft.writeUnified).foldlM (step false) (initial ⟨1, 0⟩) = .ok reader ∧
      reader.stage = .epilog .idle (draft.element name) := by
  obtain ⟨first, rest, split⟩ := (Qualified.plain plain : Qualified PlainName name).eq_cons
  have start : isNameStart first := by
    rw [split] at plain
    exact plain.1
  obtain ⟨begun, ran, tag⟩ := foldlM_begin start
  have undone : Prefixes.Undone [] Content.start.scope := ⟨by simp, rfl, rfl⟩
  have opened := leads_tag plain split undone rfl
  have within := @leads_draft draft proper (.opened name Content.start.scope) [] undone
  have ended := @leads_endTag (Frame.filled (.opened name Content.start.scope) draft) []
    name (.plain plain) rfl
  rw [Frame.close_filled] at ended
  obtain ⟨last, ranOn, reached⟩ := (opened.append (within.append ended)) begun tag
  refine ⟨last, ?_, reached⟩
  have whole : tagged name draft.writeUnified = ['<', first] ++ ((rest ++ ['>']) ++
      (draft.writeUnified ++ '<' :: '/' :: (name ++ ['>']))) := by
    simp [tagged, split]
  rw [whole, foldlM_append_of_ok ran, ranOn]

end Reader

/-- A draft between two tags is a document, with the tree that it says. -/
theorem Draft.Proper.read {draft : Draft} (proper : draft.Proper) {name : List Char}
    (plain : PlainName name) :
    Xml.read false (String.ofList (tagged name draft.write)) = .ok (draft.element name) := by
  have last : (tagged name draft.write).getLast? ≠ some '\r' := by
    have whole : tagged name draft.write =
        ('<' :: (name ++ '>' :: (draft.write ++ '<' :: '/' :: name))) ++ ['>'] := by
      simp [tagged]
    rw [whole, List.getLast?_concat]
    decide
  have unified := unifyNewlines_tagged plain (fun _ apart => proper.unifyNewlines_write apart) []
  rw [List.append_nil, unifyNewlines, List.append_nil] at unified
  obtain ⟨⟨stage, start, here⟩, ran, rfl⟩ := Reader.foldlM_tagged proper plain
  rw [Xml.read, String.toList_ofList, Text.unifyInner_eq last, unified]
  show Reader.run false ⟨1, 0⟩ _ (tagged name draft.writeUnified) = _
  rw [Reader.run, ran]
  rfl

end Xml

namespace Build

open Xml (Draft Piece PlainName denoted tagged writePieces)
open Xml.Element (leaf tag_leaf content_leaf)

/-! ### Values -/

theorem build_string {element : Xml.Element}
    (announced : Kind.ofTag? element.tag = some .string) :
    (build element).result = .ok (.string element.content) := by
  rw [build_eq, planOf, announced]
  rfl

theorem build_var {element : Xml.Element} (announced : Kind.ofTag? element.tag = some .var) :
    (build element).result =
      if Text.trim element.content.toList = [] then .error ⟨element, .emptyName⟩
      else .ok (.var element.content) := by
  rw [build_eq, planOf, announced]
  simp only [Kind.plan, planVar, List.isEmpty_iff]
  split <;> rfl

/-- Character data means the same however it is spelled. Whatever proper pieces stand between two
tags, the document is loaded as an element without children, with the text that the pieces denote.
So a literal, the name of a variable, and every text that a rule looks for are what was denoted, and
two documents that say the same in different spellings are loaded as the same tree. -/
theorem character_data {pieces : List Piece} (proper : ∀ piece ∈ pieces, piece.Proper)
    {text : String} (spells : text = String.ofList (denoted pieces)) :
    (∀ name, PlainName name → ∀ path,
      Document.load (String.ofList (tagged name (writePieces pieces))) path =
        .ok (leaf (String.ofList name) text)) ∧
    (∀ tag, (leaf tag text).children = [] ∧ (leaf tag text).content = text) ∧
    (∀ tag, Kind.ofTag? tag = some .string →
      (build (leaf tag text)).result = .ok (.string text)) ∧
    (build (leaf "var" text)).result =
      (if Text.trim text.toList = [] then .error ⟨leaf "var" text, .emptyName⟩
      else .ok (.var text)) ∧
    (∀ (parent : Xml.Element) path tag, parent.selectFirst? path = some (leaf tag text) →
      textAt parent path = .done text) ∧
    ∀ draft other : Draft, draft.Proper → other.Proper → draft.Alike other →
      ∀ name, PlainName name → ∀ path,
        Document.load (String.ofList (tagged name draft.write)) path =
          Document.load (String.ofList (tagged name other.write)) path := by
  refine ⟨?_, ?_, ?_, ?_, ?_, ?_⟩
  · intro name plain path
    have whole : (Draft.last pieces).Proper := proper
    rw [spells]
    exact Document.load_of_read (whole.read plain) path
  · exact fun tag => ⟨rfl, content_leaf tag text⟩
  · intro tag announced
    have built := @build_string (leaf tag text) announced
    rwa [content_leaf] at built
  · have built := @build_var (leaf "var" text) rfl
    rwa [content_leaf] at built
  · intro parent path tag found
    rw [textAt, found]
    simp only [content_leaf]
  · intro draft other draftProper otherProper alike name plain path
    rw [Document.load_of_read (draftProper.read plain) path,
      Document.load_of_read (otherProper.read plain) path, alike.element]

/-- A text in pieces of every kind, with a line end that is parted between two of them. -/
def patchwork : List Piece :=
  [.literal ['<', 'a', '\r'], .literal ['\n', '>'], .data [']', '&', ']'], .comment ['-', ' '],
    .number .decimal ['0', '6', '5'] 'A', .instruction ['p', 'i'] [' ', '?'],
    .number .hexadecimal ['d'] '\r', .entity "quot" '"', .literal ['\n']]

/-- The parted line end is one line feed, and a reference to a carriage return stands for one. -/
theorem character_data_patchwork :
    (∀ piece ∈ patchwork, piece.Proper) ∧
      "<a\n>]&]A\r\"\n" = String.ofList (denoted patchwork) ∧
      Document.load
          "<x>&lt;a\r\n&gt;<![CDATA[]&]]]><!--- -->&#065;<?pi ??>&#xd;&quot;\n</x>" none =
        .ok (leaf "x" "<a\n>]&]A\r\"\n") := by
  have proper : ∀ piece ∈ patchwork, piece.Proper := by decide
  have spells : "<a\n>]&]A\r\"\n" = String.ofList (denoted patchwork) := by decide
  have written :
      "<x>&lt;a\r\n&gt;<![CDATA[]&]]]><!--- -->&#065;<?pi ??>&#xd;&quot;\n</x>" =
        String.ofList (tagged ['x'] (writePieces patchwork)) := by
    decide
  obtain ⟨loads, _⟩ := character_data proper spells
  have loaded := loads ['x'] (by decide) none
  rw [written]
  exact ⟨proper, spells, loaded⟩

end Build

end ScenarioTree
