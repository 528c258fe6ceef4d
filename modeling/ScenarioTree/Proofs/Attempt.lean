/-
This file compares calls that may be broken off with calls that cannot be. What a call finds on its
way is settled before it begins: if all elements of the failures can be written, the call returns
what it would return anyway, and otherwise it ends at the first failure whose element cannot be.
This is stated once for calls of any kind (`Goes`), with one lemma for each way of putting calls
together; the calls of a session are put together in these ways only.

An element holds the names of everything inside of it and is higher, so whatever keeps an inner
element from being written keeps the outer one from it too. That is why nothing stops a call from
being broken off.
-/

import ScenarioTree.Build.Attempt
import ScenarioTree.Proofs.Containment
import ScenarioTree.Proofs.Prefix
import ScenarioTree.Proofs.Record

namespace ScenarioTree

/-! ### Elements that can be written -/

namespace Xml.Element

/-- Whether an element can be written where there is room for so many levels. -/
structure Writable (room : Nat) (element : Element) : Prop where
  apart : ∀ name ∈ element.names, name.parts?.isSome
  height : element.height ≤ room

theorem unwritable?_eq_none_iff {room : Nat} {element : Element} :
    element.unwritable? room = none ↔ element.Writable room := by
  have apart : (element.names.any (·.parts?.isNone)) = false ↔
      ∀ name ∈ element.names, name.parts?.isSome := by
    simp [Option.isSome_iff_ne_none]
  rw [unwritable?]
  constructor
  · intro none
    split at none
    · cases none
    · next names =>
      split at none
      · cases none
      · next height => exact ⟨apart.mp (by simpa using names), Nat.not_lt.mp height⟩
  · intro writable
    rw [apart.mpr writable.apart, if_neg Bool.false_ne_true,
      if_neg (Nat.not_lt.mpr writable.height)]

instance (room : Nat) : DecidablePred (Writable room) :=
  fun _ => decidable_of_iff _ unwritable?_eq_none_iff

/-- All names in an element are names in whatever it stands in. -/
theorem names_subset_of_at? {element found : Element} {place : Place}
    (stands : element.at? place = some found) : found.names ⊆ element.names := by
  induction place generalizing element with
  | nil =>
    cases stands
    exact List.Subset.refl _
  | cons index place induction =>
    obtain ⟨child, among, stands⟩ := Option.bind_eq_some_iff.mp stands
    intro name inside
    rw [names_eq]
    exact List.mem_cons_of_mem _ (List.mem_append_right _
      (List.mem_flatMap.mpr ⟨child, List.mem_of_getElem? among, induction stands inside⟩))

theorem height_le_of_at? {element found : Element} {place : Place}
    (stands : element.at? place = some found) : found.height ≤ element.height := by
  induction place generalizing element with
  | nil =>
    cases stands
    exact Nat.le_refl _
  | cons index place induction =>
    obtain ⟨child, among, stands⟩ := Option.bind_eq_some_iff.mp stands
    exact (induction stands).trans
      (Nat.le_of_lt (height_lt_of_mem_children (List.mem_of_getElem? among)))

/-- An element can be written if one around it can. -/
theorem Writable.at? {room : Nat} {element found : Element} (writable : element.Writable room)
    {place : Place} (stands : element.at? place = some found) : found.Writable room :=
  ⟨fun name member => writable.apart name (names_subset_of_at? stands member),
    (height_le_of_at? stands).trans writable.height⟩

/-- Nothing but its height keeps an element of a document from being written. -/
theorem WellFormed.writable_iff {element : Element} (formed : element.WellFormed) {room : Nat} :
    element.Writable room ↔ element.height ≤ room := by
  refine ⟨Writable.height, fun height => ⟨fun name member => ?_, height⟩⟩
  rw [formed.comesApart name member]
  rfl

/-- Whether something in an element cannot be written for a cause. -/
def Blames (room : Nat) (element : Element) (cause : Unwritable) : Prop :=
  ∃ place inner, element.at? place = some inner ∧ inner.unwritable? room = some cause

/-- In a document only the depth is to blame. -/
theorem WellFormed.depth_of_blames {element : Element} (formed : element.WellFormed) {room : Nat}
    {cause : Unwritable} (blames : element.Blames room cause) :
    cause = .depth ∧ room < element.height := by
  obtain ⟨place, inner, stands, unwritable⟩ := blames
  have apart : (inner.names.any (·.parts?.isNone)) = false := by
    simp only [List.any_eq_false]
    intro name member
    rw [(formed.at? stands).comesApart name member]
    exact Bool.false_ne_true
  rw [unwritable?, apart, if_neg Bool.false_ne_true] at unwritable
  split at unwritable
  · next high =>
    cases unwritable
    exact ⟨rfl, high.trans_le (height_le_of_at? stands)⟩
  · cases unwritable

end Xml.Element

namespace Build

open ScenarioTree.Xml (Element Unwritable)

/-- The parts of an element can be written if it can. -/
theorem writable_of_mem_parts {room : Nat} {element : Element} {part : Part}
    (member : part ∈ (planOf element).parts) (writable : element.Writable room) :
    part.source.Writable room := by
  obtain ⟨site, rfl, inside⟩ := exists_site_of_mem_parts member
  exact writable.at? inside.found

/-- Whether the element of a failure can be written. -/
def Failure.writable (room : Nat) (failure : Failure) : Bool :=
  decide (failure.element.Writable room)

theorem Failure.writable_iff {room : Nat} {failure : Failure} :
    failure.writable room ↔ failure.element.Writable room :=
  decide_eq_true_iff

/-- Either all failures can be written or one of them cannot. -/
theorem writable_or_not (room : Nat) (failures : List Failure) :
    (∀ failure ∈ failures, failure.writable room) ∨
      ∃ failure ∈ failures, failure.writable room = false := by
  rw [or_iff_not_imp_right]
  intro none failure member
  by_contra bad
  exact none ⟨failure, member, by simpa using bad⟩

theorem not_exists_unwritable {room : Nat} {failures : List Failure}
    (good : ∀ failure ∈ failures, failure.writable room) :
    ¬ ∃ failure ∈ failures, failure.writable room = false := by
  rintro ⟨failure, member, bad⟩
  rw [good failure member] at bad
  cases bad

/-! ### What a call comes to -/

/-- The session after a call that was broken off: the failures before the first that could not be
written are noted, and alarms were given. -/
def Session.brokenOff (room : Nat) (session : Session) (failures : List Failure)
    (given : List Element) : Session :=
  (session.noting (failures.takeWhile (·.writable room))).alarming given

/-- A call that finds some failures. If all of them can be written it returns a value and notes
them; otherwise it is broken off, for a cause that something is to blame for. Neither the cause nor
the alarms depend on the session. -/
structure Goes {α : Type} (room : Nat) (failures : List Failure) (value : α)
    (blames : Unwritable → Prop) (call : Session → Attempt α) : Prop where
  returns : (∀ failure ∈ failures, failure.writable room) →
    ∀ session, call session = (.ok value, session.noting failures)
  breaks : (∃ failure ∈ failures, failure.writable room = false) →
    ∃ cause given, blames cause ∧
      ∀ session : Session, call session = (.error cause, session.brokenOff room failures given)

namespace Goes

variable {α β : Type} {room : Nat} {failures early late : List Failure} {value : α} {other : β}
  {blames blamesNext : Unwritable → Prop} {call : Session → Attempt α}

/-- A call that does nothing. -/
theorem still (room : Nat) (value : α) (blames : Unwritable → Prop) :
    Goes room [] value blames fun session => (.ok value, session) :=
  ⟨fun _ _ => rfl, fun ⟨_, member, _⟩ => by cases member⟩

theorem weaken (goes : Goes room failures value blames call)
    (blamed : ∀ cause, blames cause → blamesNext cause) :
    Goes room failures value blamesNext call := by
  refine ⟨goes.returns, fun bad => ?_⟩
  obtain ⟨cause, given, blame, broken⟩ := goes.breaks bad
  exact ⟨cause, given, blamed cause blame, broken⟩

theorem map (goes : Goes room failures value blames call) (change : α → β) :
    Goes room failures (change value) blames fun session => (call session).map change := by
  refine ⟨fun good session => ?_, fun bad => ?_⟩
  · rw [goes.returns good, Attempt.map]
    rfl
  · obtain ⟨cause, given, blame, broken⟩ := goes.breaks bad
    refine ⟨cause, given, blame, fun session => ?_⟩
    rw [broken, Attempt.map]
    rfl

theorem takeWhile_append_of_bad (bad : ∃ failure ∈ early, failure.writable room = false) :
    (early ++ late).takeWhile (·.writable room) = early.takeWhile (·.writable room) := by
  rw [List.takeWhile_append]
  refine if_neg fun whole => not_exists_unwritable ?_ bad
  exact List.takeWhile_eq_self_iff.mp ((List.takeWhile_prefix _).eq_of_length whole)

/-- A call with more to do after it: what comes after is reached only if everything so far could be
written, and then from the session that has noted it. -/
theorem andThen (goes : Goes room early value blames call) (next : α → Session → Attempt β)
    (goesNext : Goes room late other blamesNext (next value)) :
    Goes room (early ++ late) other (fun cause => blames cause ∨ blamesNext cause)
      fun session => (call session).andThen next := by
  rcases writable_or_not room early with good | bad
  · have first (session : Session) :
        (call session).andThen next = next value (session.noting early) := by
      rw [goes.returns good]
      rfl
    refine ⟨fun all session => ?_, fun bad => ?_⟩
    · rw [first, Session.noting_append]
      exact goesNext.returns (fun failure member => all failure (List.mem_append_right _ member)) _
    · have badNext : ∃ failure ∈ late, failure.writable room = false := by
        obtain ⟨failure, member, bad⟩ := bad
        rcases List.mem_append.mp member with member | member
        · exact absurd ⟨failure, member, bad⟩ (not_exists_unwritable good)
        · exact ⟨failure, member, bad⟩
      obtain ⟨cause, given, blame, broken⟩ := goesNext.breaks badNext
      refine ⟨cause, given, .inr blame, fun session => ?_⟩
      rw [first, broken, Session.brokenOff, Session.brokenOff, List.takeWhile_append_of_pos good,
        Session.noting_append]
  · refine ⟨fun all => ?_, fun _ => ?_⟩
    · refine absurd bad (not_exists_unwritable fun failure member => ?_)
      exact all failure (List.mem_append_left _ member)
    · obtain ⟨cause, given, blame, broken⟩ := goes.breaks bad
      refine ⟨cause, given, .inl blame, fun session => ?_⟩
      rw [broken, Attempt.andThen, Session.brokenOff, Session.brokenOff,
        takeWhile_append_of_bad bad]

/-- A call for an element that cannot be written if the call is broken off. -/
theorem orGiveUp (goes : Goes room failures value blames call) (element : Element)
    (kept : ∀ cause, blames cause → ¬ element.Writable room) :
    Goes room failures value (element.unwritable? room = some ·)
      fun session => (call session).orGiveUp room element := by
  refine ⟨fun good session => ?_, fun bad => ?_⟩
  · rw [goes.returns good]
    rfl
  · obtain ⟨inner, given, blame, broken⟩ := goes.breaks bad
    cases own : element.unwritable? room with
    | none => exact absurd (Element.unwritable?_eq_none_iff.mp own) (kept inner blame)
    | some cause =>
      refine ⟨cause, given ++ [element], rfl, fun session => ?_⟩
      rw [broken, Attempt.orGiveUp, own, Option.getD_some]
      simp only [Session.brokenOff, Session.alarming, List.map_append, List.append_assoc]

end Goes

/-! ### The calls of a session -/

/-- A failure is noted if it can be written. -/
theorem goes_tryNote (room : Nat) (failure : Failure) :
    Goes room [failure] () (failure.element.unwritable? room = some ·)
      fun session => session.tryNote room failure := by
  cases own : failure.element.unwritable? room with
  | none =>
    have good : ∀ other ∈ [failure], other.writable room := by
      simpa [Failure.writable_iff] using Element.unwritable?_eq_none_iff.mp own
    refine ⟨fun _ session => ?_, fun bad => absurd bad (not_exists_unwritable good)⟩
    rw [Session.tryNote, own]
    rfl
  | some cause =>
    have bad : failure.writable room = false := by
      simp [Failure.writable, ← Element.unwritable?_eq_none_iff, own]
    refine ⟨fun all => ?_, fun _ => ⟨cause, if failure.unexpected then [failure.element] else [],
      rfl, fun session => ?_⟩⟩
    · rw [all failure List.mem_cons_self] at bad
      cases bad
    · rw [Session.tryNote, own, Session.brokenOff, List.takeWhile_cons, bad]
      rfl

section

variable {room : Nat} {visit : Session → Element → Attempt (Except Failure Node)}
  {outcome : Element → Outcome}
  (visits : ∀ element, Goes room (outcome element).failures (outcome element).result
    (element.unwritable? room = some ·) fun session => visit session element)

include visits

theorem goes_tryPart (part : Part) :
    Goes room (part.build fun element => (outcome element).yield).failures
      (part.build fun element => (outcome element).yield).slot
      (part.source.unwritable? room = some ·) fun session => session.tryPart room visit part := by
  cases part with
  | element found =>
    have goes := (visits found).map Except.toOption
    rw [← Outcome.slot_eq_toOption] at goes
    exact goes
  | vacant holder => exact (goes_tryNote room ⟨holder, _⟩).map fun _ => none

/-- Parts one after another: what can break the call off is a part that cannot be written. -/
theorem goes_tryParts (parts : List Part) :
    let yields := parts.map (Part.build fun element => (outcome element).yield)
    Goes room (yields.flatMap Yield.failures) (yields.map Yield.slot)
      (fun cause => ∃ part ∈ parts, part.source.unwritable? room = some cause)
      fun session => session.tryParts room visit parts := by
  induction parts with
  | nil => exact .still room [] _
  | cons part rest induction =>
    have goes := (goes_tryPart visits part).andThen
      (fun slot next => (next.tryParts room visit rest).map (slot :: ·))
      (induction.map ((part.build fun element => (outcome element).yield).slot :: ·))
    refine goes.weaken fun cause blame => ?_
    rcases blame with blame | ⟨other, member, blame⟩
    · exact ⟨part, List.mem_cons_self, blame⟩
    · exact ⟨other, List.mem_cons_of_mem _ member, blame⟩

end

theorem goes_tryConclude (room : Nat) (element : Element) (result : Except Cause Node) :
    Goes room (Outcome.ofRun element ⟨[], result⟩).failures (result.mapError (⟨element, ·⟩))
      (element.unwritable? room = some ·)
      fun session => session.tryConclude room element result := by
  cases result with
  | ok node => exact .still room _ _
  | error cause =>
    let failure : Failure := ⟨element, cause⟩
    exact (goes_tryNote room failure).map fun _ => Except.error failure

theorem Outcome.failures_ofRun (element : Element) (run : Run Node) :
    (Outcome.ofRun element run).failures =
      run.failures ++ (Outcome.ofRun element ⟨[], run.result⟩).failures := by
  obtain ⟨failures, result⟩ := run
  cases result with
  | ok node => exact (List.append_nil _).symm
  | error cause => rfl

/-- An element whose parts are built like this is built like this. -/
theorem goes_tryWithin (room depth : Nat) (element : Element) :
    Goes room (buildWithin depth element).failures (buildWithin depth element).result
      (element.unwritable? room = some ·)
      fun session => Session.tryWithin room depth session element := by
  induction depth generalizing element with
  | zero => exact goes_tryConclude room element (.error (.unknownKind element.tag))
  | succ depth induction =>
    have parts := goes_tryParts induction (planOf element).parts
    -- a part that cannot be written is one more reason why the element cannot be
    have tried := parts.orGiveUp element fun cause ⟨part, member, blame⟩ writable => by
      rw [Element.unwritable?_eq_none_iff.mpr (writable_of_mem_parts member writable)] at blame
      cases blame
    have whole := tried.andThen
      (fun slots after =>
        after.tryConclude room element ((planOf element).result.map fun make => make slots))
      (goes_tryConclude room element _)
    rw [buildWithin, Outcome.failures_ofRun]
    exact whole.weaken fun cause blame => blame.elim id id

theorem goes_tryBuild (room : Nat) (element : Element) :
    Goes room (build element).failures (build element).result (element.unwritable? room = some ·)
      fun session => session.tryBuild room element :=
  goes_tryWithin room element.height element

theorem goes_tryNode (room : Nat) (element : Element) :
    Goes room (build element).failures (build element).slot (element.unwritable? room = some ·)
      fun session => session.tryNode room element := by
  rw [Outcome.slot_eq_toOption]
  exact (goes_tryBuild room element).map Except.toOption

theorem goes_tryNodes (room : Nat) (elements : List Element) :
    Goes room (buildAll elements).failures (buildAll elements).slots
      (fun cause => ∃ element ∈ elements, element.unwritable? room = some cause)
      fun session => session.tryNodes room elements := by
  have goes := goes_tryParts (goes_tryBuild room) (elements.map .element)
  simp only [List.map_map, List.flatMap_map] at goes
  simp only [buildAll, List.map_map, List.flatMap_map]
  refine goes.weaken fun cause blame => ?_
  obtain ⟨part, member, blame⟩ := blame
  obtain ⟨element, among, rfl⟩ := List.mem_map.mp member
  exact ⟨element, among, blame⟩

theorem goes_tryCarryOut {α : Type} (room : Nat) (plan : Plan α) :
    Goes room (carryOut plan).failures (carryOut plan).result
      (fun cause => ∃ part ∈ plan.parts, part.source.unwritable? room = some cause)
      fun session => session.tryCarryOut room plan :=
  (goes_tryParts (goes_tryBuild room) plan.parts).map
    fun slots : List Slot => plan.result.map fun make : List Slot → α => make slots

/-! ### Failure is local where everything can be written -/

/-- In every session the call to build an element returns exactly if the elements of all failures on
the way can be written. The element is built as ever then: it fails exactly when it has a defect,
and for such a defect; else it becomes the node that its rule describes, with a gap for each part
that fails on its own. Otherwise the call is broken off, since the element itself cannot be written,
and the failures before the first that could not be are noted. -/
theorem failure_local_or_broken_off (room : Nat) (session : Session) (element : Element) :
    ((∃ result, (session.tryBuild room element).1 = .ok result) ↔
      ∀ failure ∈ (build element).failures, failure.element.Writable room) ∧
    match session.tryBuild room element with
    | (.ok result, after) =>
      session.build element = (result, after) ∧
      ((∃ failure, result = .error failure) ↔ ∃ cause, Defect element cause) ∧
      (match result with
      | .error failure => failure.element = element ∧ Defect element failure.cause
      | .ok node => ∀ other : Session, ∃ kind, Kind.ofTag? element.tag = some kind ∧
          Made (fun part => (other.build part).1.toOption) element kind node)
    | (.error cause, after) =>
      element.unwritable? room = some cause ∧
        ∃ given, after = session.brokenOff room (build element).failures given := by
  have goes := goes_tryBuild room element
  rcases writable_or_not room (build element).failures with good | bad
  · rw [goes.returns good]
    have locally := failure_local session element
    rw [Session.build_eq] at locally
    exact ⟨⟨fun _ failure member => Failure.writable_iff.mp (good failure member),
      fun _ => ⟨_, rfl⟩⟩, Session.build_eq session element, locally⟩
  · obtain ⟨cause, given, blame, broken⟩ := goes.breaks bad
    rw [broken]
    refine ⟨⟨fun ⟨_, returned⟩ => (nomatch returned), fun all => ?_⟩, blame, given, rfl⟩
    refine absurd bad (not_exists_unwritable fun failure member => ?_)
    exact Failure.writable_iff.mpr (all failure member)

/-- What fails inside of an element can be written if the element can. -/
theorem writable_of_mem_failures {room : Nat} {element : Element}
    (writable : element.Writable room) :
    ∀ failure ∈ (build element).failures, failure.writable room := by
  intro failure member
  rw [← map_snd_record] at member
  obtain ⟨entry, recorded, rfl⟩ := List.mem_map.mp member
  exact Failure.writable_iff.mpr (writable.at? (at?_of_mem_record recorded))

/-- In every session an element of a document is built as ever if there is room for its levels. -/
theorem tryBuild_of_loaded {source : String} {path : Option String} {root element : Element}
    (loaded : Document.load source path = .ok root) {place : Xml.Place}
    (stands : root.at? place = some element) {room : Nat} (height : element.height ≤ room)
    (session : Session) :
    session.tryBuild room element =
      (.ok (session.build element).1, (session.build element).2) := by
  have formed := (Xml.wellFormed_of_read (Xml.ok_of_mapError loaded)).at? stands
  have writable : element.Writable room := formed.writable_iff.mpr height
  rw [(goes_tryBuild room element).returns (writable_of_mem_failures writable),
    Session.build_eq]

/-- An element whose own name cannot be taken apart has no rule, so it can neither be built nor be
reported: the call is broken off, and nothing is noted. -/
theorem broken_off_of_name (room : Nat) (session : Session) {element : Element}
    (improper : element.name.parts? = none) :
    (session.tryBuild room element).1 = .error .name ∧
      (session.tryBuild room element).2.failures = session.failures := by
  have begun : element.tag.toList.head? = some '\x7b' := by
    rw [Xml.Name.parts?] at improper
    rw [Element.tag]
    split at improper
    · next same => rw [same]; rfl
    · cases improper
  have unknown : Kind.ofTag? element.tag = none := by
    have other : ∀ entry ∈ Kind.tags, entry.1.toList.head? ≠ some '\x7b' := by decide
    refine List.lookup_eq_none_iff.mpr fun entry member => ?_
    rw [bne_iff_ne]
    rintro same
    exact other entry member (same ▸ begun)
  have alone : (build element).failures = [⟨element, .unknownKind element.tag⟩] := by
    rw [build_eq, planOf, unknown]
    rfl
  have named : element.unwritable? room = some .name := by
    have inside : element.names.any (·.parts?.isNone) := by
      rw [Element.names_eq, List.any_cons, improper]
      rfl
    rw [Element.unwritable?, if_pos inside]
  have bad : Failure.writable room ⟨element, .unknownKind element.tag⟩ = false := by
    rw [Failure.writable, decide_eq_false_iff_not, ← Element.unwritable?_eq_none_iff, named]
    exact Option.some_ne_none _
  have goes := goes_tryBuild room element
  rw [alone] at goes
  obtain ⟨cause, given, blame, broken⟩ := goes.breaks ⟨_, List.mem_cons_self, bad⟩
  cases named.symm.trans blame
  rw [broken, Session.brokenOff, List.takeWhile_cons, bad]
  exact ⟨rfl, rfl⟩

example (room : Nat) (session : Session) :
    (session.tryBuild room ⟨⟨"", "\x7bx"⟩, [], .empty, [], .empty⟩).1 = .error .name := by
  rfl

end Build

end ScenarioTree
