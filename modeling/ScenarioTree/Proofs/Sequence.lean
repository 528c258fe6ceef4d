/-
This file follows sequences back to the document. Every sequence of a node stands for the matches of
one path: it has an entry for each of them, in document order, and the entry is what building the
match alone comes to, in a session that knows nothing else. Some matches are only wrappers; then the
element they hold is built in their place, and one that holds none counts as a failure of its own.

The failures of the element are those of its entries, one after another in the same order. Only a
condition comes before them.
-/

import ScenarioTree.Proofs.Image
import ScenarioTree.Proofs.Record

namespace ScenarioTree.Build

open ScenarioTree.Xml (Element Path)

/-! ### Sequences and where they come from -/

/-- How a match becomes an entry: it is built itself, or what it holds is built, or what it holds is
built and put under its tag. -/
inductive Manner where
  | whole
  | held
  | named (make : String → Slot → Node)

/-- What a wrapper yields when `build` says what elements do: its first child, or a failure. -/
def heldYield (build : Element → Yield) (wrapper : Element) : Yield :=
  match wrapper.children with
  | [] => ⟨none, [⟨wrapper, .missingElementChild wrapper.tag⟩]⟩
  | first :: _ => build first

/-- What a match yields as an entry. -/
def Manner.yield (build : Element → Yield) (found : Element) : Manner → Yield
  | whole => build found
  | held => heldYield build found
  | named make =>
    ⟨some (make found.tag (heldYield build found).slot), (heldYield build found).failures⟩

/-- A sequence of a node: its entries, the path to what they stand for, and how that becomes an
entry. -/
structure Sequence where
  entries : List Slot
  path : Path
  manner : Manner := .whole

/-- The sequences of a node, in the order in which they are built. -/
def sequencesOf : Node → List Sequence
  | .list items => [⟨items, ["item"], .held⟩]
  | .dict items => [⟨items, ["*"], .named .property⟩]
  | .template chunks => [⟨chunks, ["*"], .whole⟩]
  | .call _ arguments => [⟨arguments, ["arguments", "*"], .named .argument⟩]
  | .conditional _ thenBody elseBody =>
    [⟨thenBody, ["then", "*"], .whole⟩, ⟨elseBody, ["else", "*"], .whole⟩]
  | .loop _ body => [⟨body, ["body", "*"], .whole⟩]
  | .actionword _ tags parameters body | .scenario _ _ tags parameters body =>
    [⟨tags, ["tags", "tag"], .whole⟩, ⟨parameters, ["parameters", "parameter"], .whole⟩,
      ⟨body, ["steps", "*"], .whole⟩]
  | .actionwords items => [⟨items, ["actionword"], .whole⟩]
  | .scenarios items => [⟨items, ["scenario"], .whole⟩]
  | _ => []

/-- The path to what is built before the sequences of a node. -/
def conditionOf : Node → Option Path
  | .conditional _ _ _ | .loop _ _ => some ["condition", "*"]
  | _ => none

/-- What building an element alone yields: its slot, and the failures that are left behind. -/
def Session.alone (fresh : Session) (element : Element) : Yield :=
  ⟨(fresh.build element).1.toOption, (fresh.build element).2.failures⟩

/-- A sequence that follows the document: its matches are listed in document order, each of them
stands at its place, they are the elements that the path selects, and each has its entry. -/
structure Sequence.Follows (sequence : Sequence) (alone : Element → Yield) (element : Element) :
    Prop where
  ordered : (element.placed sequence.path).Pairwise fun first second => first.1 < second.1
  stands : ∀ found ∈ element.placed sequence.path, element.at? found.1 = some found.2
  selected : (element.placed sequence.path).map Prod.snd = element.select sequence.path
  entries : sequence.entries =
    (element.select sequence.path).map fun found => (sequence.manner.yield alone found).slot

/-! ### Entries -/

theorem Session.alone_start (root : Element) (verbose : Bool) (path : Option String) :
    (Session.start root verbose path).alone = fun element => (Build.build element).yield := by
  funext element
  rw [Session.alone, Session.build_eq, Session.noting_failures, ← Outcome.slot_eq_toOption]
  rfl

theorem heldYield_eq (build : Element → Yield) (wrapper : Element) :
    heldYield build wrapper = (Part.within wrapper).build build := by
  rw [heldYield, Part.within, Element.firstChild?]
  cases wrapper.children <;> rfl

theorem heldYield_slot (wrapper : Element) :
    (heldYield (fun found => (build found).yield) wrapper).slot = heldSlot slotOf wrapper := by
  rw [heldYield_eq, Part.build_within_slot]
  rfl

/-- Every sequence of a node that was made follows the document. -/
theorem Made.follows {element : Element} {kind : Kind} {node : Node}
    (made : Made slotOf element kind node) {sequence : Sequence}
    (member : sequence ∈ sequencesOf node) :
    sequence.Follows (fun found => (build found).yield) element := by
  refine ⟨element.pairwise_placed _, fun _ => Element.at?_of_mem_placed,
    element.map_snd_placed _, ?_⟩
  cases made with
  | list | dict | call =>
    obtain rfl := List.mem_singleton.mp member
    simp only [Manner.yield, heldYield_slot]
  | template | loop | actionwords | scenarios =>
    obtain rfl := List.mem_singleton.mp member
    rfl
  | conditional =>
    simp only [sequencesOf, List.mem_cons, List.not_mem_nil, or_false] at member
    rcases member with rfl | rfl
    all_goals rfl
  | actionword | scenario =>
    simp only [sequencesOf, List.mem_cons, List.not_mem_nil, or_false] at member
    rcases member with rfl | rfl | rfl
    all_goals rfl
  | _ => cases member

/-! ### Failures -/

/-- The failures of an element that is built are those of what its rule asks for, in order. -/
theorem failures_of_made {element : Element} {kind : Kind} {node : Node}
    (announced : Kind.ofTag? element.tag = some kind)
    (built : (build element).result = .ok node) :
    (build element).failures =
      ((kind.requests element).flatMap fun request => (request.sites element).map Site.part).flatMap
        fun part => (part.build fun found => (build found).yield).failures := by
  rw [failures_eq, reached_of_ok built, ownFailure_of_ok built, sitesOf_eq announced,
    ← Kind.map_part_sites, List.flatMap_map, List.map_nil, List.append_nil]

/-- The failures of all entries of a sequence, one after another. -/
def Sequence.failures (sequence : Sequence) (alone : Element → Yield) (element : Element) :
    List Failure :=
  (element.select sequence.path).flatMap fun found => (sequence.manner.yield alone found).failures

/-- The failures of the condition that a node begins with, if it has one. -/
def conditionFailures (node : Node) (alone : Element → Yield) (element : Element) :
    List Failure :=
  match (conditionOf node).bind element.selectFirst? with
  | some condition => (alone condition).failures
  | none => []

/-- Where a node has sequences, its failures are those of its condition and of its sequences. -/
theorem Made.failures_eq {element : Element} {kind : Kind} {node : Node}
    (made : Made slotOf element kind node) (sequences : sequencesOf node ≠ []) :
    ((kind.requests element).flatMap fun request => (request.sites element).map Site.part).flatMap
        (fun part => (part.build fun found => (build found).yield).failures) =
      conditionFailures node (fun found => (build found).yield) element ++
        (sequencesOf node).flatMap fun sequence =>
          sequence.failures (fun found => (build found).yield) element := by
  cases made with
  | list | dict | call | template | actionwords | scenarios | actionword | scenario =>
    simp [Kind.requests, conditionFailures, conditionOf, sequencesOf, Sequence.failures,
      Manner.yield, heldYield_eq, List.flatMap_map, Part.build]
  | conditional conditionFound | loop conditionFound =>
    simp [Kind.requests, conditionFailures, conditionOf, sequencesOf, Sequence.failures,
      Manner.yield, conditionFound, List.flatMap_map, Part.build]
  | _ => exact absurd rfl sequences

/-- Whatever a session has been through, the sequences of what it builds follow the document entry
by entry, as though every entry were built in a session of its own; and where there are sequences,
their failures are all that the session gains, but for those of a condition. -/
theorem sequences_follow (session : Session) (root : Element) (verbose : Bool)
    (path : Option String) {element : Element} {node : Node}
    (built : (session.build element).1 = .ok node) :
    let alone := (Session.start root verbose path).alone
    (∀ sequence ∈ sequencesOf node, sequence.Follows alone element) ∧
      (sequencesOf node ≠ [] →
        (session.build element).2.failures = session.failures ++
          (conditionFailures node alone element ++
            (sequencesOf node).flatMap fun sequence => sequence.failures alone element)) := by
  rw [Session.build_eq] at built ⊢
  obtain ⟨kind, announced, made⟩ := build_ok_iff.mp built
  simp only [Session.alone_start]
  refine ⟨fun sequence member => made.follows member, fun sequences => ?_⟩
  rw [Session.noting_failures, failures_of_made announced built, made.failures_eq sequences]

/-- A call with its arguments in two sections; one wrapper is empty, and one holds what cannot be
built. -/
def splitCall : Element :=
  .branch "call"
    [.branch "arguments" [.branch "first" [.leaf "var" "x"], .branch "second" []],
      .leaf "actionword" "go", .branch "arguments" [.branch "third" [.leaf "other" ""]]]

/-- The arguments of that call. -/
def splitArguments : List Slot :=
  [some (.argument "first" (some (.var "x"))), some (.argument "second" none),
    some (.argument "third" none)]

theorem sequences_follow_split :
    ((Session.start splitCall true none).build splitCall).1 = .ok (.call "go" splitArguments) ∧
      Sequence.Follows ⟨splitArguments, ["arguments", "*"], .named .argument⟩
        (Session.start splitCall false none).alone splitCall ∧
      ((Session.start splitCall true none).build splitCall).2.failures =
        [⟨.branch "second" [], .missingElementChild "second"⟩,
          ⟨.leaf "other" "", .unknownKind "other"⟩] := by
  have built : ((Session.start splitCall true none).build splitCall).1 =
      .ok (.call "go" splitArguments) := rfl
  obtain ⟨follow, gained⟩ := sequences_follow _ splitCall false none built
  refine ⟨built, follow _ (List.mem_singleton_self _), ?_⟩
  rw [gained (List.cons_ne_nil _ _)]
  rfl

end ScenarioTree.Build
