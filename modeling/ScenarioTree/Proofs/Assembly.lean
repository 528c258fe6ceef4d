/-
This file says when a project is put together and what a session has to do with it. Whether there is
a project is decided by the document: its first project element has to have four children, and the
first of them that is missing is what the problem names. What the sections hold decides nothing.

A session forgets its failures before it begins and looks at nothing else that it remembers, so
after any history the call does what it does in a new session; its log alone goes on where it was.
When there is no project, forgetting is all that happens.

One thing can come between: the project element of a document that is refused, and the element of
every failure, has to be written. If one of them cannot be, the call is broken off, and that again
in the same way in every session.
-/

import ScenarioTree.Build.Source
import ScenarioTree.Proofs.Accounting
import ScenarioTree.Proofs.Attempt

namespace ScenarioTree.Build

open ScenarioTree.Xml (Element Place)

/-! ### Documents without a project -/

/-- The children that a project must have, in the order in which they are looked for. -/
def sectionNames : List String :=
  ["name", "description", "scenarios", "actionwords"]

/-- Whether an element has a child with a tag. -/
def HasChild (element : Element) (tag : String) : Prop :=
  ∃ child ∈ element.children, child.tag = tag

/-- The problem of a document from which no project can be put together. -/
inductive Refused (root : Element) (path : Option String) : Problem → Prop where
  | noProject (absent : ∀ place found, root.at? place = some found → found.tag ≠ "project") :
      Refused root path ⟨.projectStructure, "Document has no <project> element", none, path⟩
  | noSection {project : Element} {missing : String} {earlier later : List String}
      (first : root.First "project" project)
      (order : sectionNames = earlier ++ missing :: later)
      (present : ∀ name ∈ earlier, HasChild project name)
      (absent : ¬ HasChild project missing) :
      Refused root path
        ⟨.projectStructure, "<project> has no <" ++ missing ++ "> section", some project.raw, path⟩

/-! ### Looking for sections -/

theorem selectFirst?_singleton_eq_none_iff {element : Element} {name : String}
    (other : name ≠ "*") : element.selectFirst? [name] = none ↔ ¬ HasChild element name := by
  simp [selectFirst?_eq_none_iff, Element.select, Element.answers, HasChild, other]

theorem exists_sectionOf {project : Element} {name : String} (other : name ≠ "*")
    (present : HasChild project name) : ∃ found, sectionOf project name = .ok found := by
  cases search : project.selectFirst? [name] with
  | none => exact absurd present ((selectFirst?_singleton_eq_none_iff other).mp search)
  | some found => exact ⟨found, sectionOf_ok_iff.mpr search⟩

theorem sectionOf_eq_error {project : Element} {name : String} (other : name ≠ "*")
    (absent : ¬ HasChild project name) :
    sectionOf project name = .error (.noSection project name) := by
  rw [sectionOf, (selectFirst?_singleton_eq_none_iff other).mpr absent]

/-- The sections of a project element, looked for one after another. -/
theorem Sections.find_eq {root project : Element} (first : root.First "project" project) :
    Sections.find root =
      (sectionOf project "name").bind fun name =>
        (sectionOf project "description").bind fun description =>
          (sectionOf project "scenarios").bind fun scenarios =>
            (sectionOf project "actionwords").bind fun actionwords =>
              .ok ⟨name, description, scenarios, actionwords⟩ := by
  have within : Document.findProject? root = some project := Element.find?_eq_some_iff.mpr first
  rw [Sections.find, within]
  rfl

/-- If the search ends at a section or behind it, either the section is the first that is missing,
or it is there and the search ends behind it. -/
theorem refused_or_behind {root project : Element} {name : String} {earlier later : List String}
    {next : Element → Except StructureFault Sections} {fault : StructureFault}
    (path : Option String) (first : root.First "project" project)
    (order : sectionNames = earlier ++ name :: later)
    (present : ∀ other ∈ earlier, HasChild project other)
    (failed : (sectionOf project name).bind next = .error fault) :
    Refused root path (fault.problem path) ∨
      (∀ other ∈ earlier ++ [name], HasChild project other) ∧
        ∃ found, next found = .error fault := by
  have proper : name ≠ "*" := by
    rintro rfl
    exact absurd (order ▸ List.mem_append_right earlier List.mem_cons_self) (by decide)
  by_cases there : HasChild project name
  · obtain ⟨found, search⟩ := exists_sectionOf proper there
    rw [search] at failed
    refine .inr ⟨fun other member => ?_, found, failed⟩
    rcases List.mem_append.mp member with member | member
    · exact present other member
    · exact List.mem_singleton.mp member ▸ there
  · rw [sectionOf_eq_error proper there] at failed
    cases failed
    exact .inl (.noSection first order present there)

/-- A search that fails has a problem of the document to show. -/
theorem refused_of_find {root : Element} {fault : StructureFault} (path : Option String)
    (failed : Sections.find root = .error fault) : Refused root path (fault.problem path) := by
  cases within : Document.findProject? root with
  | none =>
    rw [Sections.find, within] at failed
    cases failed
    exact .noProject fun place found stands => Element.tag_ne_of_find?_eq_none within place stands
  | some project =>
    have first := Element.first_of_find? within
    rw [Sections.find_eq first] at failed
    have none : ∀ other ∈ ([] : List String), HasChild project other := by simp
    rcases refused_or_behind path first rfl none failed with refused | ⟨present, _, failed⟩
    · exact refused
    rcases refused_or_behind path first rfl present failed with refused | ⟨present, _, failed⟩
    · exact refused
    rcases refused_or_behind path first rfl present failed with refused | ⟨present, _, failed⟩
    · exact refused
    rcases refused_or_behind path first rfl present failed with refused | ⟨_, _, failed⟩
    · exact refused
    cases failed

/-- A document with such a problem makes the search fail, with that problem. -/
theorem find_of_refused {root : Element} {path : Option String} {problem : Problem}
    (refused : Refused root path problem) :
    ∃ fault, Sections.find root = .error fault ∧ fault.problem path = problem := by
  cases refused with
  | noProject absent =>
    have within : Document.findProject? root = none := by
      refine Option.eq_none_iff_forall_not_mem.mpr fun project found => ?_
      have first := Element.first_of_find? found
      obtain ⟨place, stands, _⟩ := first.stands
      exact absent place project stands first.tagged
    exact ⟨.noProject, by rw [Sections.find, within], rfl⟩
  | @noSection project missing earlier later first order present absent =>
    refine ⟨.noSection project missing, ?_, rfl⟩
    rw [Sections.find_eq first]
    have found (name : String) (proper : name ≠ "*") (member : name ∈ earlier) :
        ∃ found, sectionOf project name = .ok found :=
      exists_sectionOf proper (present name member)
    simp only [sectionNames, List.cons_eq_append_iff, List.nil_eq_append_iff, List.cons.injEq]
      at order
    rcases order with ⟨rfl, rfl, rfl⟩ | ⟨_, rfl, ⟨rfl, rfl, rfl⟩ | ⟨_, rfl, ⟨rfl, rfl, rfl⟩ |
      ⟨_, rfl, ⟨rfl, rfl, rfl⟩ | ⟨_, rfl, _, missing⟩⟩⟩⟩
    · rw [sectionOf_eq_error (by decide) absent]
      rfl
    · obtain ⟨name, named⟩ := found "name" (by decide) (by simp)
      rw [named, Except.bind, sectionOf_eq_error (by decide) absent]
      rfl
    · obtain ⟨name, named⟩ := found "name" (by decide) (by simp)
      obtain ⟨description, described⟩ := found "description" (by decide) (by simp)
      rw [named, Except.bind, described, Except.bind, sectionOf_eq_error (by decide) absent]
      rfl
    · obtain ⟨name, named⟩ := found "name" (by decide) (by simp)
      obtain ⟨description, described⟩ := found "description" (by decide) (by simp)
      obtain ⟨scenarios, tested⟩ := found "scenarios" (by decide) (by simp)
      rw [named, Except.bind, described, Except.bind, tested, Except.bind,
        sectionOf_eq_error (by decide) absent]
      rfl
    · cases missing

/-! ### Projects in a session -/

namespace Session

theorem assemble_of_error {session : Session} {fault : StructureFault}
    (failed : Sections.find session.root = .error fault) :
    session.assemble = (.error fault, session.cleared) := by
  rw [assemble, failed]

/-- A project that is put together in a session: the failures are new, the log goes on. -/
theorem assemble_of_ok {session : Session} {assembly : Assembly}
    (assembled : Build.assemble session.root = .ok assembly) :
    session.assemble =
      (.ok assembly.project,
        { session with
          project := some assembly.project
          failures := assembly.failures
          diagnostics := assembly.failures.filter (·.reported session.verbose)
          log := session.log ++ assembly.records session.verbose }) := by
  rw [assemble_eq, assembled]
  simp only [finished, noting_eq, cleared, List.nil_append, Assembly.records, List.append_assoc]

/-- Whether a session gets as far as building is decided by its document. -/
theorem assembled_of_find {session : Session} {sections : Sections}
    (found : Sections.find session.root = .ok sections) :
    ∃ assembly, Build.assemble session.root = .ok assembly := by
  rw [Build.assemble, found]
  exact ⟨_, rfl⟩

/-- A session fails to put its project together exactly when the document is refused. -/
theorem assemble_error_iff {session : Session} {path : Option String} {problem : Problem} :
    session.assemble.1.mapError (·.problem path) = .error problem ↔
      Refused session.root path problem := by
  constructor
  · intro failed
    cases search : Sections.find session.root with
    | error fault =>
      rw [assemble_of_error search] at failed
      cases failed
      exact refused_of_find path search
    | ok sections =>
      obtain ⟨assembly, assembled⟩ := assembled_of_find search
      rw [assemble_of_ok assembled] at failed
      cases failed
  · intro refused
    obtain ⟨fault, failed, same⟩ := find_of_refused refused
    rw [assemble_of_error failed]
    exact congrArg Except.error same

/-! ### Histories on one document -/

/-- Whether an operation stays on the document of the session. -/
def Operation.Stays : Operation → Prop
  | .on _ => False
  | _ => True

/-- What may be done in a session on its document. -/
abbrev Call := {operation : Operation // operation.Stays}

/-- The session after several calls. -/
def through (session : Session) (history : List Call) : Session :=
  session.run (history.map Subtype.val)

/-- A session with all that it remembers taken away. -/
def forgotten (session : Session) : Session :=
  start session.root session.verbose session.path

theorem forgotten_noting (session : Session) (failures : List Failure) :
    (session.noting failures).forgotten = session.forgotten := by
  rw [noting_eq]
  rfl

theorem forgotten_after (session : Session) (call : Call) :
    (session.after call.1).forgotten = session.forgotten := by
  obtain ⟨operation, stays⟩ := call
  cases operation with
  | build element => rw [after, build_eq, forgotten_noting]
  | node element => rw [after, node_eq, forgotten_noting]
  | nodes elements => rw [after, nodes_eq, forgotten_noting]
  | carryOut plan => rw [after, carryOut_eq, forgotten_noting]
  | assemble =>
    rw [after]
    cases search : Sections.find session.root with
    | error fault =>
      rw [assemble_of_error search]
      rfl
    | ok sections =>
      obtain ⟨assembly, assembled⟩ := assembled_of_find search
      rw [assemble_of_ok assembled]
      rfl
  | on root => exact stays.elim

/-- Calls change only what a session remembers. -/
theorem forgotten_through (session : Session) (history : List Call) :
    (session.through history).forgotten = session.forgotten := by
  induction history generalizing session with
  | nil => rfl
  | cons call rest induction =>
    exact (induction (session.after call.1)).trans (forgotten_after session call)

/-! ### Projects after any history -/

/-- What a call that put a project together leaves behind, next to what the same call leaves in a
new session: the same project, failures and reports, and a log that goes on with the same
records. -/
structure Renews (before fresh after : Session) : Prop where
  project : after.project = fresh.project
  failures : after.failures = fresh.failures
  diagnostics : after.diagnostics = fresh.diagnostics
  log : after.log = before.log ++ fresh.log

/-- What the document lets be put together is put together in every session like in a new one. -/
theorem assemble_renews {session : Session} {assembly : Assembly}
    (assembled : Build.assemble session.root = .ok assembly) :
    session.assemble.1 = .ok assembly.project ∧
      session.assemble.2.project = some assembly.project ∧
        Renews session session.forgotten.assemble.2 session.assemble.2 := by
  have anew : Build.assemble session.forgotten.root = .ok assembly := assembled
  rw [assemble_of_ok assembled, assemble_of_ok anew]
  exact ⟨rfl, rfl, rfl, rfl, rfl, rfl⟩

/-- Reading a source and putting its project together in a new session can end in two kinds of
problems: those of a malformed source, and those of a document that is refused. -/
theorem parse_cases (source : String) (verbose : Bool) (path : Option String) :
    match parse source path with
    | .error problem =>
      (problem.kind = .document ∧
        ∃ fault, Xml.read false source = .error fault ∧ problem = Document.malformed path fault) ∨
      (problem.kind = .projectStructure ∧
        ∃ root, Document.load source path = .ok root ∧ Refused root path problem)
    | .ok assembly =>
      ∃ root, Document.load source path = .ok root ∧
        (start root verbose path).assemble.1 = .ok assembly.project := by
  have parsed : parse source path = (Document.load source path).bind fun root =>
      (Build.assemble root).mapError (·.problem path) := rfl
  have loading : Document.load source path =
      (Xml.read false source).mapError (Document.malformed path) := rfl
  rw [parsed, loading]
  cases read : Xml.read false source with
  | error fault => exact .inl ⟨rfl, fault, rfl, rfl⟩
  | ok root =>
    simp only [Except.mapError, Except.bind]
    cases search : Sections.find root with
    | error fault =>
      have failed : Build.assemble root = .error fault := by
        rw [Build.assemble, search]
        rfl
      rw [failed]
      exact .inr ⟨rfl, root, rfl, refused_of_find path search⟩
    | ok sections =>
      have search : Sections.find (start root verbose path).root = .ok sections := search
      obtain ⟨assembly, assembled⟩ := assembled_of_find search
      have alone : Build.assemble root = .ok assembly := assembled
      rw [alone]
      exact ⟨root, rfl, by rw [assemble_of_ok assembled]⟩

/-! ### Projects that may have to be broken off -/

end Session

theorem exists_at?_of_mem_select {element found : Element} {path : Xml.Path}
    (member : found ∈ element.select path) : ∃ place, element.at? place = some found := by
  rw [← Element.map_snd_placed] at member
  obtain ⟨⟨place, other⟩, among, rfl⟩ := List.mem_map.mp member
  exact ⟨place, Element.at?_of_mem_placed among⟩

/-- What is selected below a section of the project stands in the document. -/
theorem exists_at?_of_section {root project part found : Element} {names path : Xml.Path}
    (within : Document.findProject? root = some project)
    (section? : project.selectFirst? names = some part) (member : found ∈ part.select path) :
    ∃ place, root.at? place = some found := by
  obtain ⟨outer, around, _⟩ := (Element.first_of_find? within).stands
  obtain ⟨middle, below⟩ := exists_at?_of_mem_select (List.mem_of_head? section?)
  obtain ⟨inner, found⟩ := exists_at?_of_mem_select member
  refine ⟨outer ++ (middle ++ inner), ?_⟩
  rw [Element.at?_append, around, Option.bind_some, Element.at?_append, below, Option.bind_some,
    found]

/-- A search that fails in a project element has a section to name. -/
theorem find_error_of_first {root project : Element} {fault : StructureFault}
    (first : root.First "project" project) (failed : Sections.find root = .error fault) :
    ∃ missing, fault = .noSection project missing := by
  have behind {name : String} {next : Element → Except StructureFault Sections}
      (failed : (sectionOf project name).bind next = .error fault) :
      (∃ missing, fault = .noSection project missing) ∨
        ∃ found, next found = .error fault := by
    cases search : project.selectFirst? [name] with
    | some found =>
      rw [sectionOf, search] at failed
      exact .inr ⟨found, failed⟩
    | none =>
      rw [sectionOf, search] at failed
      cases failed
      exact .inl ⟨name, rfl⟩
  rw [Sections.find_eq first] at failed
  rcases behind failed with here | ⟨_, failed⟩
  · exact here
  rcases behind failed with here | ⟨_, failed⟩
  · exact here
  rcases behind failed with here | ⟨_, failed⟩
  · exact here
  rcases behind failed with here | ⟨_, failed⟩
  · exact here
  cases failed

/-- Whether something cannot be written that putting the project together has to show: the project
element of a document that is refused, or the element of a failure. -/
inductive Unshown (room : Nat) (root : Element) (path : Option String) : Prop where
  | project {problem : Problem} {project : Element} (refused : Refused root path problem)
      (first : root.First "project" project) (unwritable : ¬ project.Writable room)
  | failure {assembly : Assembly} {failure : Failure} (assembled : assemble root = .ok assembly)
      (member : failure ∈ assembly.failures) (unwritable : ¬ failure.element.Writable room)

namespace Session

variable {room : Nat}

/-- The sections of a project are built one after the other. -/
theorem goes_sections (room : Nat) (sections : Sections) :
    Goes room
      ((buildAll sections.scenarioElements).failures ++
        (buildAll sections.actionwordElements).failures)
      ((buildAll sections.scenarioElements).slots, (buildAll sections.actionwordElements).slots)
      (fun cause => ∃ element ∈ sections.scenarioElements ++ sections.actionwordElements,
        element.unwritable? room = some cause)
      fun session => (session.tryNodes room sections.scenarioElements).andThen fun tests next =>
        (next.tryNodes room sections.actionwordElements).map (tests, ·) := by
  have goes := (goes_tryNodes room sections.scenarioElements).andThen
    (fun tests next => (next.tryNodes room sections.actionwordElements).map (tests, ·))
    ((goes_tryNodes room sections.actionwordElements).map
      ((buildAll sections.scenarioElements).slots, ·))
  refine goes.weaken fun cause blame => ?_
  rcases blame with ⟨element, member, blame⟩ | ⟨element, member, blame⟩
  · exact ⟨element, List.mem_append_left _ member, blame⟩
  · exact ⟨element, List.mem_append_right _ member, blame⟩

theorem tryAssemble_of_error (room : Nat) {session : Session} {fault : StructureFault}
    (failed : Sections.find session.root = .error fault) :
    session.tryAssemble room = (.error (fault.escape room session.path), session.cleared) := by
  rw [tryAssemble, failed]

/-- A project is put together as ever if all failures can be written. -/
theorem tryAssemble_of_writable {session : Session} {assembly : Assembly}
    (assembled : Build.assemble session.root = .ok assembly)
    (good : ∀ failure ∈ assembly.failures, failure.writable room) :
    session.tryAssemble room = (.ok assembly.project, session.assemble.2) := by
  have whole := assembled
  obtain ⟨sections, search, made⟩ := exists_of_bind_ok assembled
  cases made
  rw [tryAssemble, search]
  simp only [(goes_sections room sections).returns good]
  rw [assemble_eq, whole]

/-- Otherwise the call is broken off in the same way in every session. -/
theorem tryAssemble_of_unwritable {root : Element} {assembly : Assembly}
    (assembled : Build.assemble root = .ok assembly)
    (bad : ∃ failure ∈ assembly.failures, failure.writable room = false) :
    ∃ cause given, root.Blames room cause ∧
      ∀ session : Session, session.root = root → session.tryAssemble room =
        (.error (.unwritable cause), session.cleared.brokenOff room assembly.failures given) := by
  obtain ⟨sections, search, made⟩ := exists_of_bind_ok assembled
  obtain ⟨project, within, tests, words⟩ := Sections.find_ok search
  cases made
  obtain ⟨cause, given, ⟨element, member, blame⟩, broken⟩ :=
    (goes_sections room sections).breaks bad
  refine ⟨cause, given, ?_, fun session same => ?_⟩
  · rcases List.mem_append.mp member with member | member
    · obtain ⟨place, stands⟩ := exists_at?_of_section within tests member
      exact ⟨place, element, stands, blame⟩
    · obtain ⟨place, stands⟩ := exists_at?_of_section within words member
      exact ⟨place, element, stands, blame⟩
  · rw [tryAssemble, same, search]
    simp only [broken]

/-! ### How putting the project together ends -/

theorem not_refused_of_assembled {root : Element} {assembly : Assembly}
    (assembled : Build.assemble root = .ok assembly) {path : Option String} {problem : Problem} :
    ¬ Refused root path problem := by
  intro refused
  obtain ⟨fault, failed, _⟩ := find_of_refused refused
  obtain ⟨sections, search, _⟩ := exists_of_bind_ok assembled
  rw [failed] at search
  cases search

/-- The project of a document is shown exactly if all failures can be written. -/
theorem unshown_iff_of_assembled {root : Element} {assembly : Assembly}
    (assembled : Build.assemble root = .ok assembly) {path : Option String} :
    Unshown room root path ↔ ∃ failure ∈ assembly.failures, failure.writable room = false := by
  constructor
  · intro unshown
    cases unshown with
    | project refused => exact absurd refused (not_refused_of_assembled assembled)
    | failure other member unwritable =>
      obtain rfl := Except.ok.inj (assembled.symm.trans other)
      exact ⟨_, member, Bool.eq_false_iff.mpr fun good =>
        unwritable (Failure.writable_iff.mp good)⟩
  · rintro ⟨failure, member, bad⟩
    refine .failure assembled member fun writable => ?_
    rw [Failure.writable_iff.mpr writable] at bad
    cases bad

/-- A document that is refused is shown unless its project element cannot be written. -/
theorem escape_of_find {root : Element} {fault : StructureFault} (path : Option String)
    (failed : Sections.find root = .error fault) :
    fault.escape room path = .problem (fault.problem path) ∧ ¬ Unshown room root path ∨
      (∃ cause, fault.escape room path = .unwritable cause ∧ root.Blames room cause) ∧
        Unshown room root path := by
  have unbuilt {assembly : Assembly} : Build.assemble root ≠ .ok assembly := by
    rw [Build.assemble, failed]
    intro same
    cases same
  have refused := refused_of_find path failed
  by_cases present : ∃ project, root.First "project" project
  · obtain ⟨project, first⟩ := present
    obtain ⟨missing, rfl⟩ := find_error_of_first first failed
    cases own : project.unwritable? room with
    | none =>
      have writable := Element.unwritable?_eq_none_iff.mp own
      refine .inl ⟨by rw [StructureFault.escape, own], fun unshown => ?_⟩
      cases unshown with
      | project _ other unwritable => exact unwritable (first.unique other ▸ writable)
      | failure assembled => exact unbuilt assembled
    | some cause =>
      obtain ⟨place, stands, _⟩ := first.stands
      refine .inr ⟨⟨cause, by rw [StructureFault.escape, own], place, project, stands, own⟩, ?_⟩
      refine .project refused first fun writable => ?_
      rw [Element.unwritable?_eq_none_iff.mpr writable] at own
      cases own
  · have within : Document.findProject? root = none :=
      Option.eq_none_iff_forall_not_mem.mpr fun project found =>
        present ⟨project, Element.first_of_find? found⟩
    rw [Sections.find, within] at failed
    cases failed
    refine .inl ⟨rfl, fun unshown => ?_⟩
    cases unshown with
    | project _ first => exact present ⟨_, first⟩
    | failure assembled => exact unbuilt assembled

/-- A call ends in one of three ways: with a project, with the problem of a document that is
refused, or because something cannot be written. -/
theorem tryAssemble_cases (room : Nat) (session : Session) :
    (∃ assembly, Build.assemble session.root = .ok assembly ∧
      ¬ Unshown room session.root session.path ∧
      session.tryAssemble room = (.ok assembly.project, session.assemble.2)) ∨
    (∃ problem, Refused session.root session.path problem ∧
      ¬ Unshown room session.root session.path ∧
      session.tryAssemble room = (.error (.problem problem), session.cleared)) ∨
    ∃ cause, session.root.Blames room cause ∧ Unshown room session.root session.path ∧
      ∃ failures given, ∀ other : Session, other.root = session.root → other.path = session.path →
        other.tryAssemble room =
          (.error (.unwritable cause), other.cleared.brokenOff room failures given) := by
  cases search : Sections.find session.root with
  | error fault =>
    have ended := tryAssemble_of_error room search
    rcases escape_of_find session.path search with ⟨same, shown⟩ | ⟨⟨cause, same, blames⟩, unshown⟩
    · exact .inr (.inl ⟨_, refused_of_find session.path search, shown, by rw [ended, same]⟩)
    · refine .inr (.inr ⟨cause, blames, unshown, [], [], fun other root path => ?_⟩)
      rw [tryAssemble_of_error room (root ▸ search), path, same, brokenOff, List.takeWhile_nil,
        alarming, List.map_nil, List.append_nil]
      rfl
  | ok sections =>
    obtain ⟨assembly, assembled⟩ := assembled_of_find search
    rcases writable_or_not room assembly.failures with good | bad
    · refine .inl ⟨assembly, assembled, fun unshown => ?_, tryAssemble_of_writable assembled good⟩
      exact not_exists_unwritable good ((unshown_iff_of_assembled assembled).mp unshown)
    · obtain ⟨cause, given, blames, broken⟩ := tryAssemble_of_unwritable assembled bad
      exact .inr (.inr ⟨cause, blames, (unshown_iff_of_assembled assembled).mpr bad, _, given,
        fun other same _ => broken other same⟩)

/-! ### Histories with calls that were broken off -/

/-- The session after an operation that may be broken off. -/
def tryAfter (room : Nat) (session : Session) : Operation → Session
  | .build element => (session.tryBuild room element).2
  | .node element => (session.tryNode room element).2
  | .nodes elements => (session.tryNodes room elements).2
  | .carryOut plan => (session.tryCarryOut room plan).2
  | .assemble => (session.tryAssemble room).2
  | .on root => session.on root

/-- The session after several calls that may be broken off. -/
def tryThrough (room : Nat) (session : Session) (history : List Call) : Session :=
  (history.map Subtype.val).foldl (tryAfter room) session

theorem forgotten_brokenOff (session : Session) (failures : List Failure) (given : List Element) :
    (session.brokenOff room failures given).forgotten = session.forgotten :=
  forgotten_noting session _

theorem forgotten_of_goes {α : Type} {failures : List Failure} {value : α}
    {blames : Xml.Unwritable → Prop} {call : Session → Attempt α}
    (goes : Goes room failures value blames call) (session : Session) :
    (call session).2.forgotten = session.forgotten := by
  rcases writable_or_not room failures with good | bad
  · rw [goes.returns good]
    exact forgotten_noting session failures
  · obtain ⟨cause, given, _, broken⟩ := goes.breaks bad
    rw [broken]
    exact forgotten_brokenOff session failures given

theorem forgotten_tryAssemble (room : Nat) (session : Session) :
    (session.tryAssemble room).2.forgotten = session.forgotten := by
  rcases session.tryAssemble_cases room with ⟨assembly, assembled, _, same⟩ | ⟨_, _, _, same⟩ |
    ⟨_, _, _, failures, given, broken⟩
  · rw [same, assemble_of_ok assembled]
    rfl
  · rw [same]
    rfl
  · rw [broken session rfl rfl]
    exact forgotten_brokenOff session.cleared failures given

theorem forgotten_tryAfter (room : Nat) (session : Session) (call : Call) :
    (session.tryAfter room call.1).forgotten = session.forgotten := by
  obtain ⟨operation, stays⟩ := call
  cases operation with
  | build element => exact forgotten_of_goes (goes_tryBuild room element) session
  | node element => exact forgotten_of_goes (goes_tryNode room element) session
  | nodes elements => exact forgotten_of_goes (goes_tryNodes room elements) session
  | carryOut plan => exact forgotten_of_goes (goes_tryCarryOut room plan) session
  | assemble => exact forgotten_tryAssemble room session
  | on root => exact stays.elim

/-- Calls change only what a session remembers, also if they are broken off. -/
theorem forgotten_tryThrough (room : Nat) (session : Session) (history : List Call) :
    (session.tryThrough room history).forgotten = session.forgotten := by
  induction history generalizing session with
  | nil => rfl
  | cons call rest induction =>
    exact (induction (session.tryAfter room call.1)).trans (forgotten_tryAfter room session call)

/-! ### Projects after any history -/

theorem unwritable_iff {session : Session} :
    (∃ cause, (session.tryAssemble room).1 = .error (.unwritable cause)) ↔
      Unshown room session.root session.path := by
  rcases session.tryAssemble_cases room with ⟨_, _, shown, same⟩ | ⟨_, _, shown, same⟩ |
    ⟨cause, _, unshown, _, _, broken⟩
  · simp [same, shown]
  · simp [same, shown]
  · simp [broken session rfl rfl, unshown]

theorem problem_iff {session : Session} {problem : Problem} :
    (session.tryAssemble room).1 = .error (.problem problem) ↔
      Refused session.root session.path problem ∧ ¬ Unshown room session.root session.path := by
  rcases session.tryAssemble_cases room with ⟨_, assembled, _, same⟩ |
    ⟨other, refused, shown, same⟩ | ⟨cause, _, unshown, _, _, broken⟩
  · simp [same, not_refused_of_assembled assembled]
  · have unique (refusedToo : Refused session.root session.path problem) : other = problem := by
      have one := assemble_error_iff.mpr refused
      rw [assemble_error_iff.mpr refusedToo] at one
      exact (Except.error.inj one).symm
    rw [same]
    constructor
    · intro ended
      cases ended
      exact ⟨refused, shown⟩
    · rintro ⟨refusedToo, _⟩
      rw [unique refusedToo]
  · simp [broken session rfl rfl, unshown]

/-- A call ends as it ends in a session where nothing has happened, and leaves behind what it leaves
there. A project is put together as it is where nothing can be broken off. -/
theorem tryAssemble_leaves (room : Nat) (session : Session) :
    (session.tryAssemble room).1 = (session.forgotten.tryAssemble room).1 ∧
      match session.tryAssemble room with
      | (.ok project, after) =>
        session.assemble = (.ok project, after) ∧ after.project = some project ∧
          Renews session (session.forgotten.tryAssemble room).2 after
      | (.error (.problem _), after) => after = { session with failures := [], diagnostics := [] }
      | (.error (.unwritable _), after) =>
        Renews session
          { (session.forgotten.tryAssemble room).2 with project := session.project } after
      | (.error .unencodable, _) => False := by
  rcases session.tryAssemble_cases room with ⟨assembly, assembled, shown, same⟩ |
    ⟨problem, refused, shown, same⟩ | ⟨cause, _, _, failures, given, broken⟩
  · obtain ⟨made, cached, renewed⟩ := assemble_renews assembled
    have anew : session.forgotten.tryAssemble room =
        (.ok assembly.project, session.forgotten.assemble.2) := by
      refine tryAssemble_of_writable assembled fun failure member => ?_
      by_contra bad
      exact shown ((unshown_iff_of_assembled assembled).mpr
        ⟨failure, member, Bool.eq_false_iff.mpr bad⟩)
    rw [same, anew]
    exact ⟨rfl, Prod.ext made rfl, cached, renewed⟩
  · have anew : (session.forgotten.tryAssemble room).1 = .error (.problem problem) :=
      problem_iff.mpr ⟨refused, shown⟩
    rw [same, anew]
    exact ⟨rfl, rfl⟩
  · rw [broken session rfl rfl, broken session.forgotten rfl rfl]
    refine ⟨rfl, ?_, ?_, ?_, ?_⟩
    all_goals simp [brokenOff, alarming, noting_eq, cleared, forgotten, start]

/-- Building a project from a source that spells a text ends as it does where nothing can be broken
off, or the document has too many levels. -/
theorem tryParse_of_spelled (room : Nat) {source : List Text.CodePoint} {text : String}
    (spelled : Text.spelled? source = some text) (verbose : Bool) (path : Option String) :
    tryParse room source verbose path = ((parse text path).map Assembly.project).mapError .problem ∨
      tryParse room source verbose path = .error (.unwritable .depth) ∧
        ∃ document, Document.load text path = .ok document ∧ room < document.height := by
  have tried : tryParse room source verbose path =
      (tryLoad false source path).bind fun root =>
        ((start root verbose path).tryAssemble room).1 := rfl
  have parsed : parse text path = (Document.load text path).bind fun root =>
      (Build.assemble root).mapError (·.problem path) := rfl
  have loaded : tryLoad false source path = (Document.load text path).mapError .problem := by
    rw [tryLoad, spelled]
    rfl
  rw [tried, loaded, parsed]
  cases loading : Document.load text path with
  | error problem => exact .inl rfl
  | ok document =>
    simp only [Except.mapError, Except.bind]
    rcases (start document verbose path).tryAssemble_cases room with
      ⟨assembly, assembled, _, same⟩ | ⟨problem, refused, _, same⟩ |
      ⟨cause, blames, _, _, _, broken⟩
    · have alone : Build.assemble document = .ok assembly := assembled
      rw [same, alone]
      exact .inl rfl
    · obtain ⟨fault, failed, rfl⟩ := find_of_refused refused
      have alone : Build.assemble document = .error fault := by
        have failed : Sections.find document = .error fault := failed
        rw [Build.assemble, failed]
        rfl
      rw [same, alone]
      exact .inl rfl
    · rw [broken _ rfl rfl]
      have formed := Xml.wellFormed_of_read (Xml.ok_of_mapError loading)
      obtain ⟨rfl, high⟩ := formed.depth_of_blames blames
      exact .inr ⟨rfl, document, rfl, high⟩

/-- How building a project from a source can end. -/
theorem tryParse_cases (room : Nat) (source : List Text.CodePoint) (verbose : Bool)
    (path : Option String) :
    match tryParse room source verbose path with
    | .ok project =>
      ∃ text assembly, Text.spelled? source = some text ∧ parse text path = .ok assembly ∧
        assembly.project = project
    | .error (.problem problem) =>
      ∃ text, Text.spelled? source = some text ∧ parse text path = .error problem ∧
        ((problem.kind = .document ∧
          ∃ fault, Xml.read false text = .error fault ∧ problem = Document.malformed path fault) ∨
        (problem.kind = .projectStructure ∧
          ∃ document, Document.load text path = .ok document ∧ Refused document path problem))
    | .error (.unwritable cause) =>
      cause = .depth ∧ ∃ text document, Text.spelled? source = some text ∧
        Document.load text path = .ok document ∧ room < document.height
    | .error .unencodable => ∃ point ∈ source, point.char? = none := by
  cases spelled : Text.spelled? source with
  | none =>
    have ended : tryParse room source verbose path = .error .unencodable := by
      rw [tryParse, tryLoad, spelled]
      rfl
    rw [ended]
    exact Text.exists_surrogate spelled
  | some text =>
    rcases tryParse_of_spelled room spelled verbose path with same | ⟨same, document, loaded, high⟩
    · have known := parse_cases text verbose path
      rw [same]
      cases parsed : parse text path with
      | ok assembly => exact ⟨text, assembly, rfl, parsed, rfl⟩
      | error problem =>
        rw [parsed] at known
        exact ⟨text, rfl, parsed, known⟩
    · rw [same]
      exact ⟨rfl, text, document, rfl, loaded, high⟩

/-- After any history, calls that were broken off included, the document alone decides how putting
the project together ends. It is broken off exactly if something that has to be shown cannot be
written, and ends with the problem of the document otherwise, if there is one; in both cases the
project from before stays. In all others the project is put together as ever: the call leaves what
it leaves in a new session, and so does the same call once more. Nor can building a project from a
source end in other problems than those of a source that is malformed and a document that is
refused, but a source may hold surrogates and a document may have too many levels. -/
theorem assembly_over_attempts (room : Nat) (root : Element) (verbose : Bool)
    (path : Option String) (history : List Call) :
    let fresh := start root verbose path
    let session := fresh.tryThrough room history
    ((∃ cause, (session.tryAssemble room).1 = .error (.unwritable cause)) ↔
      Unshown room root path) ∧
    (∀ problem, (session.tryAssemble room).1 = .error (.problem problem) ↔
      Refused root path problem ∧ ¬ Unshown room root path) ∧
    (session.tryAssemble room).1 = (fresh.tryAssemble room).1 ∧
    (match session.tryAssemble room with
      | (.ok project, after) =>
        session.assemble = (.ok project, after) ∧ after.project = some project ∧
          Renews session (fresh.tryAssemble room).2 after ∧
          (after.tryAssemble room).1 = .ok project ∧
          Renews after (fresh.tryAssemble room).2 (after.tryAssemble room).2
      | (.error (.problem _), after) => after = { session with failures := [], diagnostics := [] }
      | (.error (.unwritable _), after) =>
        Renews session { (fresh.tryAssemble room).2 with project := session.project } after
      | (.error .unencodable, _) => False) ∧
    ∀ source,
      match tryParse room source verbose path with
      | .ok project =>
        ∃ text assembly, Text.spelled? source = some text ∧ parse text path = .ok assembly ∧
          assembly.project = project
      | .error (.problem problem) =>
        ∃ text, Text.spelled? source = some text ∧ parse text path = .error problem ∧
          ((problem.kind = .document ∧
            ∃ fault, Xml.read false text = .error fault ∧
              problem = Document.malformed path fault) ∨
          (problem.kind = .projectStructure ∧
            ∃ document, Document.load text path = .ok document ∧ Refused document path problem))
      | .error (.unwritable cause) =>
        cause = .depth ∧ ∃ text document, Text.spelled? source = some text ∧
          Document.load text path = .ok document ∧ room < document.height
      | .error .unencodable => ∃ point ∈ source, point.char? = none := by
  intro fresh session
  have kept : session.forgotten = fresh := forgotten_tryThrough room fresh history
  have sameRoot : session.root = root := congrArg Session.root kept
  have samePath : session.path = path := congrArg Session.path kept
  obtain ⟨ends, leaves⟩ := session.tryAssemble_leaves room
  obtain ⟨endsAgain, leavesAgain⟩ := (session.tryAssemble room).2.tryAssemble_leaves room
  rw [forgotten_tryAssemble, kept] at endsAgain leavesAgain
  rw [kept] at ends leaves
  refine ⟨sameRoot ▸ samePath ▸ unwritable_iff, fun problem => sameRoot ▸ samePath ▸ problem_iff,
    ends, ?_, fun source => tryParse_cases room source verbose path⟩
  cases ended : session.tryAssemble room with
  | mk result after =>
    rw [ended] at ends leaves endsAgain leavesAgain
    cases result with
    | error escape => cases escape <;> exact leaves
    | ok project =>
      -- the session is still on its document, so the next call ends like this one
      have same : (after.tryAssemble room).1 = .ok project := endsAgain.trans ends.symm
      obtain ⟨made, cached, renewed⟩ := leaves
      refine ⟨made, cached, renewed, same, ?_⟩
      cases repeated : after.tryAssemble room with
      | mk other last =>
        rw [repeated] at same leavesAgain
        cases same
        exact leavesAgain.2.2

end Session

end ScenarioTree.Build
