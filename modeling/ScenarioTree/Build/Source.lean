/-
This file loads and builds projects from sources: from a text, and from the text of a file. Building
from a file is building from its text, with the location of the file in every problem.
-/

import ScenarioTree.Build.Project
import ScenarioTree.File.Tree

namespace ScenarioTree.Build

/-- The project of a source. -/
def parse (source : String) (path : Option String) : Except Problem Assembly := do
  let root ← Document.load source path
  (assemble root).mapError (·.problem path)

/-- What keeps the project of a file from being built. -/
inductive Obstacle where
  | problem (problem : Problem)
  | unreadable (reason : File.Unreadable)

/-- The root of a file. -/
def loadFile (look : File.Location → File.Found) (location : File.Location) :
    Except Obstacle Xml.Element :=
  match (look location).text with
  | .error reason => .error (.unreadable reason)
  | .ok source => (Document.load source (some location.text)).mapError .problem

/-- The project of a file. -/
def parseFile (look : File.Location → File.Found) (location : File.Location) :
    Except Obstacle Assembly :=
  match (look location).text with
  | .error reason => .error (.unreadable reason)
  | .ok source => (parse source (some location.text)).mapError .problem

/-- The project of a file is assembled from its root. -/
theorem parseFile_eq (look : File.Location → File.Found) (location : File.Location) :
    parseFile look location = (do
      let root ← loadFile look location
      (assemble root).mapError fun fault => .problem (fault.problem (some location.text))) := by
  rw [parseFile, loadFile]
  cases (look location).text with
  | error reason => rfl
  | ok source =>
    simp only [parse]
    cases Document.load source (some location.text) with
    | error problem => rfl
    | ok root =>
      show ((assemble root).mapError (·.problem (some location.text))).mapError Obstacle.problem =
        (assemble root).mapError fun fault => .problem (fault.problem (some location.text))
      cases assemble root <;> rfl

end ScenarioTree.Build
