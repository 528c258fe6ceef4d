/-
This file loads documents: it reads a source and turns a fault of the source into a problem that
names the file.
-/

import ScenarioTree.Problem
import ScenarioTree.Xml.Query
import ScenarioTree.Xml.Reader

namespace ScenarioTree.Document

/-- The problem of a source that is not well formed. -/
def malformed (path : Option String) (fault : Xml.Fault) : Problem where
  kind := .document
  message := "Malformed XML document: " ++ fault.message
  path := path

/-- The root of a source. With `keep`, comments and processing instructions stay in the tree. -/
def loadWith (keep : Bool) (source : String) (path : Option String) : Except Problem Xml.Element :=
  (Xml.read keep source).mapError (malformed path)

/-- The root of a source, without comments and processing instructions. -/
def load (source : String) (path : Option String) : Except Problem Xml.Element :=
  loadWith false source path

/-- The first project in a tree. -/
def findProject? (root : Xml.Element) : Option Xml.Element :=
  root.find? "project"

end ScenarioTree.Document
