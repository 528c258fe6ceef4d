/-
This file holds the locations of files. A location is written as names between slashes; empty names
and single dots mean nothing and are left out, while double dots stay, since what they lead to
depends on the files.
-/

import ScenarioTree.Text.Pieces

namespace ScenarioTree.File

/-- A location: the slashes it begins with, and the names on the way. -/
structure Location where
  root : String
  steps : List String
  deriving DecidableEq

namespace Location

/-- The slashes that a location begins with count as one, unless there are exactly two. -/
def rootOf : List Char → String
  | '/' :: '/' :: '/' :: _ => "/"
  | '/' :: '/' :: _ => "//"
  | '/' :: _ => "/"
  | _ => ""

/-- Whether a name leads anywhere. -/
def isStep (name : String) : Bool :=
  name != "" && name != "."

/-- The location that a text denotes. -/
def ofText (text : String) : Location :=
  ⟨rootOf text.toList, ((Text.pieces '/' text.toList).map String.ofList).filter isStep⟩

/-- A location as it is written; the one without names is the dot. -/
def text (location : Location) : String :=
  if location.root.isEmpty && location.steps.isEmpty then "."
  else location.root ++ "/".intercalate location.steps

end Location

end ScenarioTree.File
