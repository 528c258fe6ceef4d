/-
This file says what may be found at a location, how the text of a file is read, and how locations
are followed in a tree of files that is held in memory.
-/

import ScenarioTree.File.Location
import ScenarioTree.Text.Newline

namespace ScenarioTree.File

/-! ### What is found -/

/-- What is found at a location. A location that goes on behind a file leads nowhere. -/
inductive Found where
  | missing
  | behindFile
  | directory
  | bytes (content : ByteArray)

/-- Why a text cannot be read. -/
inductive Unreadable where
  | missing
  | behindFile
  | directory
  | notUnicode
  deriving DecidableEq

namespace Found

/-- Whether there is anything. -/
def isThere : Found → Bool
  | missing | behindFile => false
  | directory | bytes _ => true

/-- The text of a file, with one spelling of line ends. -/
def text : Found → Except Unreadable String
  | missing => .error .missing
  | behindFile => .error .behindFile
  | directory => .error .directory
  | bytes content =>
    match String.fromUTF8? content with
    | none => .error .notUnicode
    | some text => .ok (String.ofList (Text.unifyNewlines text.toList))

/-- What has a text is there. -/
theorem isThere_of_text {found : Found} {content : String} (readable : found.text = .ok content) :
    found.isThere := by
  cases found with
  | bytes _ | directory => rfl
  | missing | behindFile => cases readable

end Found

/-! ### Trees of files -/

/-- An entry of a tree of files. -/
inductive Entry where
  | directory
  | file (content : ByteArray)

/-- The entries of a tree, each under the names that lead to it. Directories on the way need no
entry of their own. -/
abbrev Tree := List (List String × Entry)

namespace Tree

/-- Whether a directory is at a place. -/
def hasDirectory (tree : Tree) (place : List String) : Bool :=
  place.isEmpty || tree.any fun entry =>
    match entry with
    | (steps, .directory) => place.isPrefixOf steps
    | (steps, .file _) => place.isPrefixOf steps && place != steps

/-- What is at a place. -/
def at? (tree : Tree) (place : List String) : Found :=
  if tree.hasDirectory place then .directory
  else
    match tree.lookup place with
    | some (.file content) => .bytes content
    | _ => .missing

/-- What is found on a way from a place. Double dots lead back up, and above the tree only other
directories are known. -/
def follow (tree : Tree) (place : List String) : List String → Found
  | [] => tree.at? place
  | step :: steps =>
    match tree.at? place with
    | .directory =>
      if step == ".." then
        if place.isEmpty then
          if steps.all (· == "..") then .directory else .missing
        else follow tree place.dropLast steps
      else follow tree (place ++ [step]) steps
    | .bytes _ => .behindFile
    | found => found

/-- What is found at a location. Of what lies outside of the tree only the root is known. -/
def look (tree : Tree) (location : Location) : Found :=
  if location.root.isEmpty then tree.follow [] location.steps
  else if location.steps.all (· == "..") then .directory
  else .missing

end Tree

end ScenarioTree.File
