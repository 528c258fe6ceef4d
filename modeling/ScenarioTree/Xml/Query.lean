/-
This file finds elements by their place in the tree. A path is a list of steps, one for each level
below the element it starts from; a step is a tag or a star, which stands for every tag. The matches
of a path come in document order, each of them once.
-/

import ScenarioTree.Text.Pieces
import ScenarioTree.Xml.Element

namespace ScenarioTree.Xml

/-! ### Paths -/

/-- A path from an element to elements below it. -/
abbrev Path := List String

/-- The steps of a written path, which stand between slashes. -/
def Path.ofText (text : String) : Path :=
  (Text.pieces '/' text.toList).map String.ofList

/-- Whether an element may be taken at a step. -/
def Element.answers (element : Element) (step : String) : Bool :=
  step == "*" || element.tag == step

namespace Element

/-! ### Selection -/

/-- The elements that a path leads to, in document order. -/
def select (element : Element) : Path → List Element
  | [] => [element]
  | step :: path =>
    (element.children.filter (·.answers step)).flatMap fun child => child.select path

/-- The first element that a path leads to. -/
def selectFirst? (element : Element) (path : Path) : Option Element :=
  (element.select path).head?

/-- The first child. -/
def firstChild? (element : Element) : Option Element :=
  element.children.head?

/-! ### The project of a document -/

mutual

/-- The first element with a tag, the element itself or below it, in document order. -/
def find? (tag : String) : Element → Option Element
  | ⟨name, attributes, text, children, tail⟩ =>
    if name.text == tag then some ⟨name, attributes, text, children, tail⟩
    else findInChildren? tag children

/-- The first element with a tag among elements and what is below them. -/
def findInChildren? (tag : String) : List Element → Option Element
  | [] => none
  | child :: rest => (child.find? tag).or (findInChildren? tag rest)

end

end Element

end ScenarioTree.Xml
