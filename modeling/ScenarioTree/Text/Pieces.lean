/-
This file cuts texts into the pieces between separators. There is one more piece than separators,
and a piece may be empty.
-/

namespace ScenarioTree.Text

/-- The pieces of a text between separators. -/
def pieces (separator : Char) : List Char → List (List Char)
  | [] => [[]]
  | character :: rest =>
    if character == separator then [] :: pieces separator rest
    else
      match pieces separator rest with
      | [] => [[character]]
      | piece :: more => (character :: piece) :: more

end ScenarioTree.Text
