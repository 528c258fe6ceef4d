/-
This file holds what a command writes. Lines about failures are highlighted; where no colours are
shown, every colour is taken out of a line, whoever put it there.
-/

namespace ScenarioTree.Command

/-- A line, or several that belong together. -/
structure Line where
  text : String
  highlighted : Bool := false
  deriving DecidableEq

/-- What a command comes to: its exit code and what it writes. -/
structure Output where
  exit : Nat
  stdout : String
  stderr : List Line
  deriving DecidableEq

/-- The character that begins a colour. -/
def colourMark : Char := '\x1B'

/-- Whether a character may stand between the beginning of a colour and the letter that ends it. -/
def isColourPart (character : Char) : Bool :=
  character.isDigit || character == ';' || character == '?'

/-- What is left of a text behind a colour, if the text begins with one. -/
def afterColour? : List Char → Option (List Char)
  | mark :: '[' :: rest =>
    if mark == colourMark then
      match rest.dropWhile isColourPart with
      | letter :: more => if letter.isAlpha then some more else none
      | [] => none
    else none
  | _ => none

/-- The characters of a text without its colours. -/
def withoutColours : Nat → List Char → List Char
  | 0, characters => characters
  | _, [] => []
  | rounds + 1, character :: rest =>
    match afterColour? (character :: rest) with
    | some more => withoutColours rounds more
    | none => character :: withoutColours rounds rest

namespace Line

/-- A line in the colour of its highlight. -/
def coloured (line : Line) : String :=
  if line.highlighted then "\x1B[34m" ++ line.text ++ "\x1B[0m" else line.text

/-- A line as it is written. -/
def write (colour : Bool) (line : Line) : String :=
  (if colour then line.coloured
    else String.ofList (withoutColours line.text.length line.text.toList)) ++ "\n"

end Line

/-- The lines of the standard error stream as one text. -/
def Output.errorText (colour : Bool) (output : Output) : String :=
  String.join (output.stderr.map (·.write colour))

/-- Nothing but an error. -/
def Output.failure (message : String) : Output :=
  ⟨1, "", [{ text := message }]⟩

end ScenarioTree.Command
