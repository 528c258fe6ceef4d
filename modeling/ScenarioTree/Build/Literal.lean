/-
This file makes literals. A literal is made from a value or from the text of an element that holds
it, and both ways lead to the same node.
-/

import ScenarioTree.Build.Cause
import ScenarioTree.Node.Basic

namespace ScenarioTree.Build

open ScenarioTree.Xml (Element)

/-- A text, or an element whose content is the text. -/
inductive TextSource where
  | written (text : String)
  | element (holder : Element)

/-- The text itself. -/
def TextSource.content : TextSource → String
  | written text => text
  | element holder => holder.content

/-- What a number may be made from. -/
inductive NumberSource where
  | number (value : Number)
  | boolean (value : Bool)
  | source (source : TextSource)

/-- What a truth value may be made from. -/
inductive BooleanSource where
  | boolean (value : Bool)
  | source (source : TextSource)

namespace Literal

/-- The number that a text denotes. -/
def readNumber (text : String) : Except Cause Number :=
  (Number.ofText text).mapError (.ofRefusal text)

/-- The truth value that a text denotes: one of two words, in any mixture of small and capital
letters, with blanks around it. -/
def readBoolean (text : String) : Except Cause Bool :=
  let word := (Text.trim text.toList).map Char.toLower
  if word = ['t', 'r', 'u', 'e'] then .ok true
  else if word = ['f', 'a', 'l', 's', 'e'] then .ok false
  else .error (.notBoolean text)

/-- The literal of no value. -/
def null : Node := .null

/-- A text as a literal. -/
def string (source : TextSource) : Node :=
  .string source.content

/-- A number as a literal. A truth value is no number. -/
def number : NumberSource → Except Cause Node
  | .number value => .ok (.number value)
  | .boolean value => .error (.truthNumber value)
  | .source source => (readNumber source.content).map .number

/-- A truth value as a literal. -/
def boolean : BooleanSource → Except Cause Node
  | .boolean value => .ok (.boolean value)
  | .source source => (readBoolean source.content).map .boolean

end Literal

end ScenarioTree.Build
