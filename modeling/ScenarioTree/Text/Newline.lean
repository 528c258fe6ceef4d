/-
This file gives one spelling to the three ways to end a line. A carriage return followed by a line
feed is one line end, and so is a carriage return alone.

A reader that is fed a source piece by piece cannot know what a carriage return is while it is the
last character it has seen, so `unifyInner` keeps a carriage return that ends the source.

A reader that counts the characters of a source counts a line end of two characters twice;
`joinedReturns` tells how many of those there were.
-/

namespace ScenarioTree.Text

/-- Every line end becomes a line feed. -/
def unifyNewlines : List Char → List Char
  | [] => []
  | '\r' :: '\n' :: rest => '\n' :: unifyNewlines rest
  | '\r' :: rest => '\n' :: unifyNewlines rest
  | character :: rest => character :: unifyNewlines rest

/-- Every line end becomes a line feed, save a carriage return that ends the text. -/
def unifyInner : List Char → List Char
  | [] => []
  | '\r' :: '\n' :: rest => '\n' :: unifyInner rest
  | ['\r'] => ['\r']
  | '\r' :: rest => '\n' :: unifyInner rest
  | character :: rest => character :: unifyInner rest

/-- How many line ends of two characters are among so many at the end of a text, which is given from
its last character on. -/
def joinedReturns : Nat → List Char → Nat
  | 0, _ | _, [] => 0
  | count + 1, '\n' :: '\r' :: rest => joinedReturns count rest + 1
  | count + 1, _ :: rest => joinedReturns count rest

end ScenarioTree.Text
