/-
This file lists the tags of nodes and tells which tag a plain scalar has by its form. The forms are
those of version 1.1: a number may have underscores, a leading zero makes it octal, colons make it
sexagesimal, and a decimal needs a point.
-/

import ScenarioTree.Yaml.Timestamp

namespace ScenarioTree.Yaml

/-- A tag. -/
inductive Tag where
  | null
  | boolean
  | integer
  | real
  | binary
  | timestamp
  | orderedMapping
  | pairs
  | set
  | string
  | sequence
  | mapping
  | merge
  | value
  | unknown
  deriving DecidableEq

/-! ### Forms of scalars -/

/-- Digits and underscores. -/
def isSpacedDigit (character : Char) : Bool :=
  character.isDigit || character == '_'

/-- A text without the sign that may begin it. -/
def unsigned : List Char → List Char
  | '+' :: rest => rest
  | '-' :: rest => rest
  | rest => rest

/-- Whether a text consists of one or more characters of a class. -/
def allOf (belongs : Char → Bool) (characters : List Char) : Bool :=
  !characters.isEmpty && characters.all belongs

/-- A sexagesimal place behind its colon: one digit, or two with the first below six; and what
follows it. The longer reading comes first. -/
def sexagesimalPlaces : List Char → List (List Char)
  | first :: second :: rest =>
    if first.isDigit && first ≤ '5' && second.isDigit then [rest, second :: rest]
    else if first.isDigit then [second :: rest]
    else []
  | [only] => if only.isDigit then [[]] else []
  | [] => []

/-- Whether a text is made of sexagesimal places and then an ending of some form. -/
def isSexagesimal (ending : List Char → Bool) : Nat → List Char → Bool
  | rounds + 1, ':' :: rest =>
    (sexagesimalPlaces rest).any fun more => ending more || isSexagesimal ending rounds more
  | _, _ => false

/-- Whether a text has the form of an integer. -/
def isInteger (characters : List Char) : Bool :=
  match unsigned characters with
  | '0' :: rest =>
    rest.isEmpty || rest.all (fun digit => ('0' ≤ digit && digit ≤ '7') || digit == '_') ||
      (match rest with
      | 'b' :: digits => allOf (fun digit => digit == '0' || digit == '1' || digit == '_') digits
      | 'x' :: digits =>
        allOf (fun digit => (hexValue? digit).isSome || digit == '_') digits
      | _ => false)
  | first :: rest =>
    first.isDigit &&
      (rest.all isSpacedDigit ||
        isSexagesimal List.isEmpty rest.length (rest.dropWhile isSpacedDigit))
  | [] => false

/-- Whether a text is an exponent with its sign, or empty. -/
def isExponent : List Char → Bool
  | [] => true
  | marker :: sign :: digits =>
    (marker == 'e' || marker == 'E') && (sign == '-' || sign == '+') && allOf Char.isDigit digits
  | _ => false

/-- Whether a text is a point, digits, and what may follow them. -/
def isFraction (ending : List Char → Bool) : List Char → Bool
  | '.' :: rest => ending (rest.dropWhile isSpacedDigit)
  | _ => false

/-- Whether a text has the form of a real number. -/
def isReal (characters : List Char) : Bool :=
  let body := unsigned characters
  let afterDigits := body.dropWhile isSpacedDigit
  (body.head?.any Char.isDigit &&
    (isFraction isExponent afterDigits ||
      isSexagesimal (isFraction List.isEmpty) afterDigits.length afterDigits)) ||
  (match characters with
    | '.' :: rest => rest.head?.any Char.isDigit && isExponent (rest.dropWhile isSpacedDigit)
    | _ => false) ||
  ([".inf", ".Inf", ".INF"].map String.toList).contains body ||
  ([".nan", ".NaN", ".NAN"].map String.toList).contains characters

/-- The words for truth and for falsehood. -/
def truthWords : List (String × Bool) :=
  [("yes", true), ("no", false), ("true", true), ("false", false), ("on", true), ("off", false)]

/-- Whether a text is a word in small letters, in capitals, or with a capital in front. -/
def isSpelling (word text : String) : Bool :=
  text == word || text == word.map Char.toUpper || text == word.capitalize

/-- The words for nothing. -/
def nullWords : List String := ["~", "null", "Null", "NULL", ""]

/-! ### Tags of nodes -/

namespace Tag

/-- The tag of a plain scalar. -/
def ofPlain (text : String) : Tag :=
  let characters := text.toList
  if truthWords.any fun word => isSpelling word.1 text then boolean
  else if isReal characters then real
  else if isInteger characters then integer
  else if text == "<<" then merge
  else if nullWords.contains text then null
  else if (Timestamp.ofCharacters? characters).any Timestamp.isPlain then timestamp
  else if text == "=" then value
  else string

/-- The address that all standard tags begin with. -/
def standard : String := "tag:yaml.org,2002:"

/-- The ends of the addresses of standard tags. -/
def names : List (String × Tag) :=
  [("null", null), ("bool", boolean), ("int", integer), ("float", real), ("binary", binary),
    ("timestamp", timestamp), ("omap", orderedMapping), ("pairs", pairs), ("set", set),
    ("str", string), ("seq", sequence), ("map", mapping), ("merge", merge), ("value", value)]

/-- The tag with an address. -/
def ofAddress (address : String) : Tag :=
  ((names.find? fun entry => standard ++ entry.1 == address).map Prod.snd).getD unknown

end Tag

end ScenarioTree.Yaml
