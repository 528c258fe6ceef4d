/-
This file says what the nodes of a document denote. A scalar is read as its tag demands; a
collection is built from its entries after the mappings that it merges have been put in front of
them, so that its own entries win.
-/

import ScenarioTree.Number.Literal
import ScenarioTree.Text.Newline
import ScenarioTree.Text.Pieces
import ScenarioTree.Yaml.Layout
import ScenarioTree.Yaml.Node
import ScenarioTree.Yaml.Value

namespace ScenarioTree.Yaml

/-! ### Numbers -/

/-- Characters without underscores. -/
def withoutUnderscores (characters : List Char) : List Char :=
  characters.filter (· != '_')

/-- An integer of digits of some base, the sign and the blanks around it aside. -/
def integerOfBase (base : Nat) (characters : List Char) : Except Fault Int :=
  let (negative, digits) := Number.splitSign (Text.trim characters)
  let value? : Option Nat := digits.foldlM (fun value digit =>
    match hexValue? digit with
    | some known => if known < base then some (base * value + known) else none
    | none => none) 0
  match value? with
  | none => .error .outOfRange
  | some value =>
    if digits.isEmpty || (base == 10 && Number.digitLimit < digits.length) then .error .outOfRange
    else .ok (Number.signed negative value)

/-- The value of sexagesimal places, the first one of the highest power. -/
def sexagesimal (places : List Int) : Int :=
  places.foldl (fun value place => 60 * value + place) 0

/-- An integer in any of its notations. -/
def integerOf (characters : List Char) : Except Fault Int := do
  let body := withoutUnderscores characters
  match body with
  | [] => .error .nothingToRead
  | first :: _ =>
    let factor : Int := if first == '-' then -1 else 1
    let digits := unsigned body
    match digits with
    | [] => .error .nothingToRead
    | ['0'] => return 0
    | '0' :: 'b' :: rest => return factor * (← integerOfBase 2 rest)
    | '0' :: 'x' :: rest => return factor * (← integerOfBase 16 rest)
    | '0' :: _ => return factor * (← integerOfBase 8 digits)
    | _ =>
      if digits.contains ':' then
        return factor * sexagesimal (← (Text.pieces ':' digits).mapM (integerOfBase 10))
      else return factor * (← integerOfBase 10 digits)

/-- A decimal, the blanks around it aside. -/
def decimalOf (characters : List Char) : Except Fault Number.Double :=
  let trimmed := Text.trim characters
  match Number.Decimal.ofCharacters? trimmed with
  | some decimal => .ok decimal.toDouble
  | none =>
    let (negative, word) := Number.splitSign trimmed
    if word = "inf".toList || word = "infinity".toList then .ok (.infinite negative)
    else if word = "nan".toList then .ok .undefined
    else .error .outOfRange

/-- The other sign of a double. -/
def opposite : Number.Double → Number.Double
  | .finite value => .finite ⟨!value.negative, value.rank, value.rank_lt⟩
  | .infinite negative => .infinite (!negative)
  | .undefined => .undefined

/-- A magnitude in units of `2 ^ -1074`, rounded to a double. -/
def roundedUnits (units : Nat) : Number.Double :=
  match Number.Finite.nearest? false units (Nat.pow 2 1074) with
  | some value => .finite value
  | none => .infinite false

/-- The magnitude of a finite double in units of `2 ^ -1074`. -/
def unitsOf : Number.Double → Nat
  | .finite value => value.units
  | _ => 0

/-- The sum of sexagesimal places, the last one of the lowest power, each step rounded. -/
def sexagesimalSum (places : List Number.Double) : Number.Double :=
  let step (sum : Number.Double × Nat) (place : Number.Double) : Number.Double × Nat :=
    (roundedUnits (unitsOf sum.1 + unitsOf (roundedUnits (unitsOf place * sum.2))), 60 * sum.2)
  (places.reverse.foldl step (roundedUnits 0, 1)).1

/-- A real number in any of its notations. -/
def realOf (characters : List Char) : Except Fault Number.Double := do
  let body := (withoutUnderscores characters).map Char.toLower
  match body with
  | [] => .error .nothingToRead
  | first :: _ =>
    let digits := unsigned body
    let magnitude ←
      if digits = ".inf".toList then pure (.infinite false)
      else if digits = ".nan".toList then pure .undefined
      else if digits.contains ':' then sexagesimalSum <$> (Text.pieces ':' digits).mapM decimalOf
      else decimalOf digits
    return if first == '-' then opposite magnitude else magnitude

/-! ### Other scalars -/

/-- The value of a character of the base 64 alphabet. -/
def base64Value? (character : Char) : Option Nat :=
  let code := character.toNat
  if 'A' ≤ character && character ≤ 'Z' then some (code - 65)
  else if 'a' ≤ character && character ≤ 'z' then some (code - 71)
  else if '0' ≤ character && character ≤ '9' then some (code + 4)
  else if character == '+' then some 62
  else if character == '/' then some 63
  else none

/-- Bytes in base 64, characters outside of its alphabet aside. The four places of a group are
counted by `place`, `carried` holds the bits that no byte has taken yet, and `signs` counts the
equals signs since the last character: two places and as many signs end the text, or three and
one. -/
def base64Bytes (place carried signs : Nat) : List Char → Except Fault (List UInt8)
  | [] => if place = 0 then .ok [] else .error .malformed
  | '=' :: rest =>
    if place < 2 then base64Bytes place carried signs rest
    else if 4 ≤ place + signs + 1 then .ok []
    else base64Bytes place carried (signs + 1) rest
  | character :: rest =>
    match base64Value? character with
    | none => base64Bytes place carried signs rest
    | some value =>
      if place = 0 then base64Bytes 1 value 0 rest
      else do
        let bits := 64 * carried + value
        let unit := Nat.pow 2 (6 - 2 * place)
        let more ← base64Bytes ((place + 1) % 4) (bits % unit) 0 rest
        return UInt8.ofNat (bits / unit) :: more

/-- What a scalar denotes under a tag. -/
def scalarValue (tag : Tag) (text : String) : Except Fault Value :=
  match tag with
  | .null => .ok .null
  | .boolean =>
    match truthWords.lookup (text.map Char.toLower) with
    | some value => .ok (.boolean value)
    | none => .error .unknownWord
  | .integer => (integerOf text.toList).map fun value => .number (.integer value)
  | .real => (realOf text.toList).map fun value => .number (.real value)
  | .binary =>
    if text.toList.all (·.toNat < 128) then (base64Bytes 0 0 0 text.toList).map .bytes
    else .error .malformed
  | .timestamp =>
    match Timestamp.ofCharacters? text.toList with
    | none => .error .notTimestamp
    | some stamp => if stamp.isValid then .ok (.timestamp stamp) else .error .outOfRange
  | .string => .ok (.text text)
  | _ => .error .malformed

/-! ### Merging -/

/-- The tag of a node, if it has one of its own. -/
def Node.tag? : Node → Option Tag
  | .scalar tag _ => some tag
  | .sequence tag _ => some tag
  | .mapping tag _ => some tag
  | .enclosing _ => none

/-- The entries of a merged node that is a mapping. -/
def entriesOf : Node → Except Fault (List (Node × Node))
  | .mapping _ entries => .ok entries
  | .enclosing true => .ok []
  | _ => .error .malformed

/-- The entries that a merged value brings in. Of several mappings the first one wins, so it comes
last. -/
def mergedEntries : Node → Except Fault (List (Node × Node))
  | .sequence _ items => do return (← items.mapM entriesOf).reverse.flatten
  | node => entriesOf node

/-- A key under the tag that it has in a mapping: the sign of a default value is a text. -/
def keyNode : Node → Node
  | .scalar .value text => .scalar .string text
  | node => node

mutual

/-- A node in which every mapping has been merged. -/
def Node.merge : Node → Except Fault Node
  | .scalar tag text => .ok (.scalar tag text)
  | .sequence tag items => do return .sequence tag (← mergeItems items)
  | .mapping tag entries => do
    let (brought, own) ← mergeEntries entries
    return .mapping tag (brought ++ own)
  | .enclosing isMapping => .ok (.enclosing isMapping)

/-- The merged items of a sequence. -/
def mergeItems : List Node → Except Fault (List Node)
  | [] => .ok []
  | item :: rest => do return (← item.merge) :: (← mergeItems rest)

/-- The entries that a mapping is brought by others, and its own. -/
def mergeEntries : List (Node × Node) → Except Fault (List (Node × Node) × List (Node × Node))
  | [] => .ok ([], [])
  | (key, value) :: rest => do
    let key ← key.merge
    let value ← value.merge
    let (brought, own) ← mergeEntries rest
    if key.tag? = some .merge then return ((← mergedEntries value) ++ brought, own)
    else return (brought, (keyNode key, value) :: own)

end

/-! ### Values -/

mutual

/-- What a merged node denotes. -/
def Node.value : Node → Except Fault Value
  | .scalar tag text => scalarValue tag text
  | .sequence .sequence items => do return .list (← itemValues items)
  | .sequence .orderedMapping items => do return .list (← pairValues items)
  | .sequence .pairs items => do return .list (← pairValues items)
  | .sequence _ _ => .error .malformed
  | .mapping .mapping entries => do return .mapping (← entryValues entries [])
  | .mapping .set entries => do
    return .set ((← entryValues entries []).map Prod.fst)
  | .mapping _ _ => .error .malformed
  | .enclosing isMapping => .ok (.enclosing isMapping)

/-- What the items of a sequence denote. -/
def itemValues : List Node → Except Fault (List Value)
  | [] => .ok []
  | item :: rest => do return (← item.value) :: (← itemValues rest)

/-- What mappings of one entry each denote as pairs. -/
def pairValues : List Node → Except Fault (List Value)
  | [] => .ok []
  | .mapping _ [(key, value)] :: rest => do
    return .pair (← key.value) (← value.value) :: (← pairValues rest)
  | _ :: _ => .error .malformed

/-- What the entries of a mapping denote, put behind those before them. -/
def entryValues : List (Node × Node) → List (Value × Value) →
    Except Fault (List (Value × Value))
  | [], known => .ok known
  | (key, value) :: rest, known => do
    let key ← key.value
    if key.mayBeKey then
      let value ← value.value
      entryValues rest (Value.put key value known)
    else .error .malformed

end

/-! ### Documents -/

/-- What a text denotes; an empty one denotes nothing. -/
def read (text : String) : Except Fault Value := do
  match ← Node.ofTokens? (← tokens (Text.unifyNewlines text.toList)) with
  | none => return .null
  | some node => (← node.merge).value

end ScenarioTree.Yaml
