/-
This file reads comments and processing instructions, which may stand before, inside and after the
root element. The target of an instruction is a name without a colon. The target `xml` makes the
instruction the declaration of the document, which is dealt with where it may stand; no other
target may spell that name with capitals.
-/

import ScenarioTree.Xml.Reference

namespace ScenarioTree.Xml

/-- A comment, or an instruction with everything after its target, blanks included. -/
inductive Remark where
  | comment (body : String)
  | instruction (target rest : String)
  deriving DecidableEq

namespace Remark

/-- Whether a remark is the declaration of the document. -/
def isDeclaration : Remark → Bool
  | .comment _ => false
  | .instruction target _ => target == "xml"

/-- What has been seen of a remark, texts with the newest character first. A comment counts the
dashes that may be the beginning of its end, an instruction notes such a question mark. -/
inductive Pending where
  | dash
  | comment (seen : List Char) (dashes : Nat)
  | targetStart
  | targetName (seen : List Char)
  | targetEnd (target : String)
  | rest (target : String) (seen : List Char) (question : Bool)
  deriving DecidableEq

/-- Whether a target spells the reserved name with capitals. -/
def isReservedTarget (target : String) : Bool :=
  target != "xml" && target.map Char.toLower == "xml"

/-- One more character of a remark. -/
def Pending.step (character : Char) : Pending → Progress Pending Remark
  | .dash => if character == '-' then .more (.comment [] 0) else .invalid
  | .comment seen 0 =>
    if character == '-' then .more (.comment seen 1)
    else if isLegal character then .more (.comment (character :: seen) 0)
    else .invalid
  | .comment seen 1 =>
    if character == '-' then .more (.comment seen 2)
    else if isLegal character then .more (.comment (character :: '-' :: seen) 0)
    else .invalid
  | .comment seen _ =>
    if character == '>' then .done (.comment (String.ofList seen.reverse)) else .invalid
  | .targetStart => if isNameStart character then .more (.targetName [character]) else .invalid
  | .targetName seen =>
    if isNamePart character then .more (.targetName (character :: seen))
    else
      let target := String.ofList seen.reverse
      if isReservedTarget target then .invalid
      else if isSpace character then .more (.rest target [character] false)
      else if character == '?' then .more (.targetEnd target)
      else .invalid
  | .targetEnd target => if character == '>' then .done (.instruction target "") else .invalid
  | .rest target seen false =>
    if character == '?' then .more (.rest target seen true)
    else if isLegal character then .more (.rest target (character :: seen) false)
    else .invalid
  | .rest target seen true =>
    if character == '>' then .done (.instruction target (String.ofList seen.reverse))
    else if character == '?' then .more (.rest target ('?' :: seen) true)
    else if isLegal character then .more (.rest target (character :: '?' :: seen) false)
    else .invalid

end Remark

end ScenarioTree.Xml
