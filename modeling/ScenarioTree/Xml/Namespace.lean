/-
This file gives names their namespaces. The attributes of a tag that declare namespaces extend the
scope of its element; then the other attributes and the element itself are looked up in it. A name
without a prefix belongs to the default namespace if it is an element's, and to none if it is an
attribute's.
-/

import ScenarioTree.Xml.Fault
import ScenarioTree.Xml.Element
import ScenarioTree.Xml.Writer

namespace ScenarioTree.Xml

/-- The namespaces of prefixes, the innermost declaration first. The empty prefix is the default
one, and an empty namespace is none. -/
abbrev Scope := List (String × String)

/-- The namespace that must not be declared at all. -/
def xmlnsSpace : String := "http://www.w3.org/2000/xmlns/"

/-- The prefix of a qualified name, if it has one, and its local part. -/
def splitName (name : String) : Option String × String :=
  let before := name.toList.takeWhile (· != ':')
  match name.toList.dropWhile (· != ':') with
  | [] => (none, name)
  | _ :: rest => (some (String.ofList before), String.ofList rest)

/-- The prefix that an attribute of a name declares, if it declares one. -/
def declaredPrefix? (name : String) : Option String :=
  if name == "xmlns" then some ""
  else match splitName name with
    | (some "xmlns", declared) => some declared
    | _ => none

namespace Scope

/-- The namespaces that every document begins with. -/
def initial : Scope := [("xml", xmlSpace)]

/-- The scope with a prefix declared. Prefixes cannot be undeclared, the reserved ones not
redeclared, and the reserved namespaces not given to other prefixes; a closing brace would end the
namespace in a name. -/
def declare (scope : Scope) (declared space : String) : Except Reason Scope :=
  if space.isEmpty && !declared.isEmpty then .error .undeclaredPrefix
  else if declared == "xmlns" then .error .reservedXmlns
  else if space.toList.contains '\x7d' then .error .malformedSyntax
  else if declared == "xml" && space != xmlSpace then .error .reservedXml
  else if declared != "xml" && space == xmlSpace then .error .reservedNamespace
  else if declared != "xml" && space == xmlnsSpace then .error .reservedNamespace
  else .ok ((declared, space) :: scope)

/-- The name of an element. -/
def elementName (scope : Scope) (name : String) : Except Reason Name :=
  match splitName name with
  | (none, localPart) => .ok ⟨(scope.lookup "").getD "", localPart⟩
  | (some declared, localPart) =>
    match scope.lookup declared with
    | some space => .ok ⟨space, localPart⟩
    | none => .error .unboundPrefix

/-- The name of an attribute. -/
def attributeName (scope : Scope) (name : String) : Except Reason Name :=
  match splitName name with
  | (none, localPart) => .ok ⟨"", localPart⟩
  | (some declared, localPart) =>
    match scope.lookup declared with
    | some space => .ok ⟨space, localPart⟩
    | none => .error .unboundPrefix

/-- The attributes of a tag with their full names. No two of them may have the same one. -/
def attributes (scope : Scope) (written : List (String × String)) :
    Except Reason (List Attribute) :=
  written.foldlM
    (fun named given => do
      let name ← scope.attributeName given.1
      if named.any (·.name == name) then .error .duplicateAttribute
      else return named ++ [⟨name, given.2⟩])
    []

end Scope

end ScenarioTree.Xml
