/-
This file lists why a text cannot be read as YAML. Most texts that cannot be read are malformed;
in a few a scalar has the form of a value but there is no such value. An integer may also be out of
the range of those that can be written down again.
-/

namespace ScenarioTree.Yaml

/-- Why a text cannot be read. -/
inductive Fault where
  | malformed
  | outOfRange
  | tooLarge
  | unknownWord
  | nothingToRead
  | notTimestamp
  deriving DecidableEq

end ScenarioTree.Yaml
