/-
This file holds the failures of a build. A failure keeps the element that could not be built and
the cause; as a report it shows the element as markup under a heading and the cause under it.
-/

import ScenarioTree.Build.Cause
import ScenarioTree.Xml.Writer

namespace ScenarioTree.Build

/-- An element that could not be built, and why. -/
structure Failure where
  element : Xml.Element
  cause : Cause

namespace Failure

/-- The element as markup. -/
def raw (failure : Failure) : String :=
  failure.element.raw

/-- What went wrong. -/
def detail (failure : Failure) : String :=
  failure.cause.message

/-- Whether the failure is not one of bad input. -/
def unexpected (failure : Failure) : Bool :=
  failure.cause.unexpected

/-- The report of a failure. -/
def report (failure : Failure) : String :=
  (if failure.unexpected then "Unexpected error while building" else "Unable to build") ++ ":\n" ++
    failure.raw ++ "\n" ++ failure.detail

/-- Whether a failure is reported: always when it is unexpected, and otherwise when asked for. -/
def reported (verbose : Bool) (failure : Failure) : Bool :=
  failure.unexpected || verbose

end Failure

end ScenarioTree.Build
