/-
This file is the program: it looks at the files that the arguments name, carries out the request and
writes what comes of it.
-/

import ScenarioTree.Command.Run

open ScenarioTree ScenarioTree.Command

/-- The number of the system error for reading a directory. -/
def directoryCode : UInt32 := 21

/-- What is found at a location. -/
def lookUp (location : File.Location) : IO File.Found := do
  try
    return .bytes (← IO.FS.readBinFile location.text)
  catch
    | .inappropriateType _ code _ =>
      return if code == directoryCode then .directory else .behindFile
    | _ => return .missing

/-- What is found at several locations. -/
def lookAll (locations : List File.Location) : IO (File.Location → File.Found) := do
  let found ← locations.mapM fun location => return (location, ← lookUp location)
  return fun location => (found.lookup location).getD .missing

/-- How the program is used. -/
def usage : String :=
  "Usage: zest [--version] (parse | check | dump) FILE [--verbose | --quiet] [--config FILE]"

/-- The program. -/
def main (arguments : List String) : IO UInt32 := do
  match Request.ofArguments arguments with
  | none =>
    IO.eprintln usage
    return 2
  | some request =>
    match request.run (← lookAll request.locations) with
    | .error _ =>
      IO.eprintln "Error: a file cannot be read"
      return 1
    | .ok output =>
      IO.print output.stdout
      IO.eprint (output.errorText false)
      return UInt32.ofNat output.exit
