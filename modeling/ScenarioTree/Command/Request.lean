/-
This file reads the arguments of the command line. There are three commands, each for one file, and
two of them take options; instead of a command the version may be asked for. Options may stand on
either side of the file, two dashes end them, and of options that exclude each other the last one
counts. Arguments that are not of this form are a request for nothing.
-/

import ScenarioTree.File.Location

namespace ScenarioTree.Command

open ScenarioTree.File (Location)

/-- What is asked for in options: a level of reporting, and a file of options. -/
structure Choice where
  verbose : Option Bool := none
  config : Option Location := none
  deriving DecidableEq

/-- What is asked for. -/
inductive Request where
  | version
  | parse (file : Location) (choice : Choice)
  | check (file : Location)
  | dump (file : Location) (choice : Choice)
  deriving DecidableEq

/-- The name of the program. -/
def programName : String := "zest"

/-- The version of the program. -/
def programVersion : String := "0.1.0"

/-! ### Arguments of a command -/

/-- What the arguments of a command give. -/
structure Given where
  files : List String
  choice : Choice

/-- Whether an argument has the form of an option. -/
def isOption (argument : String) : Bool :=
  argument.startsWith "-" && argument != "-"

/-- The value of the file option when it is written in one piece. -/
def attachedConfig? (argument : String) : Option String :=
  let mark := "--config=".toList
  if mark.isPrefixOf argument.toList then some (String.ofList (argument.toList.drop mark.length))
  else none

/-- The arguments of a command that takes options. -/
def readWithOptions (given : Given) : List String → Option Given
  | [] => some given
  | "--" :: files => some { given with files := given.files ++ files }
  | "--verbose" :: rest =>
    readWithOptions { given with choice := { given.choice with verbose := some true } } rest
  | "--quiet" :: rest =>
    readWithOptions { given with choice := { given.choice with verbose := some false } } rest
  | "--config" :: config :: rest =>
    readWithOptions
      { given with choice := { given.choice with config := some (.ofText config) } } rest
  | argument :: rest =>
    match attachedConfig? argument with
    | some config =>
      readWithOptions
        { given with choice := { given.choice with config := some (.ofText config) } } rest
    | none =>
      if isOption argument then none
      else readWithOptions { given with files := given.files ++ [argument] } rest

/-- The arguments of a command that takes none. -/
def readFiles (files : List String) : List String → Option (List String)
  | [] => some files
  | "--" :: rest => some (files ++ rest)
  | argument :: rest =>
    if isOption argument then none else readFiles (files ++ [argument]) rest

/-- The request of a command for its file with its options. -/
def withOptions (request : Location → Choice → Request) (arguments : List String) :
    Option Request :=
  match readWithOptions ⟨[], {}⟩ arguments with
  | some ⟨[file], choice⟩ => some (request (.ofText file) choice)
  | _ => none

/-- The request of a command by its name. -/
def ofCommand (name : String) (arguments : List String) : Option Request :=
  if name == "parse" then withOptions .parse arguments
  else if name == "dump" then withOptions .dump arguments
  else if name == "check" then
    match readFiles [] arguments with
    | some [file] => some (.check (.ofText file))
    | _ => none
  else none

/-- Whether there is a command of a name. -/
def isCommand (name : String) : Bool :=
  ["parse", "check", "dump"].contains name

/-! ### Requests -/

/-- The arguments before a command: whether the version is asked for, and what follows. -/
def leading (asked : Bool) : List String → Option (Bool × List String)
  | [] => some (asked, [])
  | "--" :: rest => some (asked, rest)
  | "--version" :: rest => leading true rest
  | argument :: rest => if isOption argument then none else some (asked, argument :: rest)

/-- The request that arguments make. Where a command is expected, the version may still be asked
for. -/
def Request.ofArguments (arguments : List String) : Option Request :=
  match leading false arguments with
  | none => none
  | some (true, _) => some .version
  | some (false, []) => none
  | some (false, name :: rest) =>
    if isCommand name then ofCommand name rest
    else
      match leading false (name :: rest) with
      | some (true, _) => some .version
      | _ => none

end ScenarioTree.Command
