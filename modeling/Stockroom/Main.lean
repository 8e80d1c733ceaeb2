import Stockroom.CommandLine.Run
import Stockroom.Report.Plain

/-! # The program

Looks up the environment and the one file that a run needs, and prints the outcome of the run, or
that it has none.
-/
namespace Stockroom

def isPresent (p : Path) : IO Bool := do
  try
    discard <| IO.FS.realPath (String.ofList p.toText)
    return true
  catch _ => return false

/-- What reading tells about a path. What is there and cannot be read is a directory; of the others
a path that is no proper argument is too long. -/
def fileState (p : Path) : IO FileState := do
  let present ← isPresent p
  try
    return .file (← IO.FS.readBinFile (String.ofList p.toText)).toList
  catch
    | .permissionDenied .. => return .denied
    | .invalidArgument .. => return if present then .directory else .tooLong
    | _ => return if present then .directory else .missing

def homesIn (table : Text) : List (Text × Text) :=
  (Text.cut '\n' table).filterMap fun line =>
    match Text.cut ':' line with
    | user :: _ :: _ :: _ :: _ :: home :: _ => some (user, home)
    | _ => none

def readHomes : IO (List (Text × Text)) := do
  try
    return homesIn (← IO.FS.readFile "/etc/passwd").toList
  catch _ => return []

def lookAround : IO Surroundings := do
  let cwd := Path.ofText (toString (← IO.currentDir)).toList
  let markers := cwd.upwards.flatMap fun directory => rootMarkers.map directory.child
  let found ← markers.filterM fun p => isPresent p
  let own := (← IO.getEnv "HOME").map String.toList
  let homes ← readHomes
  return {
    cwd := cwd
    homeOf := fun user => if user.isEmpty then own else homes.lookup user
    catalogOverride := (← IO.getEnv "STOCKQ_CATALOG_PATH").map String.toList
    logLevelName := (← IO.getEnv "STOCKQ_LOG_LEVEL").map String.toList
    present := fun p => found.contains p }

def usage : String :=
  "usage: stockq [-v] search [QUERY] [-H] [-s ORDER] [--desc] [-n LIMIT] [-c CATALOG]\n" ++
  "       stockq [-v] explain QUERY\n       stockq fields"

end Stockroom

open Stockroom in
def main (arguments : List String) : IO UInt32 := do
  let surroundings ← lookAround
  match Request.ofArguments (arguments.map String.toList) with
  | .misuse =>
    IO.eprintln usage
    return 2
  | .help =>
    IO.println usage
    return 0
  | .run verbose command =>
    let state ← match command with
      | .search request =>
        match request.catalogPath surroundings with
        | some path => fileState path
        | none => pure .missing
      | _ => pure .missing
    let level := surroundings.logLevel verbose
    let some outcome := command.run level surroundings fun _ => state
      | IO.eprintln (String.ofList LoadFault.loneHalf.message)
        return 1
    for message in outcome.messages do
      IO.eprintln (String.ofList message)
    if let some failure := outcome.failure then
      IO.eprintln (String.ofList failure.name)
    for report in outcome.printed do
      for line in report.lines do
        IO.println (String.ofList line)
    return UInt32.ofNat outcome.exitCode
