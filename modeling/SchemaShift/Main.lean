import SchemaShift.Calendar.Moment
import SchemaShift.Command.Arguments
import SchemaShift.Command.Execute

/-!
# The command line

Reads the arguments, the environment and the clock, executes the command, prints what it
printed and writes its files. Databases in memory are the ones it reaches.
-/

namespace SchemaShift

/-- The time as the file system shows it for a file made just now. -/
def currentTime : IO Calendar.Civil := do
  let (_, path) ← IO.FS.createTempFile
  let made := (← path.metadata).modified.sec
  IO.FS.removeFile path
  return (Calendar.Moment.ofEpoch made.toNat).civil

def environment : IO (List (String × String)) :=
  Grammar.environmentNames.filterMapM fun name => do
    return (← IO.getEnv name).map fun value => (name, value)

def writeFiles (folder : Output.Folder) : IO Unit :=
  folder.files.entries.forM fun (path, contents) => do
    let directory := Text.join "/" (path.splitOn "/").dropLast
    if !directory.isEmpty then IO.FS.createDirAll directory
    IO.FS.writeFile path contents

def perform (args : List String) : IO UInt32 := do
  let known ← environment
  match Invocation.read (fun name => known.lookup name) args with
  | .error e =>
    IO.eprintln e.text
    return if e = .helpAsked ∨ e = .versionAsked then 0 else 2
  | .ok invocation =>
    let host : Host := { databases := .empty, folder := .empty, now := ← currentTime }
    let outcome := invocation.command.execute [] host
    IO.print outcome.printed
    writeFiles outcome.host.folder
    match outcome.result with
    | .ok () => return 0
    | .error e =>
      IO.eprintln e.text
      return 1

end SchemaShift

def main (args : List String) : IO UInt32 :=
  SchemaShift.perform args
