/-
  Wayfinder/Main.lean
  ===================
  **The program.**

  The files that a command names are read, the command is run on them, and what it shows
  or changes is passed on.  When a manifest is watched, lines are answered as they come,
  and the manifest is looked at again before that.
-/
import Wayfinder.Command
import Wayfinder.Command.Arguments
import Wayfinder.Command.Run
import Wayfinder.Failure
import Wayfinder.Files
import Wayfinder.Service
import Wayfinder.Settings

namespace Wayfinder

/-! ## 1. The world -/

/-- The variables that the program looks at. -/
def readEnvironment : IO Environment := do
  let names := [Arguments.routesVariable, "WILDROUTE_TABLE_CACHE", "WILDROUTE_HOT_RELOAD",
    "WILDROUTE_SLOW_RESOLVE_US"]
  let found ← names.mapM fun name => do
    return (← IO.getEnv name).map fun value => (name, value)
  return found.filterMap id

/-- What stands at a path. -/
def readNode (path : String) : IO (Option FileNode) := do
  try
    return some (.file (← IO.FS.readBinFile path).toList)
  catch
    | .inappropriateType .. => return some .directory
    | _ => return none

/-- The tree of what stands at some paths. -/
def readFiles (paths : List String) : IO Files :=
  paths.foldlM (fun fs path => do return fs.plant path (← readNode path)) .empty

/-- Write the file at a path if it has changed. -/
def writeChange (before after : Files) (path : String) : IO Unit := do
  match after.read path with
  | .ok content =>
    if (before.read path).toOption != some content then
      IO.FS.writeBinFile path ⟨content.toArray⟩
  | .error _ => return ()

/-- Tell why a command failed, if it did. -/
def report (failure : Option Failure) : IO UInt32 := do
  match failure with
  | none => return 0
  | some f =>
    IO.eprintln ("Error: " ++ f.message)
    return 1

/-! ## 2. Watching -/

/-- Read the manifest again if it has changed. -/
def refresh (service : Service) (fs : Files) (path : String) : IO (Service × Files) := do
  let now ← readFiles [path]
  if now == fs then return (service, fs)
  else
    let (service, count) := service.reload now path
    match count with
    | .ok _ => return (service, now)
    | .error f =>
      IO.eprintln ("keeping the previous routes: " ++ f.message)
      return (service, now)

/-- The part of an input up to its last line break, and the rest. -/
def completeLines (input : Bytes) : Bytes × Bytes :=
  let back := input.reverse
  ((back.dropWhile (· ≠ 10)).reverse, (back.takeWhile (· ≠ 10)).reverse)

/-- Answer the input as it comes. -/
partial def watch (service : Service) (fs : Files) (path : String) (reloads : Bool)
    (waiting : Bytes) (input output : IO.FS.Stream) : IO UInt32 := do
  let chunk ← input.read 4096
  let (ready, waiting) :=
    if chunk.isEmpty then (waiting, []) else completeLines (waiting ++ chunk.toList)
  let (service, fs) ← if reloads then refresh service fs path else pure (service, fs)
  let (answers, failure) := service.serve ready
  output.putStr answers
  output.flush
  if failure.isSome || chunk.isEmpty then report failure
  else watch service fs path reloads waiting input output

/-- Start to watch a manifest. -/
def startWatch (settings : Settings) (path : String) (noReload : Bool) : IO UInt32 := do
  let fs ← readFiles [path]
  match Service.start fs path with
  | .error f => report (some f)
  | .ok service =>
    watch service fs path (settings.hotReload && !noReload) [] (← IO.getStdin) (← IO.getStdout)

/-! ## 3. Commands -/

/-- Write the files that have changed, and tell whether that succeeded. -/
def writeChanges (before after : Files) (places : List String) : IO Bool := do
  try
    places.forM (writeChange before after)
    return true
  catch e =>
    IO.eprintln ("Error: failed to write: " ++ toString e)
    return false

/-- Run a command to its end.  Only a command whose purpose is to write fails when writing
    does. -/
def runToEnd (settings : Settings) (command : Command) : IO UInt32 := do
  let places := command.places settings
  let before ← readFiles places
  let outcome := command.run settings before []
  let written ← writeChanges before outcome.files places
  match command, written with
  | .compile .., false => return 1
  | _, _ =>
    IO.print outcome.output
    report outcome.failure

end Wayfinder

open Wayfinder in
/-- Run the program. -/
def main (args : List String) : IO UInt32 := do
  let env ← readEnvironment
  let settings := Settings.ofEnvironment env
  match Command.ofArguments env args with
  | .error fault =>
    IO.eprintln fault.message
    return if fault = .helpAsked then 0 else 2
  | .ok (.watch routes noReload) => startWatch settings routes noReload
  | .ok command => runToEnd settings command
