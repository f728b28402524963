/-
  Wayfinder/Command/Run.lean
  ==========================
  **Running commands.**

  A command reads files and perhaps the input; it shows something, may change files, and
  may fail.  What it showed before it failed stays.
-/
import Wayfinder.Cache
import Wayfinder.Command
import Wayfinder.Failure
import Wayfinder.Files
import Wayfinder.Manifest.Loading
import Wayfinder.Method
import Wayfinder.Report
import Wayfinder.Service
import Wayfinder.Settings
import Wayfinder.Snapshot.Codec
import Wayfinder.Unicode.Uppercase

namespace Wayfinder

/-- What a run leaves behind. -/
structure Outcome where
  files : Files
  output : String
  failure : Option Failure

namespace Outcome

/-- A run that changed no file and failed before it showed anything. -/
def failed (fs : Files) (f : Failure) : Outcome := ⟨fs, "", some f⟩

/-- A run that changed no file and showed something. -/
def showed (fs : Files) (output : String) : Outcome := ⟨fs, output, none⟩

end Outcome

namespace Command

/-! ## 1. Inspecting -/

/-- What an inspection shows. -/
def inspectionText (router : Router) : OutputFormat → String
  | .text => router.inspection
  | .json => (Snapshot.ofRouter router).encode ++ "\n"

/-- Show a manifest. -/
def runInspect (fs : Files) (routes : String) (format : OutputFormat) : Outcome :=
  match Router.load fs routes with
  | .ok router => .showed fs (inspectionText router format)
  | .error f => .failed fs f

/-! ## 2. Resolving -/

/-- The method that a command line names; case does not count. -/
def methodOf (name : String) : Except Failure Method :=
  let token := Unicode.Uppercase.ofText name
  match Method.ofToken? token with
  | some m => .ok m
  | none => .error (.note token)

/-- The method of a command line that may name none. -/
def methodOf? : Option String → Except Failure (Option Method)
  | some name => (methodOf name).map some
  | none => .ok none

/-- Open the router of a manifest, through a cache if there is one. -/
def openRouter (fs : Files) (routes : String) : Option String → Cache.Opening
  | some cache => Cache.loadOrRebuild fs cache (some routes) fun _ => Router.load fs routes
  | none => ⟨Router.load fs routes, fs, true⟩

/-- Why a run fails that may not miss a path. -/
def missFailure (misses total : Nat) : Failure :=
  .note (toString misses ++ " of " ++ toString total ++ " paths did not resolve")

/-- Resolve paths. -/
def resolvePaths (fs : Files) (router : Router) (method : Option Method) (failOnMiss : Bool)
    (paths : List String) : Outcome :=
  let misses := (paths.filter (router.misses method)).length
  { files := fs
    output := String.join (paths.map (router.resolutionLine method))
    failure :=
      if failOnMiss && misses > 0 then some (missFailure misses paths.length) else none }

/-- Resolve paths with the router of a manifest. -/
def runResolve (fs : Files) (routes : String) (cache method : Option String)
    (failOnMiss : Bool) (paths : List String) : Outcome :=
  match methodOf? method with
  | .error f => .failed fs f
  | .ok method =>
    let opening := openRouter fs routes cache
    match opening.router with
    | .error f => .failed opening.files f
    | .ok router => resolvePaths opening.files router method failOnMiss paths

/-! ## 3. Compiling -/

/-- What is shown after a table was written. -/
def compiledText (s : Snapshot) (out : String) : String :=
  "compiled " ++ toString s.routes.length ++ " routes (" ++ toString s.entries.length ++
    " table rows) into " ++ out ++ "\n"

/-- The snapshot of a manifest, with the hash of the manifest. -/
def snapshotOf (fs : Files) (routes : String) : Except Failure Snapshot := do
  let router ← Router.load fs routes
  match fs.read routes with
  | .ok content => return { Snapshot.ofRouter router with sourceHash := some (sourceHash content) }
  | .error fault => .error ⟨["failed to read `" ++ routes ++ "`"], .file fault⟩

/-- Write the table of a manifest. -/
def runCompile (fs : Files) (routes out : String) : Outcome :=
  match snapshotOf fs routes with
  | .error f => .failed fs f
  | .ok s =>
    match Cache.write fs out s with
    | .ok fs => .showed fs (compiledText s out)
    | .error fault => .failed fs ⟨["failed to write `" ++ out ++ "`"], .cache fault⟩

/-! ## 4. Watching -/

/-- Answer the input. -/
def runWatch (fs : Files) (input : Bytes) (routes : String) : Outcome :=
  match Service.start fs routes with
  | .error f => .failed fs f
  | .ok service =>
    let (output, failure) := service.serve input
    ⟨fs, output, failure⟩

/-! ## 5. Commands -/

/-- The cache of a command.  One that the command names goes before the one of the
    settings. -/
def cacheFor (settings : Settings) (cache : Option String) : Option String :=
  cache <|> settings.tableCache

/-- The paths of the files that a command may read or write. -/
def places (settings : Settings) : Command → List String
  | .inspect routes _ | .watch routes _ => [routes]
  | .resolve routes cache .. => routes :: (cacheFor settings cache).toList
  | .compile routes out => [routes, out]

/-- Run a command. -/
def run (settings : Settings) (fs : Files) (input : Bytes) : Command → Outcome
  | .inspect routes format => runInspect fs routes format
  | .resolve routes cache method failOnMiss paths =>
    runResolve fs routes (cacheFor settings cache) method failOnMiss paths
  | .compile routes out => runCompile fs routes out
  | .watch routes _ => runWatch fs input routes

end Command

end Wayfinder
