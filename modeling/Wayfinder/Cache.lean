/-
  Wayfinder/Cache.lean
  ====================
  **Snapshots in files.**

  A router that comes from a manifest can be kept in a file beside it.  The file is used
  again only if it is intact and tells the hash of the manifest as it is now; otherwise
  the router is built anew and the file is replaced.  What goes wrong with the file never
  keeps a router from being opened.
-/
import Wayfinder.Cache.Fault
import Wayfinder.Failure
import Wayfinder.Files
import Wayfinder.Json.Reader
import Wayfinder.Router
import Wayfinder.Snapshot
import Wayfinder.Snapshot.Codec

namespace Wayfinder.Cache

/-! ## 1. Reading and writing -/

/-- The snapshot in a text.  Its version is looked at first, since another version may
    have another layout. -/
def ofText (text : String) : Except Fault Snapshot :=
  match (Json.parse text).bind Snapshot.versionOf? with
  | none => .error .format
  | some found =>
    if found ≠ formatVersion then .error (.refused (.version found))
    else
      match Snapshot.decode? text with
      | some s => .ok s
      | none => .error .format

/-- Read the snapshot in a file. -/
def read (fs : Files) (path : String) : Except Fault Snapshot :=
  match fs.readText path with
  | .ok text => ofText text
  | .error fault => .error (.file path fault)

/-- Write a snapshot into a file. -/
def write (fs : Files) (path : String) (s : Snapshot) : Except Fault Files :=
  (fs.write path (bytesOfText s.encode)).mapError (.file path)

/-! ## 2. Opening a router -/

/-- What became of opening a router. -/
structure Opening where
  router : Except Failure Router
  files : Files
  /-- Whether the router was built anew. -/
  rebuilt : Bool

/-- The router of a stored snapshot, if the snapshot can be trusted.  With a hash to
    expect, the snapshot has to tell the same one. -/
def trusted? (fs : Files) (path : String) (expected : Option String) : Option Router :=
  match read fs path with
  | .error _ => none
  | .ok s =>
    if expected.isSome && s.sourceHash != expected then none
    else
      match s.toRouter with
      | .ok router => some router
      | .error _ => none

/-- Keep a router in a file, if the file can be written. -/
def keep (fs : Files) (path : String) (hash : Option String) (router : Router) : Files :=
  match write fs path { Snapshot.ofRouter router with sourceHash := hash } with
  | .ok fs => fs
  | .error _ => fs

/-- Build a router, and keep it. -/
def rebuildInto (fs : Files) (path : String) (hash : Option String)
    (rebuild : Unit → Except Failure Router) : Opening :=
  match rebuild () with
  | .ok router => ⟨.ok router, keep fs path hash router, true⟩
  | .error f => ⟨.error f, fs, true⟩

/-- Use the stored snapshot, or build the router and keep it. -/
def useOrRebuild (fs : Files) (path : String) (expected : Option String)
    (rebuild : Unit → Except Failure Router) : Opening :=
  match trusted? fs path expected with
  | some router => ⟨.ok router, fs, false⟩
  | none => rebuildInto fs path expected rebuild

/-- Open a router through a file that keeps it.  The file has to come from the content
    that the source has now; when the source cannot be read, the file is left alone. -/
def loadOrRebuild (fs : Files) (path : String) (source : Option String)
    (rebuild : Unit → Except Failure Router) : Opening :=
  match source with
  | none => useOrRebuild fs path none rebuild
  | some source =>
    match fs.read source with
    | .ok content => useOrRebuild fs path (some (sourceHash content)) rebuild
    | .error _ => ⟨rebuild (), fs, true⟩

end Wayfinder.Cache
