/-
  Wayfinder/Files.lean
  ====================
  **A tree of files.**

  The program reads and writes files by path.  Here they are a value: what stands below
  the current directory, or elsewhere by a path from the root or through a parent.  A
  path is followed from left to right, and what is wrong with it is told as an operating
  system would.
-/
import Wayfinder.Text.Split

namespace Wayfinder

/-- The content of a file. -/
abbrev Bytes := List UInt8

/-- The bytes of a text. -/
def bytesOfText (s : String) : Bytes := s.toUTF8.toList

/-- The text that some bytes are, if they are one. -/
def textOfBytes? (bs : Bytes) : Option String := String.fromUTF8? ⟨bs.toArray⟩

/-- What can be wrong with the use of a file. -/
inductive FileFault where
  | notFound
  | alreadyExists
  | notADirectory
  | isADirectory
  /-- A name, or the whole path, is longer than a file system takes. -/
  | nameTooLong
  /-- The path holds the character zero. -/
  | invalidInput
  /-- The content is no text. -/
  | invalidData
deriving DecidableEq, Repr

/-- The fault in words. -/
def FileFault.message : FileFault → String
  | .notFound => "no such file or directory"
  | .alreadyExists => "file exists"
  | .notADirectory => "not a directory"
  | .isADirectory => "is a directory"
  | .nameTooLong => "file name too long"
  | .invalidInput => "file name contained an unexpected zero"
  | .invalidData => "content is not valid text"

/-- What stands at a path. -/
inductive FileNode where
  | file (content : Bytes)
  | directory
deriving DecidableEq, Repr

/-- Files and directories, by the names on the way to them.  The way from the root starts
    with the name `/`. -/
structure Files where
  nodes : List (List String × FileNode)
deriving DecidableEq, Repr

namespace Files

/-! ## 1. Paths -/

/-- Nothing but the directories that are always there. -/
def empty : Files := ⟨[]⟩

/-- Whether some names lead to the root, the current directory or one above it, which are
    always there. -/
def alwaysThere (names : List String) : Bool := names == ["/"] || names.all (· == "..")

/-- What stands at some names. -/
def at? (fs : Files) (names : List String) : Option FileNode :=
  if alwaysThere names then some .directory else fs.nodes.lookup names

/-- Put something at some names. -/
def set (fs : Files) (names : List String) (n : FileNode) : Files :=
  ⟨(names, n) :: fs.nodes.filter fun e => e.1 ≠ names⟩

/-- The way to the parent of a directory.  The root is its own parent. -/
def parent (names : List String) : List String :=
  if names == ["/"] then names
  else if names.all (· == "..") then names ++ [".."]
  else names.dropLast

/-- The number of bytes that a name may have. -/
def maxName : Nat := 255

/-- The number of bytes that a path may have. -/
def maxPath : Nat := 4095

/-- Follow names from a directory.  All but the last have to be directories. -/
def follow (fs : Files) (here : List String) : List String → Except FileFault (List String)
  | [] => .ok here
  | name :: rest =>
    match fs.at? here with
    | none => .error .notFound
    | some (.file _) => .error .notADirectory
    | some .directory =>
      if name = "." then follow fs here rest
      else if name = ".." then follow fs (parent here) rest
      else if name.utf8ByteSize > maxName then .error .nameTooLong
      else follow fs (here ++ [name]) rest

/-- The names of a path, and whether it ends in a slash. -/
def names (path : String) : List String × Bool :=
  ((Text.cutAt '/' path).filter (· ≠ ""), path.toList.getLast? == some '/')

/-- Where a path starts: at the root, or at the current directory. -/
def origin (path : String) : List String := if path.toList.head? = some '/' then ["/"] else []

/-- The place that a path leads to. -/
def locate (fs : Files) (path : String) : Except FileFault (List String) :=
  if path.toList.contains '\x00' then .error .invalidInput
  else if path.isEmpty then .error .notFound
  else if path.utf8ByteSize > maxPath then .error .nameTooLong
  else fs.follow (origin path) (names path).1

/-- What a path leads to; a slash at its end asks for a directory. -/
def node (fs : Files) (path : String) : Except FileFault FileNode := do
  match fs.at? (← fs.locate path) with
  | none => .error .notFound
  | some (.file content) =>
    if (names path).2 then .error .notADirectory else .ok (.file content)
  | some .directory => .ok .directory

/-! ## 2. Use -/

/-- Whether a path leads to anything. -/
def exists? (fs : Files) (path : String) : Bool := (fs.node path).isOk

/-- The content of a file. -/
def read (fs : Files) (path : String) : Except FileFault Bytes := do
  match ← fs.node path with
  | .file content => .ok content
  | .directory => .error .isADirectory

/-- The text of a file. -/
def readText (fs : Files) (path : String) : Except FileFault String := do
  match textOfBytes? (← fs.read path) with
  | some text => .ok text
  | none => .error .invalidData

/-- Write a file, in place of one that is there. -/
def write (fs : Files) (path : String) (content : Bytes) : Except FileFault Files := do
  let place ← fs.locate path
  match fs.at? place with
  | some .directory => .error .isADirectory
  | some (.file _) =>
    if (names path).2 then .error .notADirectory else .ok (fs.set place (.file content))
  | none =>
    if (names path).2 then .error .isADirectory else .ok (fs.set place (.file content))

/-- Make a directory where nothing is. -/
def makeDirectory (fs : Files) (path : String) : Except FileFault Files := do
  let place ← fs.locate path
  match fs.at? place with
  | some _ => .error .alreadyExists
  | none => .ok (fs.set place .directory)

/-- Remove a file. -/
def remove (fs : Files) (path : String) : Except FileFault Files := do
  match ← fs.node path with
  | .directory => .error .isADirectory
  | .file _ =>
    let place ← fs.locate path
    .ok ⟨fs.nodes.filter fun e => e.1 ≠ place⟩

/-! ## 3. Taking over a tree -/

/-- Go from a place to a name. -/
def descend (here : List String) (name : String) : List String :=
  if name = "." then here else if name = ".." then parent here else here ++ [name]

/-- Put directories on the way to the end of names, and perhaps something at the end. -/
def plantAt (fs : Files) (n : Option FileNode) (here : List String) : List String → Files
  | [] => fs
  | [name] =>
    match n with
    | some n => fs.set (descend here name) n
    | none => fs
  | name :: rest => plantAt (fs.set (descend here name) .directory) n (descend here name) rest

/-- Take over what stands at a path, if anything does. -/
def plant (fs : Files) (path : String) (n : Option FileNode) : Files :=
  fs.plantAt n (origin path) (names path).1

end Files

end Wayfinder
