/-
  Wayfinder/Toml/Document.lean
  ============================
  **TOML documents.**

  A document is a row of lines: headers, which open a table or one more table of an
  array, and pairs of a key and a value, which go into the table that is open.  A table
  is defined once.  One that only headers below it or dotted keys have made may still
  be filled, but only in the way in which it was made.  The result is a JSON document.
-/
import Wayfinder.Json.Value
import Wayfinder.Toml.Text
import Wayfinder.Toml.Number

namespace Wayfinder.Toml

/-! ## 1. Tables -/

/-- What a key holds.  A table is `implicit` when no header names it, and `dotted` when
    a dotted key has made it. -/
inductive Item where
  | value (j : Json)
  | table (isImplicit isDotted : Bool) (members : List (String × Item))
  | tables (elements : List (List (String × Item)))
deriving Inhabited, Repr

/-- The members of a table, in order. -/
abbrev Members := List (String × Item)

/-- Put an item at a key, in place of the one that is there. -/
def put (key : String) (item : Item) : Members → Members
  | [] => [(key, item)]
  | (k, i) :: ms => if k = key then (key, item) :: ms else (k, i) :: put key item ms

/-- Change the last of some tables. -/
def changeLast (f : Members → Option Members) : List Members → Option (List Members)
  | [] => none
  | [ms] => (f ms).map fun ms => [ms]
  | ms :: rest => (changeLast f rest).map (ms :: ·)

/-- Change the table at the end of a path, making tables on the way.  `byDots` tells
    whether the path is that of a dotted key, which enters no table that a header names.
    The change is told whether its table is a dotted one. -/
def changeAt (byDots : Bool) (f : Bool → Members → Option Members) :
    List String → Bool → Members → Option Members
  | [], isDotted, ms => f isDotted ms
  | key :: path, _, ms =>
    match ms.lookup key with
    | none => do
      let inner ← changeAt byDots f path byDots []
      return put key (.table true byDots inner) ms
    | some (.value _) => none
    | some (.tables elements) => do
      let elements ← changeLast (changeAt byDots f path false) elements
      return put key (.tables elements) ms
    | some (.table isImplicit isDotted inner) =>
      if byDots && !isImplicit then none
      else do
        let inner ← changeAt byDots f path isDotted inner
        return put key (.table isImplicit isDotted inner) ms

/-- Put an item at the end of a dotted key into a table. -/
def insertPair (keys : List String) (item : Item) (ms : Members) : Option Members :=
  match keys.getLast? with
  | none => none
  | some key =>
    changeAt true (fun isDotted ms =>
      if isDotted == keys.dropLast.isEmpty then none
      else if (ms.lookup key).isSome then none
      else some (put key item ms)) keys.dropLast false ms

/-- Open the table of a header. -/
def openTable (keys : List String) (ms : Members) : Option Members :=
  match keys.getLast? with
  | none => none
  | some key =>
    changeAt false (fun _ ms =>
      match ms.lookup key with
      | none => some (put key (.table false false []) ms)
      | some (.table true false inner) => some (put key (.table false false inner) ms)
      | some _ => none) keys.dropLast false ms

/-- Open one more table of the array of a header. -/
def openElement (keys : List String) (ms : Members) : Option Members :=
  match keys.getLast? with
  | none => none
  | some key =>
    changeAt false (fun _ ms =>
      match ms.lookup key with
      | none => some (put key (.tables [[]]) ms)
      | some (.tables elements) => some (put key (.tables (elements ++ [[]])) ms)
      | some _ => none) keys.dropLast false ms

mutual

/-- An item as a JSON document. -/
def Item.toJson : Item → Json
  | .value j => j
  | .table _ _ ms => .object (membersJson ms)
  | .tables elements => .array (elementsJson elements)

/-- The members of a table as members of an object. -/
def membersJson : List (String × Item) → List (Option String × Json)
  | [] => []
  | (k, i) :: ms => (some k, i.toJson) :: membersJson ms

/-- Tables as objects. -/
def elementsJson : List (List (String × Item)) → List Json
  | [] => []
  | ms :: rest => .object (membersJson ms) :: elementsJson rest

end

/-! ## 2. Values -/

mutual

/-- A value, from its first character on.  The number bounds the nesting of calls. -/
def readValue : Nat → List Char → Option (Json × List Char)
  | 0, _ => none
  | fuel + 1, cs =>
    match cs with
    | '"' :: _ | '\'' :: _ => (readString cs).map fun r => (.ofText r.1, r.2)
    | '[' :: rest => (readItems fuel (skipAll rest)).map fun r => (.array r.1, r.2)
    | '\x7b' :: rest =>
      (readMembers fuel [] (skipAll rest)).map fun r => (.object (membersJson r.1), r.2)
    | _ =>
      let (run, rest) := splitRun cs
      (runValue? run).map fun j => (j, rest)

/-- The items of an array, and what follows its bracket. -/
def readItems : Nat → List Char → Option (List Json × List Char)
  | 0, _ => none
  | fuel + 1, cs =>
    match cs with
    | ']' :: rest => some ([], rest)
    | _ => do
      let (j, rest) ← readValue fuel cs
      match skipAll rest with
      | ',' :: rest =>
        let (js, rest) ← readItems fuel (skipAll rest)
        return (j :: js, rest)
      | ']' :: rest => return ([j], rest)
      | _ => none

/-- The members of a table in braces, and what follows the braces. -/
def readMembers : Nat → Members → List Char → Option (Members × List Char)
  | 0, _, _ => none
  | fuel + 1, ms, cs =>
    match cs with
    | '\x7d' :: rest => some (ms, rest)
    | _ => do
      let (keys, rest) ← readKey (cs.length + 1) cs
      match rest with
      | '=' :: rest =>
        let (j, rest) ← readValue fuel (skipBlanks rest)
        let ms ← insertPair keys (.value j) ms
        match skipAll rest with
        | ',' :: rest => readMembers fuel ms (skipAll rest)
        | '\x7d' :: rest => return (ms, rest)
        | _ => none
      | _ => none

end

/-! ## 3. Lines -/

/-- A line of a document. -/
inductive Line where
  | blank
  | table (keys : List String)
  | element (keys : List String)
  | pair (keys : List String) (value : Json)
deriving Inhabited, Repr

/-- Read a line, but for the blanks and the comment at its end. -/
def readLine (cs : List Char) : Option (Line × List Char) :=
  match skipBlanks cs with
  | [] => some (.blank, [])
  | '#' :: rest => some (.blank, '#' :: rest)
  | '\n' :: rest => some (.blank, '\n' :: rest)
  | '\r' :: rest => some (.blank, '\r' :: rest)
  | '[' :: '[' :: rest => do
    let (keys, rest) ← readKey (rest.length + 1) rest
    match rest with
    | ']' :: ']' :: rest => return (.element keys, rest)
    | _ => none
  | '[' :: rest => do
    let (keys, rest) ← readKey (rest.length + 1) rest
    match rest with
    | ']' :: rest => return (.table keys, rest)
    | _ => none
  | cs => do
    let (keys, rest) ← readKey (cs.length + 1) cs
    match rest with
    | '=' :: rest =>
      let (j, rest) ← readValue (2 * rest.length + 2) (skipBlanks rest)
      return (.pair keys j, rest)
    | _ => none

/-- Enter a line into a document.  `header` is the path of the table that is open. -/
def enter (header : List String) (ms : Members) : Line → Option (List String × Members)
  | .blank => some (header, ms)
  | .table keys => (openTable keys ms).map fun ms => (keys, ms)
  | .element keys => (openElement keys ms).map fun ms => (keys, ms)
  | .pair keys j =>
    (changeAt false (fun _ inner => insertPair keys (.value j) inner) header false ms).map
      fun ms => (header, ms)

/-- Read all lines.  The number bounds their count. -/
def readLines : Nat → List String → Members → List Char → Option Members
  | 0, _, ms, _ => some ms
  | fuel + 1, header, ms, cs =>
    if cs.isEmpty then some ms
    else do
      let (line, rest) ← readLine cs
      let (header, ms) ← enter header ms line
      readLines fuel header ms (← endOfLine? rest)

/-- The document that a text is.  A byte order mark at its start does not count. -/
def parse? (text : String) : Option Json :=
  let cs := match text.toList with
    | '\ufeff' :: rest => rest
    | cs => cs
  (readLines (cs.length + 1) [] [] cs).map fun ms => .object (membersJson ms)

end Wayfinder.Toml
