/-
  Wayfinder/Yaml/Scanner.lean
  ===========================
  **From text to tokens.**

  A mapping key need not be announced: that a node was one shows only at the colon after
  it.  So the scanner remembers, for every level of brackets, where a key may have
  started, and puts the token for it there when the colon comes.  Such a key has to end
  on its line, within 1024 characters.
-/
import Wayfinder.Yaml.Cursor
import Wayfinder.Yaml.Token
import Wayfinder.Yaml.Scalar

namespace Wayfinder.Yaml

/-! ## 1. The state -/

/-- A place where a key may have started. -/
structure KeyPlace where
  /-- The number of tokens before it. -/
  before : Nat
  /-- Whether it has to be a key, as it stands where a key of the block has to stand. -/
  required : Bool
  index : Nat
  line : Nat
  column : Nat
deriving DecidableEq, Repr

/-- The state of the scanner.  Indentations are `none` outside of any block. -/
structure Scan where
  cur : Cursor
  tokens : Array Token := #[]
  /-- The indentation of the innermost block. -/
  indent : Option Nat := none
  /-- The indentations of the blocks around it. -/
  outer : List (Option Nat) := []
  /-- The number of brackets that are open. -/
  flowLevel : Nat := 0
  /-- Whether a key may start here. -/
  keyAllowed : Bool := true
  /-- Where a key may have started, for each level of brackets, the innermost first. -/
  keys : List (Option KeyPlace) := [none]
deriving Repr

namespace Scan

/-- Whether brackets are open. -/
def inFlow (s : Scan) : Bool := s.flowLevel != 0

/-- Add a token. -/
def push (s : Scan) (t : Token) : Scan := { s with tokens := s.tokens.push t }

/-- Go to a cursor. -/
def goto (s : Scan) (cur : Cursor) : Scan := { s with cur := cur }

/-- The place where a key may have started at the innermost level. -/
def key? (s : Scan) : Option KeyPlace := s.keys.head?.join

/-- Set the place where a key may have started at the innermost level. -/
def setKey (s : Scan) (k : Option KeyPlace) : Scan := { s with keys := k :: s.keys.tail }

/-- Give up a possible key; a required one may not be given up. -/
def dropKey (s : Scan) : Option Scan :=
  match s.key? with
  | some k => if k.required then none else some (s.setKey none)
  | none => some s

/-- Remember a possible key here, if one may start here. -/
def saveKey (s : Scan) : Option Scan :=
  if s.keyAllowed then do
    let s' ← s.dropKey
    return s'.setKey (some
      { before := s.tokens.size
        required := !s.inFlow && s.indent == some s.cur.column
        index := s.cur.index
        line := s.cur.line
        column := s.cur.column })
  else some s

/-- Whether a possible key has lasted too long. -/
def KeyPlace.isStale (k : KeyPlace) (cur : Cursor) : Bool :=
  k.line < cur.line || k.index + 1024 < cur.index

/-- Give up the possible keys that have lasted too long. -/
def dropStaleKeys (s : Scan) : Option Scan := do
  let keys ← s.keys.mapM fun k =>
    match k with
    | some k =>
      if KeyPlace.isStale k s.cur then if k.required then none else some none else some (some k)
    | none => some none
  return { s with keys := keys }

/-- Whether one indentation is left of another. -/
def leftOf : Option Nat → Option Nat → Bool
  | none, some _ => true
  | some a, some b => a < b
  | _, none => false

/-- Close the blocks that are indented further than `column`.  The list holds the outer
    indentations. -/
def closeBlocks (column : Option Nat) :
    List (Option Nat) → Option Nat → Array Token → Array Token × Option Nat × List (Option Nat)
  | [], indent, tokens => (tokens, indent, [])
  | o :: os, indent, tokens =>
    if leftOf column indent then closeBlocks column os o (tokens.push .blockEnd)
    else (tokens, indent, o :: os)

/-- Close the blocks that end at a column; inside brackets none does. -/
def unroll (s : Scan) (column : Option Nat) : Scan :=
  if s.inFlow then s
  else
    let (tokens, indent, outer) := closeBlocks column s.outer s.indent s.tokens
    { s with tokens := tokens, indent := indent, outer := outer }

/-- Open a block at a column, unless it goes on; its token stands at a given place. -/
def roll (s : Scan) (column place : Nat) (t : Token) : Scan :=
  if s.inFlow then s
  else if leftOf s.indent (some column) then
    { s with
      tokens := s.tokens.insertIdxIfInBounds place t
      indent := some column
      outer := s.indent :: s.outer }
  else s

/-! ## 2. Between tokens -/

/-- Pass spaces, comments and line breaks.  Outside brackets a tab is passed only where
    no key can start, and every line may start one.  The number bounds the lines. -/
def toNextToken : Nat → Scan → Scan
  | 0, s => s
  | fuel + 1, s =>
    let cur := if s.cur.column = 0 ∧ s.cur.peek = some '\ufeff' then s.cur.skip else s.cur
    let tabs := s.inFlow || !s.keyAllowed
    let cur := (cur.skipWhile fun c => c == ' ' || (tabs && c == '\t')).skipComment
    match cur.rest with
    | c :: _ =>
      if isBreak c then
        toNextToken fuel { s with cur := cur.skipBreak, keyAllowed := s.keyAllowed || !s.inFlow }
      else s.goto cur
    | [] => s.goto cur

/-! ## 3. Directives, anchors and tags -/

/-- A number of at most nine digits. -/
def shortNumber (cur : Cursor) : Option (Nat × Cursor) :=
  let (ds, cur) := cur.readWhile Char.isDigit
  if ds.isEmpty ∨ 9 < ds.length then none
  else some (ds.foldl (fun n d => 10 * n + (d.toNat - 48)) 0, cur)

/-- The characters of tags; a comma and square brackets only in some places. -/
def isTagChar (bracketed : Bool) (c : Char) : Bool :=
  isNameChar c || [';', '/', '?', ':', '@', '&', '=', '+', '$', '.', '!', '~', '*', '\'', '(',
    ')'].contains c || (bracketed && (c == ',' || c == '[' || c == ']'))

/-- The length of a character in UTF-8, told by its first byte. -/
def widthOf (byte : Nat) : Nat :=
  if byte < 0x80 then 1
  else if byte < 0xC0 then 0
  else if byte < 0xE0 then 2
  else if byte < 0xF0 then 3
  else if byte < 0xF8 then 4
  else 0

/-- A byte as a percent sign and two digits. -/
def percentByte? : List Char → Option (Nat × List Char)
  | '%' :: a :: b :: rest => do return (← Text.digitsValue? 16 [a, b], rest)
  | _ => none

/-- The bytes of a character after the first. -/
def percentTail : Nat → Nat → List Char → Option (Nat × List Char)
  | 0, n, cs => some (n, cs)
  | k + 1, n, cs => do
    let (byte, rest) ← percentByte? cs
    if byte / 64 = 2 then percentTail k (64 * n + byte % 64) rest else none

/-- A character as percent-encoded bytes, and the number of bytes. -/
def percentChar? (cs : List Char) : Option (Char × Nat) := do
  let (byte, rest) ← percentByte? cs
  let width := widthOf byte
  if width = 0 then none
  else
    let first := if width = 1 then byte else byte % (1 <<< (7 - width))
    let (n, _) ← percentTail (width - 1) first rest
    return (Char.ofNat n, width)

/-- Read the characters of a tag, in reverse. -/
def tagChars (bracketed : Bool) : Nat → List Char → Cursor → Option (List Char × Cursor)
  | 0, acc, cur => some (acc, cur)
  | fuel + 1, acc, cur =>
    match cur.rest with
    | '%' :: _ => do
      let (c, width) ← percentChar? cur.rest
      tagChars bracketed fuel (c :: acc) (cur.skipN (3 * width))
    | c :: _ =>
      if isTagChar bracketed c then tagChars bracketed fuel (c :: acc) cur.skip
      else some (acc, cur)
    | [] => some (acc, cur)

/-- A tag, or the rest of one. -/
def tagText (bracketed : Bool) (cur : Cursor) : Option (String × Cursor) := do
  let (acc, cur) ← tagChars bracketed (cur.rest.length + 1) [] cur
  return (String.ofList acc.reverse, cur)

/-- The handle of a tag: an exclamation mark, a name, and perhaps another mark. -/
def tagHandle (cur : Cursor) : Option (String × Cursor) :=
  if cur.peek = some '!' then
    let (name, cur) := cur.skip.readWhile isNameChar
    if cur.peek = some '!' then some (String.ofList ('!' :: name ++ ['!']), cur.skip)
    else some (String.ofList ('!' :: name), cur)
  else none

/-- A tag in angle brackets, from its exclamation mark on. -/
def verbatimTag (cur : Cursor) : Option (TagText × Cursor) := do
  let (suffix, cur) ← tagText true (cur.skipN 2)
  if suffix.isEmpty ∨ cur.peek ≠ some '>' then none else return (⟨"", suffix⟩, cur.skip)

/-- A tag that may start with a handle.  Without one it belongs to the handle `!`, and an
    exclamation mark alone is a tag of its own. -/
def shortTag (cur : Cursor) : Option (TagText × Cursor) := do
  let (handle, cur) ← tagHandle cur
  let (suffix, cur) ← tagText false cur
  if handle.length > 1 ∧ handle.toList.getLast? = some '!' then
    if suffix.isEmpty then none else return (⟨handle, suffix⟩, cur)
  else
    let whole := String.ofList handle.toList.tail ++ suffix
    return (if whole.isEmpty then ⟨"", "!"⟩ else ⟨"!", whole⟩, cur)

/-- A tag, from its exclamation mark on. -/
def readTag (inFlow : Bool) (cur : Cursor) : Option (TagText × Cursor) := do
  let (t, cur) ← if cur.rest.tail.head? = some '<' then verbatimTag cur else shortTag cur
  if atGap cur.rest ∨ (inFlow ∧ cur.peek = some ',') then return (t, cur) else none

/-- A directive after its percent sign. -/
def readDirective (cur : Cursor) : Option (Token × Cursor) := do
  let (name, cur) := cur.readWhile isNameChar
  if !atGap cur.rest then none
  else if name = "YAML".toList then
    let (major, cur) ← shortNumber (cur.skipWhile isBlank)
    if cur.peek ≠ some '.' then none
    else
      let (minor, cur) ← shortNumber cur.skip
      return (.versionDirective major minor, ← cur.skipLineRest)
  else if name = "TAG".toList then
    let (handle, cur) ← tagHandle (cur.skipWhile isBlank)
    if handle ≠ "!" ∧ handle.toList.getLast? ≠ some '!' then none
    else if !(cur.peek.map isBlank).getD false then none
    else
      let (lead, cur) ← tagText true (cur.skipWhile isBlank)
      if lead.isEmpty ∨ !atGap cur.rest then none
      else return (.tagDirective handle lead, ← cur.skipLineRest)
  else none

/-- The name of an anchor or an alias. -/
def readAnchor (cur : Cursor) : Option (String × Cursor) :=
  let (name, cur) := cur.readWhile isNameChar
  let ends := atGap cur.rest || (cur.peek.map fun c =>
    ['?', ':', ',', ']', '\x7d', '%', '@', '\u0060'].contains c).getD false
  if name.isEmpty ∨ !ends then none else some (String.ofList name, cur)

/-! ## 4. One token -/

/-- A mark of the start or the end of a document. -/
def documentMark (s : Scan) (t : Token) : Option Scan := do
  let s ← (s.unroll none).dropKey
  return ({ s with keyAllowed := false }.push t).goto (s.cur.skipN 3)

/-- An opening bracket. -/
def openFlow (s : Scan) (t : Token) : Option Scan := do
  let s ← s.saveKey
  return { s with
    tokens := s.tokens.push t
    cur := s.cur.skip
    keyAllowed := true
    flowLevel := s.flowLevel + 1
    keys := none :: s.keys }

/-- A closing bracket. -/
def closeFlow (s : Scan) (t : Token) : Option Scan := do
  let s ← s.dropKey
  return { s with
    tokens := s.tokens.push t
    cur := s.cur.skip
    keyAllowed := false
    flowLevel := s.flowLevel - 1
    keys := if s.inFlow then s.keys.tail else s.keys }

/-- The hyphen before an item of a block. -/
def blockEntry (s : Scan) : Option Scan :=
  if !s.inFlow && !s.keyAllowed then none
  else do
    let s ← (s.roll s.cur.column s.tokens.size .blockSequenceStart).dropKey
    return { s with tokens := s.tokens.push .blockEntry, cur := s.cur.skip, keyAllowed := true }

/-- The question mark before a key. -/
def explicitKey (s : Scan) : Option Scan :=
  if !s.inFlow && !s.keyAllowed then none
  else do
    let s ← (s.roll s.cur.column s.tokens.size .blockMappingStart).dropKey
    return { s with tokens := s.tokens.push .key, cur := s.cur.skip, keyAllowed := !s.inFlow }

/-- The colon before a value.  If a possible key came before it, its token is put in. -/
def valueMark (s : Scan) : Option Scan :=
  match s.key? with
  | some k =>
    let s := { s with tokens := s.tokens.insertIdxIfInBounds k.before .key }
    let s := (s.roll k.column k.before .blockMappingStart).setKey none
    some { s with tokens := s.tokens.push .value, cur := s.cur.skip, keyAllowed := false }
  | none =>
    if !s.inFlow && !s.keyAllowed then none
    else
      let s := s.roll s.cur.column s.tokens.size .blockMappingStart
      some { s with tokens := s.tokens.push .value, cur := s.cur.skip, keyAllowed := !s.inFlow }

/-- A token that may start a key, read by `read` at the cursor. -/
def keyable (s : Scan) (read : Cursor → Option (Token × Cursor)) : Option Scan := do
  let s ← s.saveKey
  let (t, cur) ← read s.cur
  return { s with tokens := s.tokens.push t, cur := cur, keyAllowed := false }

/-- A quoted scalar. -/
def quotedToken (single : Bool) (cur : Cursor) : Option (Token × Cursor) :=
  (readQuoted single (cur.rest.length + 2) [] cur.skip).map fun r =>
    (.scalar (String.ofList r.1) false, r.2)

/-- A plain scalar.  After a line break in it a key may start again. -/
def plainToken (s : Scan) : Option Scan := do
  let s ← s.saveKey
  let margin := match s.indent with
    | some n => n + 1
    | none => 0
  let (text, broken, cur) ← readPlain s.inFlow margin (s.cur.rest.length + 2) [] {} s.cur
  return { s with
    tokens := s.tokens.push (.scalar (String.ofList text) true)
    cur := cur
    keyAllowed := broken }

/-- A block scalar. -/
def blockToken (s : Scan) (literal : Bool) : Option Scan := do
  let s ← s.dropKey
  let (text, cur) ← readBlock literal s.indent s.cur.skip
  return { s with
    tokens := s.tokens.push (.scalar (String.ofList text) false)
    cur := cur
    keyAllowed := true }

/-- The characters that start no plain scalar, unless what follows tells so. -/
def isIndicator (c : Char) : Bool :=
  ['-', '?', ':', ',', '[', ']', '\x7b', '\x7d', '#', '&', '*', '!', '|', '>', '\'', '"', '%', '@',
    '\u0060'].contains c

/-- Whether a plain scalar starts here. -/
def plainStarts (inFlow : Bool) : List Char → Bool
  | [] => false
  | '-' :: rest =>
    match rest with
    | c :: _ => !isBlank c
    | [] => true
  | c :: rest =>
    if c == '?' || c == ':' then !inFlow && !atGap rest
    else !isBlank c && !isBreak c && !isIndicator c

/-- Read the token at the cursor. -/
def readToken (s : Scan) : Option Scan :=
  let next := s.cur.rest.tail
  let plainOrNone := if plainStarts s.inFlow s.cur.rest then s.plainToken else none
  if s.cur.column = 0 ∧ s.cur.peek = some '%' then do
    let s ← (s.unroll none).dropKey
    let (t, cur) ← readDirective s.cur.skip
    return { s with tokens := s.tokens.push t, cur := cur, keyAllowed := false }
  else if s.cur.column = 0 ∧ atTriple '-' s.cur.rest then s.documentMark .documentStart
  else if s.cur.column = 0 ∧ atTriple '.' s.cur.rest then s.documentMark .documentEnd
  else
    match s.cur.rest with
    | '[' :: _ => s.openFlow .flowSequenceStart
    | '\x7b' :: _ => s.openFlow .flowMappingStart
    | ']' :: _ => s.closeFlow .flowSequenceEnd
    | '\x7d' :: _ => s.closeFlow .flowMappingEnd
    | ',' :: _ => do
      let s ← s.dropKey
      return { s with tokens := s.tokens.push .flowEntry, cur := s.cur.skip, keyAllowed := true }
    | '-' :: _ => if atGap next then s.blockEntry else plainOrNone
    | '?' :: _ => if s.inFlow || atGap next then s.explicitKey else plainOrNone
    | ':' :: _ => if s.inFlow || atGap next then s.valueMark else plainOrNone
    | '*' :: _ =>
      s.keyable fun cur => (readAnchor cur.skip).map fun r => (.alias r.1, r.2)
    | '&' :: _ =>
      s.keyable fun cur => (readAnchor cur.skip).map fun r => (.anchor r.1, r.2)
    | '!' :: _ => s.keyable fun cur => (readTag s.inFlow cur).map fun r => (.tag r.1, r.2)
    | '|' :: _ => if s.inFlow then none else s.blockToken true
    | '>' :: _ => if s.inFlow then none else s.blockToken false
    | '\'' :: _ => s.keyable (quotedToken true)
    | '"' :: _ => s.keyable (quotedToken false)
    | _ => plainOrNone

/-! ## 5. All tokens -/

/-- At the end of the text all blocks are closed, and no required key may be open. -/
def finish (s : Scan) : Option (List Token) := do
  return (← (s.unroll none).dropKey).tokens.toList

/-- Read tokens up to the end of the text.  The number bounds the tokens; each takes a
    character at least. -/
def readTokens : Nat → Scan → Option (List Token)
  | 0, _ => none
  | fuel + 1, s => do
    let s ← (s.toNextToken (s.cur.rest.length + 1)).dropStaleKeys
    let s := s.unroll (some s.cur.column)
    if s.cur.rest.isEmpty then s.finish else readTokens fuel (← s.readToken)

end Scan

/-- The tokens of a text.  A byte order mark at its start does not count. -/
def tokens? (cs : List Char) : Option (List Token) :=
  let body := match cs with
    | '\ufeff' :: rest => rest
    | _ => cs
  if body.all isAllowed then Scan.readTokens (body.length + 2) { cur := .start body } else none

end Wayfinder.Yaml
