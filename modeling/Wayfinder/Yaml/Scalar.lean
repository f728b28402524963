/-
  Wayfinder/Yaml/Scalar.lean
  ==========================
  **Reading scalars.**

  A scalar is written plainly, in single or double quotes, or as an indented block.
  Line breaks inside the first three are folded: a single break is a space, and of
  several the first is dropped.  A block keeps its breaks when it is literal, and folds
  them between lines that do not start with a blank when it is folded.
-/
import Wayfinder.Text.Digits
import Wayfinder.Yaml.Cursor

namespace Wayfinder.Yaml

/-! ## 1. Folding -/

/-- Blanks and breaks between two parts of a line-folded scalar. -/
structure Spacing where
  /-- Blanks on the line of the first part. -/
  blanks : List Char := []
  /-- The first break. -/
  firstBreak : List Char := []
  /-- The breaks after it. -/
  otherBreaks : List Char := []
  /-- Whether a line has ended. -/
  broken : Bool := false
deriving DecidableEq, Repr

/-- What the spacing stands for. -/
def Spacing.text (sp : Spacing) : List Char :=
  if sp.broken then
    if sp.firstBreak.head? == some '\n' then
      if sp.otherBreaks.isEmpty then [' '] else sp.otherBreaks
    else sp.firstBreak ++ sp.otherBreaks
  else sp.blanks

/-- Read blanks and breaks.  With a margin, a tab on a later line left of it is
    refused.  The number bounds the steps. -/
def readSpacing (margin : Option Nat) : Nat → Spacing → Cursor → Option (Spacing × Cursor)
  | 0, sp, cur => some (sp, cur)
  | fuel + 1, sp, cur =>
    match cur.peek with
    | none => some (sp, cur)
    | some c =>
      if isBlank c then
        let left : Bool := match margin with
          | some m => cur.column < m
          | none => false
        if sp.broken && c == '\t' && left then none
        else
          let sp := if sp.broken then sp else { sp with blanks := sp.blanks ++ [c] }
          readSpacing margin fuel sp cur.skip
      else if isBreak c then
        let (text, cur) := cur.readBreak
        let sp :=
          if sp.broken then { sp with otherBreaks := sp.otherBreaks ++ text }
          else { sp with blanks := [], firstBreak := text, broken := true }
        readSpacing margin fuel sp cur
      else some (sp, cur)

/-! ## 2. Quoted scalars -/

/-- What an escape in double quotes stands for, when it is one letter. -/
def escapeChar? : Char → Option Char
  | '0' => some '\x00'
  | 'a' => some '\x07'
  | 'b' => some '\x08'
  | 't' => some '\t'
  | '\t' => some '\t'
  | 'n' => some '\n'
  | 'v' => some '\x0b'
  | 'f' => some '\x0c'
  | 'r' => some '\r'
  | 'e' => some '\x1b'
  | ' ' => some ' '
  | '"' => some '"'
  | '/' => some '/'
  | '\\' => some '\\'
  | 'N' => some '\u0085'
  | '_' => some '\u00a0'
  | 'L' => some '\u2028'
  | 'P' => some '\u2029'
  | _ => none

/-- How many hexadecimal digits follow an escape letter. -/
def escapeDigits? : Char → Option Nat
  | 'x' => some 2
  | 'u' => some 4
  | 'U' => some 8
  | _ => none

/-- The character that some hexadecimal digits denote. -/
def hexChar? (count : Nat) (cs : List Char) : Option Char := do
  if (cs.take count).length < count then none
  else
    let n ← Text.digitsValue? 16 (cs.take count)
    if n.isValidChar then some (Char.ofNat n) else none

/-- Read the characters of a quoted scalar up to a gap or to the closing quote, in
    reverse.  The result tells also whether an escaped break ended them. -/
def readQuotedRun (single : Bool) : Nat → List Char → Cursor → Option (List Char × Bool × Cursor)
  | 0, _, _ => none
  | fuel + 1, acc, cur =>
    if atGap cur.rest then some (acc, false, cur)
    else
      match single, cur.rest with
      | true, '\'' :: '\'' :: _ => readQuotedRun single fuel ('\'' :: acc) (cur.skipN 2)
      | true, '\'' :: _ => some (acc, false, cur)
      | false, '"' :: _ => some (acc, false, cur)
      | false, '\\' :: c :: rest =>
        if isBreak c then some (acc, true, cur.skip.skipBreak)
        else
          match escapeDigits? c with
          | some count => do
            let d ← hexChar? count rest
            readQuotedRun single fuel (d :: acc) (cur.skipN (2 + count))
          | none => do
            let d ← escapeChar? c
            readQuotedRun single fuel (d :: acc) (cur.skipN 2)
      | false, ['\\'] => none
      | _, c :: _ => readQuotedRun single fuel (c :: acc) cur.skip
      | _, [] => none

/-- Read a quoted scalar after its opening quote; `acc` is what was read, in reverse. -/
def readQuoted (single : Bool) : Nat → List Char → Cursor → Option (List Char × Cursor)
  | 0, _, _ => none
  | fuel + 1, acc, cur =>
    if cur.column = 0 ∧ atDocumentMark cur.rest then none
    else if cur.rest.isEmpty then none
    else do
      let (acc, escapedBreak, cur) ← readQuotedRun single (cur.rest.length + 1) acc cur
      if cur.peek == some (if single then '\'' else '"') then return (acc.reverse, cur.skip)
      else
        let (sp, cur) ← readSpacing none (cur.rest.length + 1) { broken := escapedBreak } cur
        readQuoted single fuel (sp.text.reverse ++ acc) cur

/-! ## 3. Plain scalars -/

/-- The characters that end a plain scalar inside brackets. -/
def isFlowIndicator (c : Char) : Bool :=
  c == ',' || c == '[' || c == ']' || c == '\x7b' || c == '\x7d'

/-- Whether a colon inside brackets stands where it is refused. -/
def isMisplacedColon (inFlow : Bool) : List Char → Bool
  | ':' :: c :: _ => inFlow && (isFlowIndicator c || c == '?')
  | _ => false

/-- Whether a plain scalar ends here. -/
def plainEnds (inFlow : Bool) : List Char → Bool
  | [] => true
  | ':' :: rest => atGap rest
  | c :: _ => inFlow && isFlowIndicator c

/-- Read the characters of a plain scalar up to a gap or to its end, in reverse. -/
def readPlainRun (inFlow : Bool) : Nat → List Char → Cursor → Option (List Char × Cursor)
  | 0, _, _ => none
  | fuel + 1, acc, cur =>
    if atGap cur.rest then some (acc, cur)
    else if isMisplacedColon inFlow cur.rest then none
    else if plainEnds inFlow cur.rest then some (acc, cur)
    else
      match cur.rest with
      | c :: _ => readPlainRun inFlow fuel (c :: acc) cur.skip
      | [] => none

/-- Read a plain scalar.  `pending` is the spacing since the last part, which counts only
    when another part follows.  The result tells also whether a line has ended after the
    last part. -/
def readPlain (inFlow : Bool) (margin : Nat) :
    Nat → List Char → Spacing → Cursor → Option (List Char × Bool × Cursor)
  | 0, _, _, _ => none
  | fuel + 1, acc, pending, cur =>
    if (cur.column = 0 ∧ atDocumentMark cur.rest) ∨ cur.peek = some '#' then
      some (acc.reverse, pending.broken, cur)
    else do
      let (run, after) ← readPlainRun inFlow (cur.rest.length + 1) [] cur
      let acc := if run.isEmpty then acc else run ++ (pending.text.reverse ++ acc)
      let pending := if run.isEmpty then pending else {}
      let blankAhead := match after.rest with
        | [] => false
        | _ => atGap after.rest
      if !blankAhead then return (acc.reverse, pending.broken, after)
      else
        let (sp, next) ← readSpacing (some margin) (after.rest.length + 1) pending after
        if !inFlow && next.column < margin then return (acc.reverse, sp.broken, next)
        else readPlain inFlow margin fuel acc sp next

/-! ## 4. Block scalars -/

/-- What becomes of the breaks at the end of a block. -/
inductive Chomping where
  | strip | clip | keep
deriving DecidableEq, Repr

/-- An indentation indicator. -/
def indentDigit? (c : Char) : Option Nat := if c.isDigit then some (c.toNat - 48) else none

/-- The indicators after the one that starts a block: chomping and indentation, in either
    order.  An indentation of zero is refused. -/
def blockHeader (cur : Cursor) : Option (Chomping × Option Nat × Cursor) :=
  let chompingAt (cur : Cursor) : Option Chomping :=
    match cur.peek with
    | some '+' => some .keep
    | some '-' => some .strip
    | _ => none
  let digitAt (cur : Cursor) : Option Nat := cur.peek.bind indentDigit?
  match chompingAt cur with
  | some ch =>
    match digitAt cur.skip with
    | some 0 => none
    | some n => some (ch, some n, cur.skip.skip)
    | none => some (ch, none, cur.skip)
  | none =>
    match digitAt cur with
    | some 0 => none
    | some n =>
      match chompingAt cur.skip with
      | some ch => some (ch, some n, cur.skip.skip)
      | none => some (.clip, some n, cur.skip)
    | none => some (.clip, none, cur)

/-- Pass empty lines and the indentation of the line after them.  Without a given
    indentation all spaces count, and `widest` is the widest seen.  The breaks passed
    are in order. -/
def blockBreaks (indent : Option Nat) :
    Nat → Nat → List Char → Cursor → Option (Nat × List Char × Cursor)
  | 0, widest, breaks, cur => some (widest, breaks, cur)
  | fuel + 1, widest, breaks, cur =>
    let wanted := match indent with
      | some n => n - cur.column
      | none => cur.rest.length
    let spaces := ((cur.rest.takeWhile (· == ' ')).take wanted).length
    let cur := cur.skipN spaces
    let widest := max widest cur.column
    let short : Bool := match indent with
      | some n => cur.column < n
      | none => true
    match cur.rest with
    | '\t' :: _ => if short then none else some (widest, breaks, cur)
    | c :: _ =>
      if isBreak c then
        let (text, cur) := cur.readBreak
        blockBreaks indent fuel widest (breaks ++ text) cur
      else some (widest, breaks, cur)
    | [] => some (widest, breaks, cur)

/-- The state between two lines of a block. -/
structure BlockState where
  /-- What was read, in reverse. -/
  acc : List Char := []
  /-- The break after the last line. -/
  lastBreak : List Char := []
  /-- The empty lines after that. -/
  emptyLines : List Char := []
  /-- Whether the last line starts with a blank. -/
  blankStart : Bool := false
deriving DecidableEq, Repr

/-- What stands between the last line of a block and the next. -/
def BlockState.joint (literal : Bool) (st : BlockState) (blankAhead : Bool) : List Char :=
  let between :=
    if !literal && st.lastBreak.head? == some '\n' && !st.blankStart && !blankAhead then
      if st.emptyLines.isEmpty then [' '] else []
    else st.lastBreak
  between ++ st.emptyLines

/-- Read the lines of a block. -/
def blockLines (literal : Bool) (indent : Nat) :
    Nat → BlockState → Cursor → Option (BlockState × Cursor)
  | 0, st, cur => some (st, cur)
  | fuel + 1, st, cur =>
    if cur.column ≠ indent ∨ cur.rest.isEmpty then some (st, cur)
    else do
      let blankAhead := match cur.rest with
        | c :: _ => isBlank c
        | [] => false
      let joint := st.joint literal blankAhead
      let (line, cur) := cur.readWhile fun c => !isBreak c
      let (lastBreak, cur) := cur.readBreak
      let (_, emptyLines, cur) ← blockBreaks (some indent) (cur.rest.length + 1) 0 [] cur
      blockLines literal indent fuel
        { acc := line.reverse ++ (joint.reverse ++ st.acc)
          lastBreak := lastBreak
          emptyLines := emptyLines
          blankStart := blankAhead } cur

/-- Read a block scalar after its indicator.  `parent` is the indentation of the block
    around it, if there is one. -/
def readBlock (literal : Bool) (parent : Option Nat) (cur : Cursor) :
    Option (List Char × Cursor) := do
  let (chomping, digit, cur) ← blockHeader cur
  let cur ← cur.skipLineRest
  let least := match parent with
    | some n => n + 1
    | none => 1
  let given := digit.map fun d => (parent.getD 0) + d
  let (widest, breaks, cur) ← blockBreaks given (cur.rest.length + 1) 0 [] cur
  let indent := given.getD (max widest least)
  let (st, cur) ← blockLines literal indent (cur.rest.length + 1) { emptyLines := breaks } cur
  let ending := match chomping with
    | .strip => []
    | .clip => st.lastBreak
    | .keep => st.lastBreak ++ st.emptyLines
  return (st.acc.reverse ++ ending, cur)

end Wayfinder.Yaml
