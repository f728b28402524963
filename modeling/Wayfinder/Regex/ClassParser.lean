/-
  Wayfinder/Regex/ClassParser.lean
  ================================
  **Reading bracketed classes.**

  A class is read with a stack: an entry for every bracket that is open, and above it
  at most one for a pending set operator.  All operators bind alike and to the left, so
  a new one first settles the one that is pending.
-/
import Wayfinder.Regex.Escape

namespace Wayfinder.Regex

/-! ## 1. Items -/

/-- The item that an escape makes inside brackets; an assertion makes none. -/
def Primitive.item? : Primitive → Option ClassTree
  | .letter l => some (.letter l)
  | .short kind negated => some (.short kind negated)
  | .unicode query negated => some (.unicode query negated)
  | .assertion _ => none

/-- One element inside brackets: an escape or a character. -/
def classElement (extended : Bool) : List Char → Except Fault (Primitive × List Char)
  | [] => .error .malformed
  | '\\' :: rest => escape extended rest
  | c :: rest => .ok (.letter { char := c }, rest)

/-- An element, or two that a hyphen joins to a range.  A hyphen before the closing
    bracket or before another hyphen joins nothing. -/
def classRange (extended : Bool) (cs : List Char) : Except Fault (ClassTree × List Char) := do
  let (first, rest) ← classElement extended cs
  let alone : Except Fault (ClassTree × List Char) :=
    match first.item? with
    | some item => .ok (item, skipBlanks extended rest)
    | none => .error .malformed
  match skipBlanks extended rest with
  | [] => .error .malformed
  | '-' :: after =>
    let ahead := peekPastBlanks extended after
    if ahead = some ']' ∨ ahead = some '-' then alone
    else
      match skipBlanks extended after with
      | [] => .error .malformed
      | second =>
        let (last, rest) ← classElement extended second
        match first, last with
        | .letter a, .letter b =>
          if a.char ≤ b.char then return (.range a b, rest) else .error .malformed
        | _, _ => .error .malformed
  | _ => alone

/-! ## 2. Named classes -/

/-- The class with a name. -/
def asciiClass? (name : List Char) : Option AsciiClass :=
  let table : List (String × AsciiClass) :=
    [("alnum", .alnum), ("alpha", .alpha), ("ascii", .ascii), ("blank", .blank),
      ("cntrl", .cntrl), ("digit", .digit), ("graph", .graph), ("lower", .lower),
      ("print", .print), ("punct", .punct), ("space", .space), ("upper", .upper),
      ("word", .word), ("xdigit", .xdigit)]
  (table.find? fun entry => entry.1.toList == name).map (·.2)

/-- A named class after its opening bracket, such as `:alpha:]` or `:^alpha:]`. -/
def namedClass? (cs : List Char) : Option (ClassTree × List Char) :=
  match cs with
  | ':' :: rest =>
    let negated := rest.head? == some '^'
    let body := if negated then rest.tail else rest
    match body.dropWhile (· ≠ ':') with
    | ':' :: ']' :: after =>
      (asciiClass? (body.takeWhile (· ≠ ':'))).map fun kind => (.ascii kind negated, after)
    | _ => none
  | _ => none

/-! ## 3. The stack -/

/-- An entry of the stack. -/
inductive ClassFrame where
  /-- An open bracket: whether it negates, and the items read before it outside. -/
  | bracket (negated : Bool) (outside : List ClassTree)
  /-- A pending operator with what stands to its left. -/
  | pending (op : SetOp) (left : ClassTree)
deriving DecidableEq, Repr

/-- Settle a pending operator on top of the stack. -/
def settle (right : ClassTree) : List ClassFrame → ClassTree × List ClassFrame
  | .pending op left :: stack => (.combine op left right, stack)
  | stack => (right, stack)

/-- Hyphens at the start of a class are literal. -/
def leadingHyphens (extended : Bool) :
    Nat → List ClassTree → List Char → List ClassTree × List Char
  | 0, items, cs => (items, cs)
  | fuel + 1, items, '-' :: rest =>
    leadingHyphens extended fuel (.letter { char := '-' } :: items) (skipBlanks extended rest)
  | _ + 1, items, cs => (items, cs)

/-- The start of a class after its bracket: a caret that negates, literal hyphens, and a
    closing bracket that is literal when nothing stands before it.  The items are in
    reverse. -/
def classOpening (extended : Bool) (cs : List Char) :
    Except Fault (Bool × List ClassTree × List Char) :=
  let start := skipBlanks extended cs
  let negated := start.head? == some '^'
  let body := if negated then advance extended start else start
  let (items, rest) := leadingHyphens extended (body.length + 1) [] body
  let (items, rest) :=
    match items, rest with
    | [], ']' :: after => ([ClassTree.letter { char := ']' }], skipBlanks extended after)
    | _, _ => (items, rest)
  if rest.isEmpty then .error .malformed else .ok (negated, items, rest)

/-- Read a class to the bracket that closes it.  `items` are those of the innermost open
    bracket since its last operator, in reverse. -/
def classLoop (extended : Bool) :
    Nat → List ClassFrame → List ClassTree → List Char →
      Except Fault (Bool × ClassTree × List Char)
  | 0, _, _, _ => .error .malformed
  | fuel + 1, stack, items, cs =>
    let operator (op : SetOp) (rest : List Char) :=
      let (left, stack) := settle (ClassTree.ofItems items.reverse) stack
      classLoop extended fuel (.pending op left :: stack) [] rest
    match skipBlanks extended cs with
    | [] => .error .malformed
    | '[' :: rest =>
      match namedClass? rest with
      | some (item, rest) => classLoop extended fuel stack (item :: items) rest
      | none => do
        let (negated, inner, rest) ← classOpening extended rest
        classLoop extended fuel (.bracket negated items :: stack) inner rest
    | ']' :: rest =>
      match settle (ClassTree.ofItems items.reverse) stack with
      | (inner, [.bracket negated _]) => .ok (negated, inner, rest)
      | (inner, .bracket negated outside :: stack) =>
        classLoop extended fuel stack (.bracketed negated inner :: outside) rest
      | _ => .error .malformed
    | '&' :: '&' :: rest => operator .inter rest
    | '-' :: '-' :: rest => operator .diff rest
    | '~' :: '~' :: rest => operator .symmDiff rest
    | cs => do
      let (item, rest) ← classRange extended cs
      classLoop extended fuel stack (item :: items) rest

/-- A bracketed class after its opening bracket. -/
def bracketClass (extended : Bool) (cs : List Char) :
    Except Fault (Bool × ClassTree × List Char) := do
  let (negated, items, rest) ← classOpening extended cs
  classLoop extended (cs.length + 1) [.bracket negated []] items rest

end Wayfinder.Regex
