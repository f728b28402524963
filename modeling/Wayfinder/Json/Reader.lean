/-
  Wayfinder/Json/Reader.lean
  ==========================
  **Reading JSON.**

  The reader accepts exactly the standard grammar: no comments, no trailing commas, no
  leading zeros, and blanks are spaces, tabs and line ends.  Escapes are kept as code
  units until a text is complete, and surrogates are joined then.
-/
import Wayfinder.Json.Value
import Wayfinder.Text.Digits

namespace Wayfinder.Json

/-! ## 1. Blanks and words -/

/-- Whether a character may stand between tokens. -/
def isSpace (c : Char) : Bool := c == ' ' || c == '\n' || c == '\t' || c == '\r'

/-- Skip what may stand between tokens. -/
def skipSpace (cs : List Char) : List Char := cs.dropWhile isSpace

/-- What follows a word. -/
def afterWord (word : String) (cs : List Char) : Option (List Char) :=
  if word.toList.isPrefixOf cs then some (cs.drop word.length) else none

/-! ## 2. Texts -/

/-- The code unit that four hexadecimal digits spell. -/
def codeUnit? (a b c d : Char) : Option Nat := Text.digitsValue? 16 [a, b, c, d]

/-- What an escape with one letter stands for. -/
def letterEscape? : Char → Option Char
  | '"' => some '"'
  | '\\' => some '\\'
  | '/' => some '/'
  | 'b' => some '\x08'
  | 'f' => some '\x0c'
  | 'n' => some '\n'
  | 'r' => some '\r'
  | 't' => some '\t'
  | _ => none

/-- The code units up to the closing quote.  A control character is not allowed. -/
def unitsToQuote : List Char → Option (List Nat × List Char)
  | [] => none
  | '"' :: rest => some ([], rest)
  | '\\' :: 'u' :: a :: b :: c :: d :: rest => do
    let unit ← codeUnit? a b c d
    (unitsToQuote rest).map fun r => (unit :: r.1, r.2)
  | '\\' :: e :: rest => do
    let c ← letterEscape? e
    (unitsToQuote rest).map fun r => (c.toNat :: r.1, r.2)
  | c :: rest =>
    if c.toNat < 32 ∨ c = '\\' then none
    else (unitsToQuote rest).map fun r => (c.toNat :: r.1, r.2)

/-- Whether a code unit starts a pair. -/
def isHighSurrogate (n : Nat) : Bool := 0xD800 ≤ n && n < 0xDC00

/-- Whether a code unit ends a pair. -/
def isLowSurrogate (n : Nat) : Bool := 0xDC00 ≤ n && n < 0xE000

/-- The characters of code units; none when a surrogate stands alone. -/
def charsOfUnits : List Nat → Option (List Char)
  | [] => some []
  | hi :: lo :: rest =>
    if isHighSurrogate hi then
      if isLowSurrogate lo then
        (charsOfUnits rest).map
          (Char.ofNat (0x10000 + 1024 * (hi - 0xD800) + (lo - 0xDC00)) :: ·)
      else none
    else if isLowSurrogate hi then none
    else (charsOfUnits (lo :: rest)).map (Char.ofNat hi :: ·)
  | [n] => if isHighSurrogate n || isLowSurrogate n then none else some [Char.ofNat n]

/-- A text after its opening quote. -/
def readText (cs : List Char) : Option (Option String × List Char) :=
  (unitsToQuote cs).map fun r => ((charsOfUnits r.1).map String.ofList, r.2)

/-! ## 3. Numbers -/

/-- The number that decimal digits denote. -/
def digitsValue (ds : List Char) : Nat := ds.foldl (fun n d => 10 * n + (d.toNat - 48)) 0

/-- Skip at least one digit. -/
def afterDigits (cs : List Char) : Option (List Char) :=
  match cs with
  | d :: rest => if d.isDigit then some (rest.dropWhile Char.isDigit) else none
  | [] => none

/-- Skip a fraction, if there is one, and tell whether there is. -/
def afterFraction : List Char → Option (Bool × List Char)
  | '.' :: rest => (afterDigits rest).map fun r => (true, r)
  | cs => some (false, cs)

/-- Skip a sign, if there is one. -/
def afterSign : List Char → List Char
  | '+' :: rest => rest
  | '-' :: rest => rest
  | cs => cs

/-- Skip an exponent, if there is one, and tell whether there is. -/
def afterExponent : List Char → Option (Bool × List Char)
  | 'e' :: rest => (afterDigits (afterSign rest)).map fun r => (true, r)
  | 'E' :: rest => (afterDigits (afterSign rest)).map fun r => (true, r)
  | cs => some (false, cs)

/-- The digits before a fraction: one zero, or digits that do not start with zero. -/
def wholePart : List Char → Option (List Char × List Char)
  | '0' :: rest =>
    match rest with
    | d :: _ => if d.isDigit then none else some (['0'], rest)
    | [] => some (['0'], [])
  | d :: rest =>
    if d.isDigit then some (d :: rest.takeWhile Char.isDigit, rest.dropWhile Char.isDigit) else none
  | [] => none

/-- A number. -/
def readNumber (cs : List Char) : Option (Json × List Char) := do
  let negative := cs.head? == some '-'
  let (whole, rest) ← wholePart (if negative then cs.tail else cs)
  let (fraction, rest) ← afterFraction rest
  let (exponent, rest) ← afterExponent rest
  if negative || fraction || exponent then return (.otherNumber, rest)
  else return (.natural (digitsValue whole), rest)

/-! ## 4. Documents -/

mutual

/-- One value and what follows it.  The number bounds the nesting of calls. -/
def readValue : Nat → List Char → Option (Json × List Char)
  | 0, _ => none
  | fuel + 1, cs =>
    match skipSpace cs with
    | '"' :: rest => (readText rest).map fun r => (.string r.1, r.2)
    | '[' :: rest =>
      match skipSpace rest with
      | ']' :: rest => some (.array [], rest)
      | rest => (readItems fuel rest).map fun r => (.array r.1, r.2)
    | '\x7b' :: rest =>
      match skipSpace rest with
      | '\x7d' :: rest => some (.object [], rest)
      | rest => (readMembers fuel rest).map fun r => (.object r.1, r.2)
    | 'n' :: rest => (afterWord "ull" rest).map fun r => (.null, r)
    | 't' :: rest => (afterWord "rue" rest).map fun r => (.bool true, r)
    | 'f' :: rest => (afterWord "alse" rest).map fun r => (.bool false, r)
    | cs => readNumber cs

/-- The items of an array, and what follows its bracket. -/
def readItems : Nat → List Char → Option (List Json × List Char)
  | 0, _ => none
  | fuel + 1, cs =>
    match readValue fuel cs with
    | some (j, rest) =>
      match skipSpace rest with
      | ',' :: rest => (readItems fuel rest).map fun r => (j :: r.1, r.2)
      | ']' :: rest => some ([j], rest)
      | _ => none
    | none => none

/-- The members of an object, and what follows its brace. -/
def readMembers : Nat → List Char → Option (List (Option String × Json) × List Char)
  | 0, _ => none
  | fuel + 1, cs =>
    match skipSpace cs with
    | '"' :: rest =>
      match readText rest with
      | some (key, rest) =>
        match skipSpace rest with
        | ':' :: rest =>
          match readValue fuel rest with
          | some (j, rest) =>
            match skipSpace rest with
            | ',' :: rest => (readMembers fuel rest).map fun r => ((key, j) :: r.1, r.2)
            | '\x7d' :: rest => some ([(key, j)], rest)
            | _ => none
          | none => none
        | _ => none
      | none => none
    | _ => none

end

/-- The document that a text is.  Every call inside takes a character or is one of two
    for the same place, so twice the length bounds their nesting. -/
def parseChars (cs : List Char) : Option Json :=
  match readValue (2 * cs.length + 2) cs with
  | some (j, rest) => if (skipSpace rest).isEmpty then some j else none
  | none => none

/-- The document that a text is. -/
def parse (text : String) : Option Json := parseChars text.toList

end Wayfinder.Json
