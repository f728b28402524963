/-
  Wayfinder/Toml/Number.lean
  ==========================
  **Numbers, dates and times of TOML.**

  A value without quotes or brackets is a run of letters, digits and a few signs.  What
  it is follows from its form: a word, an integer, a float, or a date or time.
-/
import Wayfinder.Json.Value

namespace Wayfinder.Toml

/-! ## 1. Digits -/

/-- Whether a run consists of digits, with single underscores between them. -/
def isDigitRun (isDigit : Char → Bool) : List Char → Bool
  | [] => false
  | [c] => isDigit c
  | c :: '_' :: rest => isDigit c && isDigitRun isDigit rest
  | c :: rest => isDigit c && isDigitRun isDigit rest

/-- The number that digits of a base denote; underscores do not count. -/
def digitsValue (base : Nat) (cs : List Char) : Nat :=
  cs.foldl (fun n c =>
    if c = '_' then n
    else base * n + (if c.isDigit then c.toNat - 48 else c.toLower.toNat - 87)) 0

/-- Whether a run is a decimal number without a leading zero. -/
def isWhole (cs : List Char) : Bool :=
  isDigitRun Char.isDigit cs && (cs.length == 1 || cs.head? != some '0')

/-- A sign, if there is one, and the rest. -/
def splitSign : List Char → Option Char × List Char
  | '+' :: rest => (some '+', rest)
  | '-' :: rest => (some '-', rest)
  | cs => (none, cs)

/-! ## 2. Integers and floats -/

/-- Whether a character is a hexadecimal digit. -/
def isHexDigit (c : Char) : Bool :=
  c.isDigit || ('a' ≤ c && c ≤ 'f') || ('A' ≤ c && c ≤ 'F')

/-- A natural number as a document, if it is not too large for one. -/
def natural? (n : Nat) : Option Json := if n < 1 <<< 128 then some (.natural n) else none

/-- An integer. -/
def integer? (cs : List Char) : Option Json :=
  match cs with
  | '0' :: 'x' :: ds => if isDigitRun isHexDigit ds then natural? (digitsValue 16 ds) else none
  | '0' :: 'o' :: ds =>
    if isDigitRun (fun c => '0' ≤ c && c ≤ '7') ds then natural? (digitsValue 8 ds) else none
  | '0' :: 'b' :: ds =>
    if isDigitRun (fun c => c == '0' || c == '1') ds then natural? (digitsValue 2 ds) else none
  | _ =>
    let (sign, ds) := splitSign cs
    if !isWhole ds then none
    else
      let n := digitsValue 10 ds
      if sign = some '-' then
        if n = 0 then some (.natural 0) else if n ≤ 1 <<< 127 then some .otherNumber else none
      else natural? n

/-- Whether a run is an exponent, from its letter on. -/
def isExponent : List Char → Bool
  | 'e' :: rest => isDigitRun Char.isDigit (splitSign rest).2
  | 'E' :: rest => isDigitRun Char.isDigit (splitSign rest).2
  | _ => false

/-- Whether a run is a float. -/
def isFloat (cs : List Char) : Bool :=
  let body := (splitSign cs).2
  let isPart (c : Char) := c.isDigit || c == '_'
  let whole := body.takeWhile isPart
  body = "inf".toList || body = "nan".toList ||
    (isWhole whole &&
      match body.dropWhile isPart with
      | '.' :: rest =>
        isDigitRun Char.isDigit (rest.takeWhile isPart) &&
          ((rest.dropWhile isPart).isEmpty || isExponent (rest.dropWhile isPart))
      | rest => isExponent rest)

/-! ## 3. Dates and times -/

/-- A number of exactly `count` digits. -/
def fixedNumber (count : Nat) (cs : List Char) : Option (Nat × List Char) :=
  let ds := cs.take count
  if ds.length = count ∧ ds.all Char.isDigit then some (digitsValue 10 ds, cs.drop count) else none

/-- What follows a character. -/
def after (c : Char) : List Char → Option (List Char)
  | d :: rest => if c = d then some rest else none
  | [] => none

/-- The number of days of a month. -/
def daysOf (year month : Nat) : Nat :=
  if month = 2 then
    if year % 4 = 0 ∧ (year % 100 ≠ 0 ∨ year % 400 = 0) then 29 else 28
  else if month = 4 ∨ month = 6 ∨ month = 9 ∨ month = 11 then 30
  else 31

/-- What follows a date. -/
def afterDate (cs : List Char) : Option (List Char) := do
  let (year, rest) ← fixedNumber 4 cs
  let (month, rest) ← fixedNumber 2 (← after '-' rest)
  let (day, rest) ← fixedNumber 2 (← after '-' rest)
  if 1 ≤ month ∧ month ≤ 12 ∧ 1 ≤ day ∧ day ≤ daysOf year month then some rest else none

/-- What follows the hours and minutes of a time. -/
def afterMinutes (cs : List Char) : Option (List Char) := do
  let (hour, rest) ← fixedNumber 2 cs
  let (minute, rest) ← fixedNumber 2 (← after ':' rest)
  if hour < 24 ∧ minute < 60 then some rest else none

/-- What follows a time; the seconds may be left out. -/
def afterTime (cs : List Char) : Option (List Char) := do
  let rest ← afterMinutes cs
  match rest with
  | ':' :: rest =>
    let (second, rest) ← fixedNumber 2 rest
    if 60 < second then none
    else
      match rest with
      | '.' :: d :: rest => if d.isDigit then some (rest.dropWhile Char.isDigit) else none
      | '.' :: [] => none
      | rest => some rest
  | rest => some rest

/-- Whether a run is an offset from universal time, or nothing. -/
def isOffset : List Char → Bool
  | [] | ['Z'] | ['z'] => true
  | c :: rest => (c == '+' || c == '-') && afterMinutes rest == some []

/-- Whether a run is a date, a time, or both. -/
def isMoment (cs : List Char) : Bool :=
  match afterDate cs with
  | some [] => true
  | some (c :: rest) =>
    (c == 'T' || c == 't' || c == ' ') && ((afterTime rest).map isOffset).getD false
  | none => afterTime cs == some []

/-- A date or time in its canonical form. -/
def momentText (cs : List Char) : String :=
  String.ofList (cs.map fun c => if c == 't' || c == ' ' then 'T' else if c == 'z' then 'Z' else c)

/-- The name of the only member of a date or time when it is read as a map. -/
def momentKey : String := "$__toml_private_datetime"

/-! ## 4. Runs -/

/-- The characters of values without quotes or brackets. -/
def isRunChar (c : Char) : Bool :=
  c.isAlphanum || c == '_' || c == '+' || c == '-' || c == '.' || c == ':'

/-- The run at the start of a text.  A date takes a space and a time after it along. -/
def splitRun (cs : List Char) : List Char × List Char :=
  let run := cs.takeWhile isRunChar
  match cs.dropWhile isRunChar with
  | ' ' :: d :: rest =>
    if afterDate run == some [] && d.isDigit then
      (run ++ ' ' :: (d :: rest).takeWhile isRunChar, (d :: rest).dropWhile isRunChar)
    else (run, ' ' :: d :: rest)
  | rest => (run, rest)

/-- The value that a run denotes. -/
def runValue? (run : List Char) : Option Json :=
  if run = "true".toList then some (.bool true)
  else if run = "false".toList then some (.bool false)
  else if isMoment run then some (.record [(momentKey, .ofText (momentText run))])
  else if isFloat run then some .otherNumber
  else integer? run

end Wayfinder.Toml
