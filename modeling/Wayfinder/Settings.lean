/-
  Wayfinder/Settings.lean
  =======================
  **Settings from the environment.**

  Settings are read from variables of the environment.  A value that cannot be understood
  counts as none, and what is not set has a default.
-/
import Wayfinder.Text.Blank
import Wayfinder.Text.Digits

namespace Wayfinder

/-- The variables of an environment. -/
abbrev Environment := List (String × String)

/-- The value of a variable. -/
def Environment.get? (env : Environment) (name : String) : Option String := env.lookup name

/-! ## 1. Numbers -/

/-- A number of at least one digit, after a plus sign or none, below 2^64. -/
def number? (base : Nat) (cs : List Char) : Option Nat :=
  let digits := if cs.head? = some '+' then cs.tail else cs
  if digits.isEmpty then none else (Text.digitsValue? base digits).filter (· < UInt64.size)

/-- A duration in microseconds: a decimal number, or a hexadecimal one after `0x`. -/
def microseconds? (text : String) : Option Nat :=
  match Text.trimChars text.toList with
  | '0' :: 'x' :: digits => number? 16 digits
  | digits => number? 10 digits

/-! ## 2. Settings of commands -/

/-- The settings of commands. -/
structure Settings where
  /-- The file that keeps the compiled table between runs. -/
  tableCache : Option String
  /-- Whether a watched manifest is read again when it changes. -/
  hotReload : Bool
  /-- From how many microseconds on a resolution counts as slow. -/
  slowResolve : Nat
deriving DecidableEq, Repr

namespace Settings

/-- The settings of an empty environment. -/
def default : Settings := { tableCache := none, hotReload := true, slowResolve := 1000 }

/-- Whether a value switches something off. -/
def isOff (value : String) : Bool :=
  ["0", "false", "no", "off"].contains (Text.asciiLower (Text.trim value))

/-- Read the settings.  A cache path without any visible character counts as none, and
    any other is taken as it is. -/
def ofEnvironment (env : Environment) : Settings :=
  { tableCache := (env.get? "WILDROUTE_TABLE_CACHE").filter fun path => !(Text.trim path).isEmpty
    hotReload := !((env.get? "WILDROUTE_HOT_RELOAD").map isOff).getD (!default.hotReload)
    slowResolve :=
      ((env.get? "WILDROUTE_SLOW_RESOLVE_US").bind microseconds?).getD default.slowResolve }

end Settings

end Wayfinder
