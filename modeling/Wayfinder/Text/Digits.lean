/-
  Wayfinder/Text/Digits.lean
  ==========================
  **Numbers written in digits.**

  Digits of bases up to sixteen; letters of either case stand for the digits from ten on.
-/

namespace Wayfinder.Text

/-- The value of a hexadecimal digit. -/
def hexDigit? (c : Char) : Option Nat :=
  if c.isDigit then some (c.toNat - 48)
  else if 'a' ≤ c ∧ c ≤ 'f' then some (c.toNat - 87)
  else if 'A' ≤ c ∧ c ≤ 'F' then some (c.toNat - 55)
  else none

/-- The value of a digit of a base up to sixteen. -/
def digit? (base : Nat) (c : Char) : Option Nat := (hexDigit? c).filter (· < base)

/-- The number that digits of a base denote; without any digit it is zero. -/
def digitsValue? (base : Nat) (ds : List Char) : Option Nat :=
  ds.foldlM (fun n c => (digit? base c).map fun d => base * n + d) 0

end Wayfinder.Text
