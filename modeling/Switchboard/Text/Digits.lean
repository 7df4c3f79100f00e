/-!
# Digits

Decimal numbers of a fixed width and hexadecimal digits, each with its reading.
`digitsValue` reads what `fixedDigits` writes, as long as the number fits in the
width.
-/

namespace Switchboard.Text

/-! ## Decimal -/

def digitChar (n : Nat) : Char := Char.ofNat ('0'.toNat + n)

def digitValue (c : Char) : Nat := c.toNat - '0'.toNat

/-- The lowest digits of a number, as many as the width says. -/
def fixedDigits : (width : Nat) → Nat → List Char
  | 0, _ => []
  | w + 1, n => fixedDigits w (n / 10) ++ [digitChar (n % 10)]

def digitsValue (ds : List Char) : Nat := ds.foldl (fun n c => 10 * n + digitValue c) 0

/-! ## Hexadecimal -/

/-- A hexadecimal digit, small. -/
def hexChar (n : Nat) : Char :=
  if n < 10 then digitChar n else Char.ofNat ('a'.toNat + (n - 10))

/-- The value of a hexadecimal digit, in either case. -/
def hexValue? (c : Char) : Option Nat :=
  if '0' ≤ c ∧ c ≤ '9' then some (digitValue c)
  else if 'a' ≤ c ∧ c ≤ 'f' then some (c.toNat - 'a'.toNat + 10)
  else if 'A' ≤ c ∧ c ≤ 'F' then some (c.toNat - 'A'.toNat + 10)
  else none

end Switchboard.Text
