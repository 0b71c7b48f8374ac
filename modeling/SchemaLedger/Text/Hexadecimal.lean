/-! # Hexadecimal digits -/

namespace SchemaLedger.Text.Hexadecimal

/-- Lower-case digits, without leading zeros. -/
def digits (n : Nat) : List Char := Nat.toDigits 16 n

/-- The value of a digit in either case. -/
def value? (c : Char) : Option Nat :=
  if '0' ≤ c ∧ c ≤ '9' then some (c.toNat - '0'.toNat)
  else if 'a' ≤ c ∧ c ≤ 'f' then some (c.toNat - 'a'.toNat + 10)
  else if 'A' ≤ c ∧ c ≤ 'F' then some (c.toNat - 'A'.toNat + 10)
  else none

def character? (digits : List Char) : Option Char := do
  let values ← digits.mapM value?
  let code := values.foldl (fun n d => n * 16 + d) 0
  if h : code.isValidChar then some (Char.ofNatAux code h) else none

end SchemaLedger.Text.Hexadecimal
