import SchemaLedger.Text.Decimal
import SchemaLedger.Text.Octets

/-! # Ill-formed octets

Where octets that should be text stop being valid UTF-8. -/

namespace SchemaLedger.Text

/-- The first ill-formed sequence: where it begins and how long it is. It has no length if more
octets could still complete it. -/
structure Flaw where
  index : Nat
  length? : Option Nat
  deriving DecidableEq, Repr

namespace Flaw

def message (flaw : Flaw) : String :=
  match flaw.length? with
  | some n =>
    "invalid utf-8 sequence of " ++ Decimal.text n ++ " bytes from index " ++
      Decimal.text flaw.index
  | none => "incomplete utf-8 byte sequence from index " ++ Decimal.text flaw.index

/-- Looks for a flaw from an index on, with the octets of a character under way and their
number. -/
def findFrom (index : Nat) : Option (Partial × Nat) → Octets → Option Flaw
  | none, [] => none
  | some _, [] => some ⟨index, none⟩
  | none, b :: rest =>
    if b < 0x80 then findFrom (index + 1) none rest
    else
      match lead b.toNat with
      | .inl _ => some ⟨index, some 1⟩
      | .inr p => findFrom index (some (p, 1)) rest
  | some (p, n), b :: rest =>
    if p.low ≤ b.toNat && b.toNat ≤ p.high then
      match p.missing with
      | 0 => findFrom (index + n + 1) none rest
      | k + 1 => findFrom index (some (⟨p.bits, k, 0x80, 0xBF⟩, n + 1)) rest
    else some ⟨index, some n⟩

def find? (bytes : Octets) : Option Flaw := findFrom 0 none bytes

end Flaw

end SchemaLedger.Text
