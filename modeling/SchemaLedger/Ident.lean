import SchemaLedger.Text.Decimal
import SchemaLedger.Text.Quoted

/-! # Migration IDs

An ID is a nonnegative 64-bit integer. IDs order the migrations of a directory; ID 0 belongs to
the migration that creates the ledger. -/

namespace SchemaLedger

structure Ident where
  value : Nat
  value_le : value ≤ Decimal.maxInt64
  deriving DecidableEq, Repr

inductive IdentError where
  | negative (value : Int)
  | notInteger (input : String) (problem : Decimal.Problem)
  deriving DecidableEq, Repr

def IdentError.message : IdentError → String
  | .negative value => "migration ID must not be negative: " ++ Decimal.signedText value
  | .notInteger input _ => "not a valid integer: " ++ Text.quoted input

def IdentError.source : IdentError → Option String
  | .negative _ => none
  | .notInteger _ problem => some problem.message

namespace Ident

theorem ext {a b : Ident} (h : a.value = b.value) : a = b := by
  cases a
  cases b
  cases h
  rfl

instance : LE Ident := ⟨fun a b => a.value ≤ b.value⟩
instance : LT Ident := ⟨fun a b => a.value < b.value⟩
instance (a b : Ident) : Decidable (a ≤ b) := inferInstanceAs (Decidable (a.value ≤ b.value))
instance (a b : Ident) : Decidable (a < b) := inferInstanceAs (Decidable (a.value < b.value))

/-- The ID of the migration that creates the ledger. -/
def first : Ident := ⟨0, by decide⟩

/-- The ID of a 64-bit integer. Integers above the range, which no caller has, count as its
largest. -/
def ofInt : Int → Except IdentError Ident
  | .ofNat n => .ok ⟨min n Decimal.maxInt64, Nat.min_le_right _ _⟩
  | .negSucc n => .error (.negative (.negSucc n))

def parse (s : String) : Except IdentError Ident :=
  match Decimal.readSigned s.toList with
  | .ok n => ofInt n
  | .error problem => .error (.notInteger s problem)

def digits (id : Ident) : List Char := Decimal.digits id.value

def text (id : Ident) : String := Decimal.text id.value

/-- How often a number can be divided by ten before one digit is left, plus one. -/
def widthOf (n : Nat) : Nat := if n < 10 then 1 else widthOf (n / 10) + 1
termination_by n
decreasing_by omega

def width (id : Ident) : Nat := widthOf id.value

def sort (ids : List Ident) : List Ident := ids.mergeSort fun a b => a.value ≤ b.value

end Ident

end SchemaLedger
