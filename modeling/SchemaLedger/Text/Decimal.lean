/-! # Decimal numerals

Writing natural numbers in decimal, and reading numbers of limited size from left to right. -/

namespace SchemaLedger.Decimal

def isDigit (c : Char) : Bool := '0' ≤ c && c ≤ '9'

def digitValue (c : Char) : Nat := c.toNat - '0'.toNat

def digit (n : Nat) : Char := Char.ofNat ('0'.toNat + n)

/-- The digits of a number, without leading zeros. -/
def digits (n : Nat) : List Char :=
  if n < 10 then [digit n] else digits (n / 10) ++ [digit (n % 10)]
termination_by n
decreasing_by omega

def text (n : Nat) : String := String.ofList (digits n)

def padded (width : Nat) (digits : List Char) : List Char :=
  List.replicate (width - digits.length) '0' ++ digits

def value (digits : List Char) : Nat := digits.foldl (fun n c => n * 10 + digitValue c) 0

def signedText : Int → String
  | .ofNat n => text n
  | .negSucc n => "-" ++ text (n + 1)

/-! ## Reading -/

inductive Problem where
  | empty
  | invalidDigit
  | tooLarge
  | tooSmall
  deriving DecidableEq, Repr

def Problem.message : Problem → String
  | .empty => "cannot parse integer from empty string"
  | .invalidDigit => "invalid digit found in string"
  | .tooLarge => "number too large to fit in target type"
  | .tooSmall => "number too small to fit in target type"

def maxInt64 : Nat := 9223372036854775807

def maxUInt16 : Nat := 65535

def maxUInt64 : Nat := 18446744073709551615

/-- Reads digits from left to right; the first problem met is the answer. A prefix whose value
exceeds the bound is a problem before the characters after it are looked at. -/
def readDigits (bound : Nat) (beyond : Problem) : Nat → List Char → Except Problem Nat
  | value, [] => .ok value
  | value, c :: rest =>
    if isDigit c then
      let next := value * 10 + digitValue c
      if bound < next then .error beyond else readDigits bound beyond next rest
    else .error .invalidDigit

/-- Reads a signed 64-bit integer: one optional sign, then digits. -/
def readSigned : List Char → Except Problem Int
  | [] => .error .empty
  | ['+'] => .error .invalidDigit
  | ['-'] => .error .invalidDigit
  | '+' :: rest => (readDigits maxInt64 .tooLarge 0 rest).map Int.ofNat
  | '-' :: rest => (readDigits (maxInt64 + 1) .tooSmall 0 rest).map fun n => -Int.ofNat n
  | cs => (readDigits maxInt64 .tooLarge 0 cs).map Int.ofNat

/-- Reads a natural number up to a bound: one optional plus sign, then digits. -/
def readUnsigned (bound : Nat) : List Char → Except Problem Nat
  | [] => .error .empty
  | ['+'] => .error .invalidDigit
  | '+' :: rest => readDigits bound .tooLarge 0 rest
  | cs => readDigits bound .tooLarge 0 cs

end SchemaLedger.Decimal
