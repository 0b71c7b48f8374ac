import SchemaLedger.Text.Decimal
import SchemaLedger.Text.Split
import SchemaLedger.Url.Percent

/-! # Addresses

Numeric addresses of hosts: of 32 bits in four decimal parts, or more freely in up to four
numbers, and of 128 bits in groups between colons. -/

namespace SchemaLedger.Url

def isHex (c : Char) : Bool := (Text.Hexadecimal.value? c).isSome

def isByte (cs : List Char) : Bool :=
  cs ≠ [] && cs.all Decimal.isDigit && cs.length ≤ 3 && (cs.length = 1 || cs.head? ≠ some '0') &&
    Decimal.value cs ≤ 255

def isIpv4 (cs : List Char) : Bool :=
  let parts := Text.split '.' cs
  parts.length = 4 && parts.all isByte

/-! ## Groups between colons -/

def isGroup (cs : List Char) : Bool := cs ≠ [] && cs.length ≤ 4 && cs.all isHex

/-- How many groups of 16 bits some parts stand for; only the last may be four decimal parts. -/
def groups : List (List Char) → Option Nat
  | [] => some 0
  | [part] => if isGroup part then some 1 else if isIpv4 part then some 2 else none
  | part :: parts => if isGroup part then (groups parts).map (· + 1) else none

def splitPair : List Char → Option (List Char × List Char)
  | ':' :: ':' :: rest => some ([], rest)
  | c :: cs => (splitPair cs).map fun (before, after) => (c :: before, after)
  | [] => none

def groupsOf (cs : List Char) : Option Nat := if cs = [] then some 0 else groups (Text.split ':' cs)

def isIpv6 (cs : List Char) : Bool :=
  match splitPair cs with
  | none => groupsOf cs = some 8
  | some (before, after) =>
    match groupsOf before, groupsOf after with
    | some m, some n => before.all (· ≠ '.') && m + n ≤ 7
    | _, _ => false

/-! ## Numbers for names

A domain name whose last label is a number is an address, and must be a valid one. -/

def inBase? (base : Nat) (cs : List Char) : Option Nat :=
  cs.foldlM (fun value c => do
    let digit ← Text.Hexadecimal.value? c
    if digit < base then return value * base + digit else none) 0

/-- The number of a label: hexadecimal after `0x`, octal after another zero, else decimal. -/
def labelNumber? : List Char → Option Nat
  | [] => none
  | '0' :: 'x' :: rest => inBase? 16 rest
  | '0' :: c :: rest => inBase? 8 (c :: rest)
  | cs => inBase? 10 cs

def withoutRoot (labels : List (List Char)) : List (List Char) :=
  if labels.getLast? = some [] then labels.dropLast else labels

def endsInNumber (labels : List (List Char)) : Bool :=
  match (withoutRoot labels).getLast? with
  | some label => label ≠ [] && (label.all Decimal.isDigit || (labelNumber? label).isSome)
  | none => false

/-- Whether numbers make up an address: all but the last take an octet each, and the last takes
the octets that are left. -/
def fits (numbers : List Nat) : Bool :=
  numbers.length ≤ 4 && numbers.dropLast.all (· ≤ 255) &&
    numbers.getLast?.all fun last => last < Nat.pow 256 (5 - numbers.length)

def isNumericAddress (labels : List (List Char)) : Bool :=
  match (withoutRoot labels).mapM labelNumber? with
  | some numbers => fits numbers
  | none => false

end SchemaLedger.Url
