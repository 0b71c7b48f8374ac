import SchemaLedger.Text.Hexadecimal
import SchemaLedger.Text.Octets
import SchemaLedger.Text.Split

/-! # Percent encoding

Any octet can stand in a URL as a percent sign and two hexadecimal digits. -/

namespace SchemaLedger.Url

def digit? (b : UInt8) : Option Nat := Text.Hexadecimal.value? (Char.ofNat b.toNat)

def encoded? (mark high low : UInt8) : Option UInt8 :=
  if mark = Text.octet '%' then do
    return UInt8.ofNat ((← digit? high) * 16 + (← digit? low))
  else none

/-- What octets stand for. A percent sign without two digits stands for itself. -/
def percentDecoded : Octets → Octets
  | mark :: high :: low :: rest =>
    match encoded? mark high low with
    | some b => b :: percentDecoded rest
    | none => mark :: percentDecoded (high :: low :: rest)
  | rest => rest

/-! ## Parameters -/

/-- A name or a value: a plus sign stands for a space, and what is not text is replaced. -/
def formText (cs : List Char) : String :=
  let spaced := cs.map fun c => if c = '+' then ' ' else c
  Text.lossy (percentDecoded (Text.octets (String.ofList spaced)))

/-- A name and a value around the first equals sign; the value is empty without one. -/
def parameter (cs : List Char) : String × String :=
  (formText (cs.takeWhile (· ≠ '=')), formText ((cs.dropWhile (· ≠ '=')).drop 1))

def parameters (query : List Char) : List (String × String) :=
  ((Text.split '&' query).filter (· ≠ [])).map parameter

end SchemaLedger.Url
