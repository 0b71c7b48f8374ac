/-! # Punycode

The spelling of other characters by letters, digits and hyphens: the characters that need none
of it come first, and the rest follows as differences in a numeral system of variable bases. -/

namespace SchemaLedger.Url.Punycode

def digitValue? (c : Char) : Option Nat :=
  if 'a' ≤ c && c ≤ 'z' then some (c.toNat - 'a'.toNat)
  else if '0' ≤ c && c ≤ '9' then some (c.toNat - '0'.toNat + 26)
  else none

/-- The least digit after which a number goes on. -/
def threshold (place bias : Nat) : Nat := min 26 (max 1 (place - bias))

def damped (delta bias : Nat) : Nat :=
  if 455 < delta then damped (delta / 35) (bias + 36) else bias + 36 * delta / (delta + 38)
termination_by delta
decreasing_by omega

/-- The bias for the next difference, after one that brought the text to a length. -/
def adapted (delta length : Nat) (isFirst : Bool) : Nat :=
  let delta := if isFirst then delta / 700 else delta / 2
  damped (delta + delta / length) 0

/-- A spelling that has been read in part. -/
structure State where
  text : List Char
  code : Nat
  place : Nat
  /-- The place from which the difference counts. -/
  start : Nat
  weight : Nat
  position : Nat
  bias : Nat

def State.initial (text : List Char) : State := ⟨text, 0x80, 0, 0, 1, 36, 72⟩

def limit : Nat := 4294967295

def State.insert? (state : State) : Option State :=
  let length := state.text.length + 1
  let code := state.code + state.place / length
  let place := state.place % length
  if h : code.isValidChar then
    some ⟨state.text.insertIdx place (Char.ofNatAux code h), code, place + 1, place + 1, 1, 36,
      adapted (state.place - state.start) length (state.start = 0)⟩
  else none

def State.digit? (state : State) (digit : Nat) : Option State :=
  -- A digit below `least` ends a number; numbers must not exceed 32 bits.
  let least := threshold state.position state.bias
  let place := state.place + digit * state.weight
  let weight := state.weight * (36 - least)
  if limit < place then none
  else if digit < least then State.insert? { state with place := place }
  else if limit < weight then none
  else some { state with place := place, weight := weight, position := state.position + 36 }

/-- Reads digits; the last number must be complete. -/
def State.read? : State → List Char → Option (List Char)
  | state, [] => if state.position = 36 then some state.text else none
  | state, c :: rest =>
    match (digitValue? c).bind state.digit? with
    | some next => State.read? next rest
    | none => none

/-- The texts around the last hyphen; without one, or with nothing before it, all is digits. -/
def parts (cs : List Char) : List Char × List Char :=
  let digits := (cs.reverse.takeWhile (· ≠ '-')).reverse
  let basic := cs.take (cs.length - digits.length - 1)
  if basic = [] then ([], cs) else (basic, digits)

def decode? (cs : List Char) : Option (List Char) :=
  let (basic, digits) := parts cs
  State.read? (.initial basic) digits

end SchemaLedger.Url.Punycode
