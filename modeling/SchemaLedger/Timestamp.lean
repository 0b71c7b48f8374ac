import SchemaLedger.Text.Decimal

/-! # Timestamps

Points in time as the ledger holds them, in microseconds, written in the proleptic Gregorian
calendar. -/

namespace SchemaLedger

/-- Microseconds since the beginning of 1970. -/
structure Timestamp where
  micros : Int
  deriving DecidableEq, Repr

namespace Timestamp

def epoch : Timestamp := ⟨0⟩

def ofMicrosSince2000 (n : Int) : Timestamp := ⟨n + 946684800000000⟩

/-- Year, month and day of a day counted from the beginning of 1970. Years begin in March here,
so that the leap day is the last of its year, and 400 of them have 146097 days. -/
def civil (days : Int) : Int × Nat × Nat :=
  let shifted := days + 719468
  let era := shifted.fdiv 146097
  let dayOfEra := (shifted.fmod 146097).toNat
  let yearOfEra := (dayOfEra - dayOfEra / 1460 + dayOfEra / 36524 - dayOfEra / 146096) / 365
  let dayOfYear := dayOfEra - (365 * yearOfEra + yearOfEra / 4 - yearOfEra / 100)
  let monthFromMarch := (5 * dayOfYear + 2) / 153
  let day := dayOfYear - (153 * monthFromMarch + 2) / 5 + 1
  let month := if monthFromMarch < 10 then monthFromMarch + 3 else monthFromMarch - 9
  let year := era * 400 + yearOfEra + (if month ≤ 2 then 1 else 0)
  (year, month, day)

def padded (width n : Nat) : String := String.ofList (Decimal.padded width (Decimal.digits n))

/-- Four digits from year 0 to 9999, and a sign with at least four digits beyond. -/
def yearText (year : Int) : String :=
  if 0 ≤ year ∧ year ≤ 9999 then padded 4 year.toNat
  else (if year < 0 then "-" else "+") ++ padded 4 year.natAbs

/-- The fraction of a second: none, three digits or six. -/
def fractionText (micros : Nat) : String :=
  if micros = 0 then ""
  else if micros % 1000 = 0 then "." ++ padded 3 (micros / 1000)
  else "." ++ padded 6 micros

def text (t : Timestamp) : String :=
  let day := 86400000000
  let (year, month, dayOfMonth) := civil (t.micros.fdiv day)
  let rest := (t.micros.fmod day).toNat
  let seconds := rest / 1000000
  let clock := padded 2 (seconds / 3600) ++ ":" ++ padded 2 (seconds / 60 % 60) ++ ":" ++
    padded 2 (seconds % 60)
  yearText year ++ "-" ++ padded 2 month ++ "-" ++ padded 2 dayOfMonth ++ " " ++ clock ++
    fractionText (rest % 1000000)

end Timestamp

end SchemaLedger
