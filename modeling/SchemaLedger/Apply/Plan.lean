import SchemaLedger.Directory.Scan

/-! # Planning a run

Which migrations of a directory are not in the ledger yet. -/

namespace SchemaLedger.Apply

/-- The migrations whose ID is in no row, ascending by ID. -/
def pendingAmong (rows : List LedgerRow) (ms : List Migration) : List Migration :=
  Migration.sortById (ms.filter fun m => !rows.any (·.id = m.id))

def upTo (limit? : Option Ident) (ms : List Migration) : List Migration :=
  match limit? with
  | some limit => ms.filter (·.id ≤ limit)
  | none => ms

/-- The rows of the ledger. No rows if there is no ledger yet. -/
def applied : Task Failure (List LedgerRow) := do
  match ← Task.store .applied with
  | .ok rows => pure rows
  | .error .tableMissing => do
    Task.note .ledgerMissing
    pure []
  | .error error => Task.fail (.ledgerUnavailable error)

def plan (dir : Path) (limit? : Option Ident) :
    Task Failure (List LedgerRow × List Migration) := do
  let rows ← applied
  let ms ← Directory.scan dir
  pure (rows, upTo limit? (pendingAmong rows ms))

def pending (dir : Path) (limit? : Option Ident) : Task Failure (List Migration) := do
  let (_, needed) ← plan dir limit?
  pure needed

end SchemaLedger.Apply
