import SchemaLedger.Apply.Plan
import SchemaLedger.Directive

/-! # Applying migrations

A migration runs in a transaction of its own that first claims its ID, so that of two runs only
one can record it. A migration with the no-transaction directive runs by itself, without a
claim. -/

namespace SchemaLedger.Apply

def claimFailure (m : Migration) (error : StoreError) : Failure :=
  match error with
  | .uniqueViolation _ => .claimConflict m.id m.name error
  | _ => .applyFailure m.name error

/-- Gives up a transaction. A rollback that fails is only noted. -/
def abort (tx : Store.Tx) (m : Migration) (failure : Failure) : Task Failure Unit := do
  match ← Task.store (.rollback tx) with
  | .ok () => pure ()
  | .error error => Task.note (.rollbackFailed m.name error)
  Task.fail failure

def applyDirectly (m : Migration) : Task Failure Unit := do
  Task.note (.withoutTransaction m.name)
  Task.ofExcept (Failure.applyFailure m.name) (← Task.store (.execute m.content))

/-- Runs a migration in a transaction that claims its ID. -/
def applyClaimed (m : Migration) : Task Failure Unit := do
  let tx ← Task.ofExcept (Failure.applyFailure m.name) (← Task.store .begin)
  match ← Task.store (.claim tx m.id m.slug) with
  | .error error => abort tx m (claimFailure m error)
  | .ok () =>
    match ← Task.store (.executeIn tx m.content) with
    | .error error => abort tx m (.applyFailure m.name error)
    | .ok () =>
      Task.ofExcept (Failure.applyFailure m.name) (← Task.store (.commit tx))

def apply (m : Migration) : Task Failure Unit :=
  if Directive.skipsTransaction m.content then applyDirectly m else applyClaimed m

def applyEach : List Migration → Task Failure Unit
  | [] => pure ()
  | m :: rest => do
    Task.note (.applying m.name)
    apply m
    Task.note (.applied m.id m.name)
    applyEach rest

structure Outcome where
  applied : List Ident
  /-- How many rows the ledger had before. -/
  skipped : Nat
  deriving DecidableEq, Repr

/-- Applies every pending migration up to an ID and stops at the first failure. -/
def run (dir : Path) (limit? : Option Ident) : Task Failure Outcome := do
  let (rows, needed) ← plan dir limit?
  applyEach needed
  pure ⟨needed.map (·.id), rows.length⟩

end SchemaLedger.Apply
