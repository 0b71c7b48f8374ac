import SchemaLedger.FileName
import SchemaLedger.Path
import SchemaLedger.Timestamp

/-! # Migrations

A migration as found in a directory, a renaming of its file, and its row in the ledger. -/

namespace SchemaLedger

structure Migration where
  path : Path
  name : String
  content : String
  id : Ident
  slug : String
  /-- The ID digits as the file name spells them, padding included. -/
  digits : String
  deriving DecidableEq, Repr

structure Renaming where
  source : Path
  target : Path
  deriving DecidableEq, Repr

def Renaming.text (r : Renaming) : String := r.source.text ++ " -> " ++ r.target.text

/-- One row of the ledger: a migration that has been applied. -/
structure LedgerRow where
  id : Ident
  slug : String
  runAt : Timestamp
  deriving DecidableEq, Repr

def ledgerTable : String := "schema_migrations"

namespace Migration

/-- The largest width among the IDs of some migrations, 0 if there are none. -/
def maxWidth (ms : List Migration) : Nat := (ms.map fun m => m.id.width).foldr max 0

/-- Ascending by ID; migrations of equal ID keep their order. -/
def sortById (ms : List Migration) : List Migration :=
  ms.mergeSort fun a b => a.id.value ≤ b.id.value

end Migration

end SchemaLedger
