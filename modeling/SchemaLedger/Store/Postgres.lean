import SchemaLedger.Store.Call

/-! # The store on PostgreSQL

The calls to the store as statements for a database server, over one connection. What the server
answers is left open. -/

namespace SchemaLedger.Store.Postgres

inductive Column (α : Type) where
  | absent
  | unreadable (problem : String)
  | value (content : α)
  deriving DecidableEq, Repr

def Column.null {α : Type} : Column α :=
  .unreadable "unexpected null; try decoding as an `Option`"

structure Row where
  id : Column Int
  slug : Column String
  /-- In microseconds since the beginning of 2000. -/
  runAt : Column Int
  deriving DecidableEq, Repr

inductive Parameter where
  | integer (value : Int)
  | text (value : String)
  deriving DecidableEq, Repr

inductive Statement where
  | rows (sql : String)
  | prepared (sql : String) (parameters : List Parameter)
  /-- A text that may hold several statements. -/
  | simple (sql : String)
  deriving DecidableEq, Repr

abbrev Statement.Answer : Statement → Type
  | .rows _ => Except DriverError (List Row)
  | _ => Except DriverError Unit

abbrev server : Interface := ⟨Statement, Statement.Answer⟩

/-! ## Statements -/

/-- The ID is widened so that it can be read whatever integer type the column has. -/
def ledgerQuery : String :=
  "SELECT id::bigint AS id, slug, run_at FROM " ++ ledgerTable ++ " ORDER BY id ASC"

def claimQuery : String := "SELECT _drift_claim_migration($1::integer, $2)"

/-! ## Rows -/

def Column.read {α : Type} (name : String) : Column α → Except StoreError α
  | .absent => .error (.classify (.columnNotFound name))
  | .unreadable problem => .error (.classify (.columnUnreadable name problem))
  | .value content => .ok content

/-- A row of the ledger; the columns are read in their order, and the ID is judged last. -/
def Row.read (row : Row) : Except StoreError LedgerRow := do
  let number ← row.id.read "id"
  let slug ← row.slug.read "slug"
  let runAt ← row.runAt.read "run_at"
  match Ident.ofInt number with
  | .ok id => .ok ⟨id, slug, .ofMicrosSince2000 runAt⟩
  | .error error => .error (.backend ("malformed ledger row: " ++ error.message))

def readRows : List Row → Except StoreError (List LedgerRow)
  | [] => .ok []
  | row :: rest => do
    let first ← row.read
    let others ← readRows rest
    .ok (first :: others)

/-! ## Calls -/

def send (sql : String) : Program server (Except DriverError Unit) :=
  Program.request (I := server) (.simple sql)

/-- Sends a statement that begins or ends a transaction. If the server refuses it, the client library
that holds the connection sends a rollback of its own when the transaction is let go; what comes of
that does not matter. -/
def control (sql : String) : Program server (Except StoreError Unit) := do
  match ← send sql with
  | .ok () => pure (.ok ())
  | .error error => do
    let _ ← send "ROLLBACK"
    pure (.error (.classify error))

/-- The only connection has at most one open transaction. -/
def onlyTx : Tx := ⟨0⟩

/-- A call to the store as a dialogue with the server. -/
def word : (call : Call) → Program server call.Answer
  | .applied => do
    match ← Program.request (I := server) (.rows ledgerQuery) with
    | .ok rows => pure (readRows rows)
    | .error error => pure (.error (.classify error))
  | .execute sql => do return (← send sql).mapError .classify
  | .begin => do return (← control "BEGIN").map fun () => onlyTx
  | .claim _ id slug => do
    let statement := Statement.prepared claimQuery [.integer id.value, .text slug]
    let reply : Except DriverError Unit ← Program.request (I := server) statement
    return reply.mapError .classify
  | .executeIn _ sql => do return (← send sql).mapError .classify
  | .commit _ => control "COMMIT"
  | .rollback _ => control "ROLLBACK"

def answer {σ : Type} (serve : Handler server σ) : Handler calls σ :=
  fun call s => (word call).run serve s

end SchemaLedger.Store.Postgres
